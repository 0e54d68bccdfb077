/-!
# Paths

Script names are turned into paths by text alone: a leading `file://` and then a leading `./` are
taken off (`bare`), an absolute path is used as it is, and any other is joined to the root (`join`,
`resolve`).  `locate` is the opposite: the command line splits the path of a script into a root and
a name below it.
-/

namespace ScriptWorkers
namespace Path

/-- Takes a text off the front, if it is there. -/
def dropLead (lead cs : List Char) : List Char :=
  if lead.isPrefixOf cs then cs.drop lead.length else cs

/-- The path starts at the top of the tree. -/
def isAbsolute : List Char → Bool
  | '/' :: _ => true
  | _ => false

/-- A path below a root.  A slash is put between the two unless the root is empty or ends in one; an
absolute path displaces the root. -/
def join (root path : List Char) : List Char :=
  if isAbsolute path then path
  else if root.isEmpty || root.getLast? == some '/' then root ++ path
  else root ++ '/' :: path

/-- What a script name says after its optional lead-ins. -/
def bare (id : List Char) : List Char := dropLead "./".toList (dropLead "file://".toList id)

/-- The path that a script name stands for. -/
def resolve (root id : String) : String :=
  String.ofList (join root.toList (bare id.toList))

/-- The pieces between the places where a character stands; there is always at least one. -/
def cut (sep : Char) : List Char → List (List Char)
  | [] => [[]]
  | c :: rest =>
    match cut sep rest with
    | [] => [[c]]
    | p :: ps => if c = sep then [] :: p :: ps else (c :: p) :: ps

/-- The pieces between the slashes. -/
def pieces (path : List Char) : List (List Char) := cut '/' path

/-- The pieces that say something: neither empty nor a single dot. -/
def steps (path : List Char) : List (List Char) :=
  (pieces path).filter fun p ↦ !(p.isEmpty || p == ['.'])

/-- Pieces put together with slashes. -/
def unpieces : List (List Char) → List Char
  | [] => []
  | [p] => p
  | p :: ps => p ++ '/' :: unpieces ps

/-- What is left of a list once a shorter one is taken off its front. -/
def strip {α : Type} [DecidableEq α] : List α → List α → Option (List α)
  | [], l => some l
  | _ :: _, [] => none
  | a :: p, b :: l => if a = b then strip p l else none

/-- The path of a directory above. -/
def parent (path : List Char) : List Char := '/' :: unpieces (steps path).dropLast

/-- A backslash separates like a slash. -/
def slashed (cs : List Char) : List Char := cs.map fun c ↦ if c = '\\' then '/' else c

/-- Splits an absolute script path into a root and the script name below it.  The root is the
directory of the script unless another one is given; `none` if that one does not hold the script, or
if the script is the top of the tree and so in no directory. -/
def locate (script : List Char) (assets : Option (List Char)) : Option (List Char × List Char) :=
  if assets.isNone && (steps script).isEmpty then none
  else
    let root := assets.getD (parent script)
    (strip (steps root) (steps script)).map fun rest ↦ (root, slashed (unpieces rest))

end Path
end ScriptWorkers
