import ScriptWorkers.TypeScript.Token

/-!
# Taking tokens off the front

A reader takes tokens off the front of a source, or finds the source malformed.  It may look ahead
as far as it likes, and come back.  On its way it counts the parameters that have a name which
another one of the same list has before them; that is no reason to stop.
-/

namespace ScriptWorkers
namespace TypeScript

/-- How far a source has been read. -/
structure Position where
  /-- The tokens that are left. -/
  rest : List Lexeme
  /-- The source is a module, where one can wait for things. -/
  isModule : Bool
  /-- The strict rules apply. -/
  strict : Bool
  /-- The parameters so far whose name is taken. -/
  repeated : Nat := 0

abbrev Reader := StateT Position Option

namespace Reader

def next? : Reader (Option Lexeme) := do return (← get).rest.head?

/-- Takes the next token, whatever it is. -/
def take : Reader Token := do
  let p ← get
  match p.rest with
  | [] => failure
  | l :: rest => do
    set { p with rest := rest }
    return l.token

def skip : Reader Unit := discard take

def atMark (m : String) : Reader Bool := do return (← next?).any (·.token == .mark m.toList)

def atWord (w : String) : Reader Bool := do return (← next?).any (·.token == .word w.toList)

/-- There is a next token, and it stands in the same line. -/
def sameLine : Reader Bool := do return (← next?).any (!·.afterLine)

/-- Takes a mark if it comes next. -/
def eatMark (m : String) : Reader Bool := do
  if ← atMark m then skip; return true else return false

/-- Takes a word if it comes next. -/
def eatWord (w : String) : Reader Bool := do
  if ← atWord w then skip; return true else return false

/-- Takes a mark if it comes next in the same line. -/
def eatMarkHere (m : String) : Reader Bool := do
  if ← sameLine then eatMark m else return false

/-- Takes a word if it comes next in the same line. -/
def eatWordHere (w : String) : Reader Bool := do
  if ← sameLine then eatWord w else return false

/-- Takes one of some words if it comes next. -/
def eatOneOf (ws : List String) : Reader Bool := do
  match ← next? with
  | some ⟨.word cs, _⟩ => if ws.contains (String.ofList cs) then skip; return true else return false
  | _ => return false

/-- Takes a mark that has to come next. -/
def mark (m : String) : Reader Unit := do
  if !(← eatMark m) then failure

def word : Reader (List Char) := do
  match ← take with
  | .word cs => return cs
  | _ => failure

/-- What a reader finds, without taking it. -/
def ahead {α : Type} (r : Reader α) : Reader (Option α) := do
  return ((r.run (← get)).map (·.1))

/-- The reader would succeed here. -/
def would (r : Reader Unit) : Reader Bool := do return (← ahead r).isSome

/-- Goes on only if something holds. -/
def check (p : Reader Bool) : Reader Unit := do
  if !(← p) then failure

/-- Takes what the reader takes, or nothing if it fails. -/
def attempt {α : Type} (r : Reader α) : Reader (Option α) := do
  match r.run (← get) with
  | some (a, p) => do
    set p
    return some a
  | none => return none

/-- Things with commas between, up to a closing mark; a comma may stand before it. -/
def listUntil (close : String) (item : Reader Unit) : Nat → Reader Unit
  | 0 => failure
  | n + 1 => do
    if ← eatMark close then return
    item
    if ← eatMark "," then listUntil close item n else mark close

/-- The end of a statement: a semicolon, or a place where one may be left out. -/
def statementEnd : Reader Unit := do
  if ← eatMark ";" then return
  if (← next?).isNone || (← atMark "\x7d") || !(← sameLine) then return
  failure

end Reader

/-! ## Names -/

def reserved : List String :=
  ["break", "case", "catch", "class", "const", "continue", "debugger", "default", "delete", "do",
    "else", "enum", "export", "extends", "false", "finally", "for", "function", "if", "import",
    "in", "instanceof", "new", "null", "return", "super", "switch", "this", "throw", "true", "try",
    "typeof", "var", "void", "while", "with"]

def isName (cs : List Char) : Bool := !reserved.contains (String.ofList cs)

namespace Reader

def atName : Reader Bool := do
  match ← next? with
  | some ⟨.word cs, _⟩ => return isName cs
  | _ => return false

def name : Reader (List Char) := do
  let cs ← word
  if isName cs then return cs else failure

/-- Takes a name that something is called by from here on. -/
def newName : Reader (List Char) := do
  let cs ← name
  if (← get).isModule && cs == "await".toList then failure else return cs

end Reader

end TypeScript
end ScriptWorkers
