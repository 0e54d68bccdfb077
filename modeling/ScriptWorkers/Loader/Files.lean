import ScriptWorkers.Loader.Path

/-!
# A tree of files

Just enough of a file system to tell what a path leads to.  A path is walked piece by piece, and the
first thing that goes wrong is the answer.

* `walk` and `find` — from a path to a place; `FileError` says what may be wrong with it.
* `read`, `isFile`, `canonical`, `write` — what the loader and the command line do with files.
-/

namespace ScriptWorkers

/-- Why a file could not be read. -/
inductive FileError where
  | notFound
  | isADirectory
  | notADirectory
  | nameTooLong
  /-- The content is no text. -/
  | invalidData
  /-- The path holds a NUL. -/
  | invalidInput
deriving Repr, DecidableEq

namespace FileError

/-- The name of the cause. -/
def kind : FileError → String
  | notFound => "NotFound"
  | isADirectory => "IsADirectory"
  | notADirectory => "NotADirectory"
  | nameTooLong => "InvalidFilename"
  | invalidData => "InvalidData"
  | invalidInput => "InvalidInput"

/-- The wording. -/
def message : FileError → String
  | notFound => "No such file or directory (os error 2)"
  | isADirectory => "Is a directory (os error 21)"
  | notADirectory => "Not a directory (os error 20)"
  | nameTooLong => "File name too long (os error 36)"
  | invalidData => "stream did not contain valid UTF-8"
  | invalidInput => "file name contained an unexpected NUL byte"

end FileError

/-- Where something sits in the tree. -/
abbrev Spot := List (List Char)

/-- Files with contents of type `γ`, and directories, by where they sit. -/
structure Files (γ : Type) where
  /-- A directory is an entry without contents. -/
  entries : List (Spot × Option γ)

namespace Files

variable {γ : Type}

/-- The longest piece of a path, in bytes. -/
def pieceLimit : Nat := 255

/-- The longest path, in bytes. -/
def pathLimit : Nat := 4095

/-- The length in bytes. -/
def byteSize (cs : List Char) : Nat := cs.foldr (fun c n ↦ c.utf8Size + n) 0

/-- What sits at a place: nothing, a directory, or a file.  What is above an entry is a
directory. -/
def at? (t : Files γ) (s : Spot) : Option (Option γ) :=
  match t.entries.lookup s with
  | some e => some e
  | none => if s.isEmpty || t.entries.any (fun e ↦ s.isPrefixOf e.1) then some none else none

/-- Goes from a place along the pieces of a path. -/
def walk (t : Files γ) (here : Spot) : List (List Char) → Except FileError Spot
  | [] => .ok here
  | p :: rest =>
    match t.at? here with
    | some none =>
      if p.isEmpty || p == ['.'] then walk t here rest
      else if p == ['.', '.'] then walk t here.dropLast rest
      else if byteSize p > pieceLimit then .error .nameTooLong
      else if (t.at? (here ++ [p])).isSome then walk t (here ++ [p]) rest
      else .error .notFound
    | _ => .error .notADirectory

/-- The place a path leads to from a working directory. -/
def find (t : Files γ) (working : Spot) (path : List Char) : Except FileError Spot :=
  if path.contains (Char.ofNat 0) then .error .invalidInput
  else if path.isEmpty then .error .notFound
  else if byteSize path > pathLimit then .error .nameTooLong
  else walk t (if Path.isAbsolute path then [] else working) (Path.pieces path)

/-- The contents of the file that a path leads to. -/
def read (t : Files γ) (working : Spot) (path : List Char) : Except FileError γ := do
  match t.at? (← t.find working path) with
  | some (some c) => .ok c
  | _ => .error .isADirectory

/-- The path leads to a file. -/
def isFile (t : Files γ) (working : Spot) (path : List Char) : Bool :=
  match t.read working path with
  | .ok _ => true
  | .error _ => false

/-- The absolute path of a place. -/
def absolute (s : Spot) : List Char := '/' :: Path.unpieces s

/-- The one absolute path of what a path leads to. -/
def canonical (t : Files γ) (working : Spot) (path : List Char) : Except FileError (List Char) :=
  (t.find working path).map absolute

/-- Puts a file in place of what may be there. -/
def put (t : Files γ) (s : Spot) (content : γ) : Files γ :=
  ⟨(s, some content) :: t.entries.filter (·.1 ≠ s)⟩

/-- The path ends in a piece that leads nowhere new. -/
def isDots (p : List Char) : Bool := p.isEmpty || p == ['.'] || p == ['.', '.']

/-- Writes a file at a path, whose directory has to be there.  A path that ends in a slash cannot be
that of a file. -/
def write (t : Files γ) (working : Spot) (path : List Char) (content : γ) :
    Except FileError (Files γ) := do
  if path.contains (Char.ofNat 0) then .error .invalidInput
  else if path.isEmpty then .error .notFound
  else if byteSize path > pathLimit then .error .nameTooLong
  else
    let all := Path.pieces path
    let pieces := (all.reverse.dropWhile (·.isEmpty)).reverse
    let slashed := pieces.length < all.length
    let last := pieces.getLastD []
    let start := if Path.isAbsolute path then [] else working
    if isDots last then
      let _ ← t.walk start pieces
      .error .isADirectory
    else
      let above ← t.walk start pieces.dropLast
      match t.at? above with
      | some none =>
        if byteSize last > pieceLimit then .error .nameTooLong
        else
          match t.at? (above ++ [last]) with
          | some none => .error .isADirectory
          | some (some _) =>
            if slashed then .error .notADirectory else .ok (t.put (above ++ [last]) content)
          | none => if slashed then .error .isADirectory else .ok (t.put (above ++ [last]) content)
      | _ => .error .notADirectory

end Files

/-- The text of the bytes of a file. -/
def textOf (bytes : ByteArray) : Except FileError String :=
  match String.fromUTF8? bytes with
  | some s => .ok s
  | none => .error .invalidData

end ScriptWorkers
