import ScriptWorkers.Json.Basic
import ScriptWorkers.Loader.Files
import ScriptWorkers.Loader.Shelf

/-!
# Loaders

This part is where scripts come from: a shelf in memory, or files below a root.  `Loader.contains`
is asked before a worker is spawned, and `Loader.load` when its thread starts; in between a script
may have gone.
-/

namespace ScriptWorkers

/-- The source of a script. -/
inductive Code where
  | text (s : String)
  /-- A program given as a list of statements. -/
  | program (statements : List Json)

/-- The contents of a file. -/
inductive Contents where
  | bytes (b : ByteArray)
  | program (statements : List Json)

namespace Contents

/-- The source that a file holds. -/
def code : Contents → Except FileError Code
  | bytes b => (textOf b).map Code.text
  | program p => .ok (.program p)

end Contents

/-- Where scripts come from. -/
inductive Loader where
  | shelf (s : Shelf Code)
  | files (root : String) (working : Spot) (tree : Files Contents)

namespace Loader

/-- There is a script of that name. -/
def contains : Loader → String → Bool
  | shelf s, id => s.contains id
  | files root working tree, id => tree.isFile working (Path.resolve root id).toList

/-- The script of that name, or the wording of why there is none. -/
def load : Loader → String → Except String Code
  | shelf s, id =>
    match s.get? id with
    | some c => .ok c
    | none => .error (Shelf.missing id)
  | files root working tree, id =>
    match tree.read working (Path.resolve root id).toList >>= Contents.code with
    | .ok c => .ok c
    | .error e => .error e.message

/-- Puts a script on the shelf. -/
def insert : Loader → String → Code → Loader
  | shelf s, id, c => shelf (s.insert id c)
  | l, _, _ => l

/-- Takes a script from the shelf. -/
def erase : Loader → String → Loader
  | shelf s, id => shelf (s.erase id)
  | l, _ => l

end Loader

end ScriptWorkers
