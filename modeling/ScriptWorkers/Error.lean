/-!
# Errors

What can go wrong, by cause, and the one wording of each cause.

* `SerializationError`, `CreationError`, `ScriptError` — posting, spawning, running a script.
* `WorkerError` and `HostError` collect the causes as an owner of workers and as a host meet them;
  they add no words of their own except for input and output.
* `StripError` — a source whose types could not be taken out.
-/

namespace ScriptWorkers

/-- A value has no JSON text, or a text no value. -/
structure SerializationError where
  text : String
deriving Repr, DecidableEq

namespace SerializationError

/-- The number of 64 bits that digits spell. -/
def number? (ds : List Char) : Option Nat :=
  let n := ds.foldl (fun n c ↦ 10 * n + (c.toNat - '0'.toNat)) 0
  if ds.isEmpty || UInt64.size ≤ n then none else some n

/-- Splits a line and a column off the end of a text. -/
def splitPlace? (cs : List Char) : Option (List Char × Nat × Nat) := do
  let column := cs.reverse.takeWhile Char.isDigit
  let rest := cs.reverse.drop column.length
  let between := " column ".toList.reverse
  if !between.isPrefixOf rest then none
  let rest := rest.drop between.length
  let line := rest.takeWhile Char.isDigit
  let rest := rest.drop line.length
  let before := " at line ".toList.reverse
  if !before.isPrefixOf rest then none
  return ((rest.drop before.length).reverse, ← number? line.reverse, ← number? column.reverse)

/-- The error that a text describes.  A place at its end is taken for one: its numbers lose their
leading zeros, and line zero, which is no line, is left out. -/
def ofText (s : String) : SerializationError :=
  match splitPlace? s.toList with
  | none => ⟨s⟩
  | some (cs, 0, _) => ⟨String.ofList cs⟩
  | some (cs, line, column) => ⟨s!"{String.ofList cs} at line {line} column {column}"⟩

/-- The wording. -/
def message (e : SerializationError) : String := "Failed to serialize message: " ++ e.text

end SerializationError

/-- Why a worker could not be created. -/
inductive CreationError where
  | missingScript
  | scriptNotFound (id : String)
  /-- The thread could not be started. -/
  | thread (text : String)
deriving Repr, DecidableEq

namespace CreationError

/-- The wording. -/
def message : CreationError → String
  | missingScript => "Worker constructor: at least 1 argument required, but only 0 passed"
  | scriptNotFound id => "Worker constructor: file " ++ id ++ " does not exist"
  | thread text => "Failed to spawn worker thread: " ++ text

end CreationError

/-- Why a script or a callback did not come to its end. -/
inductive ScriptError where
  | compile (name text : String)
  | uncaught (text : String)
  | load (id text : String)
  | context (text : String)
deriving Repr, DecidableEq

/-- The text up to the first colon and blank. -/
def beforeColon : List Char → List Char
  | [] => []
  | ':' :: ' ' :: _ => []
  | c :: rest => c :: beforeColon rest

/-- The text up to the first line that tells a place in a script. -/
def beforeTrace : List Char → List Char
  | [] => []
  | c :: rest =>
    if "\n    at ".toList.isPrefixOf (c :: rest) then [] else c :: beforeTrace rest

namespace ScriptError

/-- The wording. -/
def message : ScriptError → String
  | compile name text => "Failed to compile " ++ name ++ ": " ++ text
  | uncaught text => "Uncaught exception: " ++ text
  | load id text => "Could not load " ++ id ++ ": " ++ text
  | context text => "Failed to create script context: " ++ text

/-- The wording without the details of a compiler's complaint and without places in scripts. -/
def headline : ScriptError → String
  | uncaught text => (uncaught (String.ofList (beforeTrace text.toList))).message
  | compile name text =>
    "Failed to compile " ++ String.ofList (beforeColon (name ++ ": " ++ text).toList)
  | e => e.message

/-- The name of the cause. -/
def kind : ScriptError → String
  | compile .. => "Compile"
  | uncaught _ => "Uncaught"
  | load .. => "Load"
  | context _ => "Context"

end ScriptError

/-- What an owner of workers meets. -/
inductive WorkerError where
  | creation (e : CreationError)
  | serialization (e : SerializationError)
  | script (e : ScriptError)
deriving Repr, DecidableEq

namespace WorkerError

/-- The wording is that of the cause. -/
def message : WorkerError → String
  | creation e => e.message
  | serialization e => e.message
  | script e => e.message

end WorkerError

/-- What a host meets. -/
inductive HostError where
  | script (e : ScriptError)
  | creation (e : CreationError)
  | io (text : String)
deriving Repr, DecidableEq

namespace HostError

/-- The wording is that of the cause. -/
def message : HostError → String
  | script e => e.message
  | creation e => e.message
  | io text => "IO error: " ++ text

end HostError

/-- Why a source was not stripped of its types. -/
inductive StripError where
  | parse (text : String)
  | transform (text : String)
  | sourceType (text : String)
  | io (text : String)
deriving Repr, DecidableEq

namespace StripError

/-- The wording. -/
def message : StripError → String
  | parse text => "Failed to parse TypeScript: " ++ text
  | transform text => "Failed to transform TypeScript: " ++ text
  | sourceType text => "Invalid source type: " ++ text
  | io text => "IO error: " ++ text

end StripError

end ScriptWorkers
