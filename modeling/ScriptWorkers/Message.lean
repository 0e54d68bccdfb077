import ScriptWorkers.Error
import ScriptWorkers.Json.Parser

/-!
# Messages

This part is what goes through the queues.  A message is the JSON text of a value, made when the
value is posted (`Message.encode`) and read again when it is delivered (`Message.decode`).

`Payload` is what a host may post: besides JSON values it has doubles that are no numbers, whole
numbers of any size, maps whose entries are written in the given order, and values that refuse to be
written.  Writing goes depth first and the first refusal wins.
-/

namespace ScriptWorkers

/-- The key of an entry in a posted map. -/
inductive Payload.Key where
  | str (s : String)
  | int (n : Int)
  | bool (b : Bool)
  | float (f : Float)
  /-- Anything that has no text. -/
  | other

/-- A value posted by a host. -/
inductive Payload where
  | json (v : Json)
  | float (f : Float)
  | int (n : Int)
  | seq (items : List Payload)
  | pairs (entries : List (Payload.Key × Payload))
  | fail (text : String)

namespace Payload

/-- The text of a key, in quotes. -/
def Key.write : Key → Except SerializationError (List Char)
  | str s => .ok (Json.quoted s)
  | int n => .ok ('"' :: (Json.intText n ++ ['"']))
  | bool b => .ok (Json.quoted (if b then "true" else "false"))
  | float f =>
    if f.isFinite then .ok ('"' :: (Decimal.Layout.wire.render f ++ ['"']))
    else .error ⟨"float key must be finite (got NaN or +/-inf)"⟩
  | other => .error ⟨"key must be a string"⟩

mutual

/-- The text of a payload. -/
def write : Payload → Except SerializationError (List Char)
  | json v => .ok v.write
  | float f => .ok (Json.floatText f)
  | int n => .ok (Json.intText n)
  | seq items => do
    let pieces ← writeItems items
    return '[' :: (Json.separated pieces ++ [']'])
  | pairs entries => do
    let pieces ← writeEntries entries
    return '{' :: (Json.separated pieces ++ ['}'])
  | fail text => .error (.ofText text)

/-- The texts of the items of a sequence. -/
def writeItems : List Payload → Except SerializationError (List (List Char))
  | [] => .ok []
  | p :: rest => do
    let piece ← write p
    let pieces ← writeItems rest
    return piece :: pieces

/-- The texts of the entries of a map. -/
def writeEntries : List (Key × Payload) → Except SerializationError (List (List Char))
  | [] => .ok []
  | (k, p) :: rest => do
    let key ← k.write
    let piece ← write p
    let pieces ← writeEntries rest
    return (key ++ ':' :: piece) :: pieces

end

end Payload

/-- A value on its way. -/
structure Message where
  text : String
deriving Repr, DecidableEq

namespace Message

/-- The message of a payload. -/
def encode (p : Payload) : Except SerializationError Message :=
  p.write.map fun cs ↦ ⟨String.ofList cs⟩

/-- The message of a JSON value, which can always be written. -/
def ofJson (v : Json) : Message := ⟨v.render⟩

/-- The value of a message. -/
def decode (m : Message) : Except SerializationError Json :=
  match Json.parse m.text with
  | .ok v => .ok v
  | .error e => .error ⟨e.message⟩

/-- The argument a callback gets for a delivered value. -/
def event (v : Json) : Json := .obj [("data", v)]

/-- The value that a callback has been given, null if there is none. -/
def dataOf (args : List Json) : Json := (args.head?.bind (·.field? "data")).getD .null

end Message

end ScriptWorkers
