import ScriptWorkers.Message

/-!
# Payloads written as JSON

Where a payload has to be written down it is written as JSON.  A value stands for itself, except
that an object with a single field of a certain name stands for something JSON has no value for.

`Payload.ofJson` reads a payload that is written so.
-/

namespace ScriptWorkers

namespace Json

/-- The text of a string value, empty for any other. -/
def text : Json → String
  | str s => s
  | _ => ""

/-- The items of an array, none for any other value. -/
def items : Json → List Json
  | arr xs => xs
  | _ => []

/-- A natural number. -/
def nat? : Json → Option Nat
  | int n => if n < 0 then none else some n.toNat
  | _ => none

/-- A double: written out in a string, or a number. -/
def float? : Json → Option Float
  | str s => Decimal.ofString? s
  | int n => some (Float.ofInt n)
  | float f => some f
  | _ => none

/-- Wraps a value in an array. -/
def inArray (v : Json) : Json := arr [v]

/-- Wraps a value in an object. -/
def inObject (v : Json) : Json := obj [("k", v)]

/-- The value that `nest` describes: a leaf wrapped a number of times. -/
def nested (x : Json) : Json :=
  let wrap := if (x.field? "kind").getD null == str "obj" then inObject else inArray
  wrapped wrap ((x.field? "leaf").getD null) (((x.field? "n").bind nat?).getD 0)

end Json

namespace Payload

/-- The key that a value stands for. -/
def Key.ofJson : Json → Key
  | .str s => .str s
  | .int n => .int n
  | .bool b => .bool b
  | .float f => .float f
  | .obj [("f64", x)] => .float (x.float?.getD 0.0)
  | _ => .other

/-- The number that decimal digits spell, of which there has to be one. -/
def digits? (cs : List Char) : Option Nat :=
  if cs.isEmpty || !cs.all Char.isDigit then none
  else some (cs.foldl (fun n c ↦ 10 * n + (c.toNat - 48)) 0)

/-- A number has a place in 128 bits, with or without a sign. -/
def isWide (signed : Bool) (n : Int) : Bool :=
  let bound : Int := Nat.pow 2 127
  if signed then -bound ≤ n && n < bound else 0 ≤ n && n < 2 * bound

/-- A whole number of 128 bits.  A plus sign is always allowed, a minus sign if there are negative
numbers. -/
def wide? (signed : Bool) (cs : List Char) : Option Int :=
  let n? : Option Int := match cs with
    | '+' :: ds => (digits? ds).map Int.ofNat
    | '-' :: ds => if signed then (digits? ds).map fun n ↦ -(n : Int) else none
    | ds => (digits? ds).map Int.ofNat
  n?.filter (isWide signed)

/-- A wide number; what is no number counts as zero. -/
def wideOf (signed : Bool) (x : Json) : Payload := .int ((wide? signed x.text.toList).getD 0)

mutual

/-- The payload that a value stands for. -/
def ofJson : Json → Payload
  | .obj [(tag, .arr xs)] =>
    if tag = "seq" then .seq (ofItems xs)
    else if tag = "pairs" then .pairs (ofEntries xs)
    else if tag = "bytes" then .json (.arr xs)
    else if tag = "json" then .json (.arr xs)
    else .json (.obj [(tag, .arr xs)])
  | .obj [(tag, x)] =>
    if tag = "json" then .json x
    else if tag = "f64" then .float (x.float?.getD 0.0)
    else if tag = "u128" then wideOf false x
    else if tag = "i128" then wideOf true x
    else if tag = "nest" then .json x.nested
    else if tag = "fail" then .fail x.text
    else .json (.obj [(tag, x)])
  | v => .json v

/-- The payloads of a sequence. -/
def ofItems : List Json → List Payload
  | [] => []
  | v :: rest => ofJson v :: ofItems rest

/-- The entries of a map. -/
def ofEntries : List Json → List (Key × Payload)
  | .arr [k, v] :: rest => (Key.ofJson k, ofJson v) :: ofEntries rest
  | _ :: rest => ofEntries rest
  | [] => []

end

end Payload

end ScriptWorkers
