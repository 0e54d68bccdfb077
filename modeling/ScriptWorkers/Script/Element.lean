import ScriptWorkers.Script.Convert

/-!
# Numbers without bounds, and elements

How a value becomes a whole number without bounds, and what an array of elements of one kind keeps
of a value: so many bits of a whole number, or a double, maybe with fewer places.
-/

namespace ScriptWorkers
namespace Script

open Eval

/-! ## Numbers without bounds -/

/-- Blanks around a number without bounds. -/
def isAround (c : Char) : Bool := c.toNat == 0x85 || (isSpace c && c.toNat != 0xFEFF)

/-- The text without a plus sign at its front, unless there are two. -/
def dropPlus : List Char → List Char
  | '+' :: '+' :: rest => '+' :: '+' :: rest
  | '+' :: rest => rest
  | cs => cs

/-- The natural number that digits of a base spell; lines may group them, but not in front. -/
def groupedNat? (base : Nat) (cs : List Char) : Option Nat :=
  let ds := dropPlus cs
  if ds.isEmpty || ds.head? == some '_' then none
  else
    (ds.filter (· ≠ '_')).foldlM
      (fun n c ↦ (Text.digitValue? c).bind fun d ↦ if d < base then some (n * base + d) else none) 0

/-- The whole number that digits of a base spell, with a sign. -/
def groupedInt? (base : Nat) : List Char → Option Int
  | '-' :: '+' :: rest => (groupedNat? base ('-' :: '+' :: rest)).map fun n ↦ -(n : Int)
  | '-' :: rest => (groupedNat? base rest).map fun n ↦ -(n : Int)
  | cs => (groupedNat? base cs).map fun n ↦ (n : Int)

/-- The whole number that a text spells; an empty text is zero. -/
def wholeOfText? (cs : List Char) : Option Int :=
  let cs := ((cs.dropWhile isAround).reverse.dropWhile isAround).reverse
  if cs.isEmpty then some 0
  else
    match Text.base? cs with
    | some (base, ds) => groupedInt? base ds
    | none => groupedInt? 10 cs

/-- The number without bounds of a simple value. -/
def bigintOfSimple : Value → Eval Int
  | .undefined => typeError "cannot convert undefined to a BigInt"
  | .null => typeError "cannot convert null to a BigInt"
  | .bool b => return if b then 1 else 0
  | .bigint n => return n
  | .string s =>
    match wholeOfText? (Units.chars (Units.escaped true) s) with
    | some n => return n
    | none => raise .grammar ("cannot convert string '" ++ s.text ++ "' to bigint primitive")
  | .symbol _ => typeError "cannot convert Symbol to a BigInt"
  | _ => typeError "cannot convert Number to a BigInt"

/-- The number without bounds of a value. -/
def toBigint (call : Caller) (v : Value) : Eval Int := do
  bigintOfSimple (← toPrimitive call .number v)

/-! ## Elements -/

/-- A whole number of so many bits. -/
def wrapped (bits : Nat) (signed : Bool) (n : Int) : Int :=
  if signed then n.bmod (Nat.pow 2 bits) else n.emod (Nat.pow 2 bits)

/-- A double between 0 and 255, a half going to the even neighbour. -/
def clampedByte (f : Float) : Nat :=
  if f.isNaN || f ≤ 0.0 then 0
  else if f ≥ 255.0 then 255
  else
    let n := f.floor.toUInt64.toNat
    let rest := f - f.floor
    if rest < 0.5 then n else if rest > 0.5 then n + 1 else n + n % 2

/-- What an array of some kind keeps of a value. -/
def elementOf (call : Caller) (t : Element) (v : Value) : Eval Value := do
  let whole (bits : Nat) (signed : Bool) : Eval Value := do
    return .number (.ofInt (wrapped bits signed (← toWord call v).toNat))
  match t with
  | .int8 => whole 8 true
  | .uint8 => whole 8 false
  | .clamped => do return .ofNat (clampedByte (← toNumber call v))
  | .int16 => whole 16 true
  | .uint16 => whole 16 false
  | .int32 => whole 32 true
  | .uint32 => whole 32 false
  | .float16 => do return .ofFloat (Half.toFloat (Half.bits (← toNumber call v)))
  | .float32 => do return .ofFloat (← toNumber call v).toFloat32.toFloat
  | .float64 => do return .ofFloat (← toNumber call v)
  | .bigInt64 => do return .bigint (wrapped 64 true (← toBigint call v))
  | .bigUint64 => do return .bigint (wrapped 64 false (← toBigint call v))

end Script
end ScriptWorkers
