import ScriptWorkers.Script.Value

/-!
# Bytes

Elements of one kind as bytes, the lowest first, and bytes as elements.  A number with few places is
rounded to the nearest one that there is, a tie going to the even one.
-/

namespace ScriptWorkers
namespace Script

/-! ## Numbers of sixteen bits -/

namespace Half

/-- The bits of the number of sixteen bits that is nearest to a double.  There are eleven binary
places, and the smallest exponent is -24. -/
def bits (f : Float) : Nat :=
  let sign := if Decimal.isNegative f then Nat.pow 2 15 else 0
  if f.isNaN then 0x7E00
  else if f.isInf then sign + 0x7C00
  else
    let (m, q) := Elementary.parts f
    let top : Int := if m = 0 then -24 else q + (m.log2 : Nat)
    let least : Int := max (top - 10) (-24)
    -- The number is counted in units of `2 ^ least`.
    let up := m * Nat.pow 2 (q - least).toNat
    let den := Nat.pow 2 (least - q).toNat
    let n := up / den
    let n := if den < 2 * (up % den) ∨ (2 * (up % den) = den ∧ n % 2 = 1) then n + 1 else n
    -- The first of eleven places adds one to the exponent, and so does a number that has
    -- grown to twelve.
    sign + min ((least + 24).toNat * Nat.pow 2 10 + n) 0x7C00

def toFloat (n : Nat) : Float :=
  let frac : Nat := n % Nat.pow 2 10
  let expo : Nat := n / Nat.pow 2 10 % Nat.pow 2 5
  let magnitude :=
    if expo = 31 then (if frac = 0 then 1.0 / 0.0 else 0.0 / 0.0)
    else if expo = 0 then Float.scaleB (Float.ofNat frac) (-24)
    else Float.scaleB (Float.ofNat (frac + Nat.pow 2 10)) (expo - 25)
  if Nat.pow 2 15 ≤ n % Nat.pow 2 16 then -magnitude else magnitude

end Half

/-! ## Elements -/

namespace Element

/-- The number of bytes of an element. -/
def bytes : Element → Nat
  | int8 | uint8 | clamped => 1
  | int16 | uint16 | float16 => 2
  | int32 | uint32 | float32 => 4
  | bigInt64 | bigUint64 | float64 => 8

/-- The elements are numbers without bounds. -/
def isBig : Element → Bool
  | bigInt64 | bigUint64 => true
  | _ => false

/-- The element that is there before anything is put in. -/
def zero (t : Element) : Value := if t.isBig then .bigint 0 else .ofNat 0

def bits (t : Element) (v : Value) : Nat :=
  match t, v with
  | float64, .number x => x.toFloat.toBits.toNat
  | float32, .number x => x.toFloat.toFloat32.toBits.toNat
  | float16, .number x => Half.bits x.toFloat
  | t, .number x => ((Number.truncated x.toFloat).emod (Nat.pow 2 (8 * t.bytes))).toNat
  | t, .bigint n => (n.emod (Nat.pow 2 (8 * t.bytes))).toNat
  | _, _ => 0

def ofBits (t : Element) (n : Nat) : Value :=
  let signed : Int := Int.bmod n (Nat.pow 2 (8 * t.bytes))
  match t with
  | float64 => .ofFloat (Float.ofBits n.toUInt64)
  | float32 => .ofFloat (Float32.ofBits n.toUInt32).toFloat
  | float16 => .ofFloat (Half.toFloat n)
  | int8 | int16 | int32 => .number (.ofInt signed)
  | uint8 | clamped | uint16 | uint32 => .ofNat n
  | bigInt64 => .bigint signed
  | bigUint64 => .bigint n

end Element

namespace Bytes

/-- So many bytes of a number, the lowest first. -/
def ofNat (n : Nat) : Nat → List UInt8
  | 0 => []
  | k + 1 => (n % 256).toUInt8 :: ofNat (n / 256) k

/-- The number of bytes, the lowest first. -/
def toNat : List UInt8 → Nat
  | [] => 0
  | b :: rest => b.toNat + 256 * toNat rest

/-- Puts bytes in place of those that are there from a place on.  There is no room for more. -/
def put (offset : Nat) (new : List UInt8) (bytes : Array UInt8) : Array UInt8 :=
  new.zipIdx.foldl (fun bytes (b, i) ↦ bytes.setIfInBounds (offset + i) b) bytes

def ofElements (t : Element) (vs : List Value) : List UInt8 :=
  vs.flatMap fun v ↦ ofNat (t.bits v) t.bytes

/-- Puts elements in place of those that are there from a place on. -/
def putElements (t : Element) (offset : Nat) (vs : List Value) (bytes : Array UInt8) :
    Array UInt8 :=
  put offset (ofElements t vs) bytes

/-- The number of elements from a place on: as many as are asked for if there are so many, or as
many as there are. -/
def room (t : Element) (size offset : Nat) : Option Nat → Nat
  | some n => if offset + n * t.bytes ≤ size then n else 0
  | none => (size - offset) / t.bytes

/-- The elements from a place on. -/
def elements (t : Element) (bytes : Array UInt8) (offset : Nat) (length : Option Nat) :
    Array Value :=
  ((List.range (room t bytes.size offset length)).map fun i ↦
    let start := offset + i * t.bytes
    t.ofBits (toNat (bytes.extract start (start + t.bytes)).toList)).toArray

end Bytes

end Script
end ScriptWorkers
