import ScriptWorkers.Elementary
import ScriptWorkers.Script.Units
import ScriptWorkers.Text.Numeral

/-!
# Numbers of scripts

A number is a double, and a whole number of 32 bits can also be held as a word.  Scripts cannot
tell the two apart, but messages do: a word is written without a point.  So it matters how a
number came about.  Sums of words are words as long as they fit, and whatever a double has a part
in is a double.
-/

namespace ScriptWorkers
namespace Script

/-- A number. -/
inductive Number where
  | word (n : Int32)
  | double (f : Float)
deriving Repr

namespace Number

instance : Inhabited Number := ⟨.word 0⟩

def toFloat : Number → Float
  | word n => Float.ofInt n.toInt
  | double f => f

def fits (n : Int) : Bool := -2147483648 ≤ n && n ≤ 2147483647

/-- An integer, as a word if it fits. -/
def ofInt (n : Int) : Number := if fits n then word (Int32.ofInt n) else double (Float.ofInt n)

/-- A natural number, as a word if it fits. -/
def ofNat (n : Nat) : Number := ofInt n

/-- The whole part of a double without its sign.  Small ones need no more than a word. -/
def magnitude (f : Float) : Nat :=
  if f.abs < 9223372036854775808.0 then f.abs.toUInt64.toNat
  else
    let s := Decimal.Span.ofFloat f
    s.num / s.den

/-- The whole part of a finite double, toward zero, as an integer. -/
def truncated (f : Float) : Int := if f < 0.0 then -(magnitude f : Int) else magnitude f

/-- The word that stands for the very same double; the negative zero has none. -/
def word? (f : Float) : Option Int32 :=
  if f.isFinite && f.abs ≤ 2147483648.0 then
    let n := truncated f
    if fits n && (Float.ofInt n).toBits == f.toBits then some (Int32.ofInt n) else none
  else none

/-- A double, as a word if there is one that stands for it. -/
def compact (f : Float) : Number :=
  match word? f with
  | some n => word n
  | none => double f

/-- Neither a number nor an infinity. -/
def nan : Number := double (0.0 / 0.0)

def add : Number → Number → Number
  | word a, word b => ofInt (a.toInt + b.toInt)
  | a, b => double (a.toFloat + b.toFloat)

def sub : Number → Number → Number
  | word a, word b => ofInt (a.toInt - b.toInt)
  | a, b => double (a.toFloat - b.toFloat)

/-- The product; a zero with a sign is no word. -/
def mul : Number → Number → Number
  | word a, word b =>
    let n := a.toInt * b.toInt
    if n = 0 ∧ (a.toInt < 0 ∨ b.toInt < 0) then double (-0.0) else ofInt n
  | a, b => double (a.toFloat * b.toFloat)

/-- The quotient, a word only if it is exact. -/
def div : Number → Number → Number
  | word a, word b =>
    if b.toInt ≠ 0 ∧ a.toInt % b.toInt = 0 ∧ ¬(a.toInt = 0 ∧ b.toInt < 0) then
      ofInt (a.toInt / b.toInt)
    else double ((Float.ofInt a.toInt) / (Float.ofInt b.toInt))
  | a, b => double (a.toFloat / b.toFloat)

/-- The remainder of two doubles without their signs, exactly. -/
def remainder (x y : Float) : Float :=
  let (m, p) := Elementary.parts x
  let (n, q) := Elementary.parts y
  let e := min p q
  let r : Nat := (m * Nat.pow 2 (p - e).toNat) % (n * Nat.pow 2 (q - e).toNat)
  Float.scaleB (Float.ofNat r) e

/-- The remainder, with the sign of the first number. -/
def rem (a b : Number) : Number :=
  match a, b with
  | word m, word n =>
    if n.toInt = 0 then nan
    else
      let r := m.toInt.tmod n.toInt
      if r = 0 ∧ m.toInt < 0 then double (-0.0) else ofInt r
  | a, b =>
    let x := a.toFloat
    let y := b.toFloat
    if !x.isFinite || y.isNaN || y == 0.0 then nan
    else if y.isInf || x.abs < y.abs then double x
    else
      let r := remainder x.abs y.abs
      double (if Decimal.isNegative x then -r else r)

/-- The number with the other sign. -/
def neg : Number → Number
  | word n => if n.toInt = 0 then double (-0.0) else ofInt (-n.toInt)
  | double f => double (-f)

def isNegativeZero (x : Number) : Bool := x.toFloat == 0.0 && Decimal.isNegative x.toFloat

end Number

def floatText (f : Float) : String :=
  if f.isNaN then "NaN"
  else if f.isInf then (if f < 0.0 then "-Infinity" else "Infinity")
  else String.ofList (Decimal.Layout.script.render f)

/-- The text of a double without an exponent, as complaints and the console show it. -/
def plainNumber (f : Float) : String :=
  if f.isNaN then "NaN" else if f.isInf then (if f < 0.0 then "-inf" else "inf")
  else String.ofList (Decimal.Layout.endless.render f)

def Number.text : Number → Units
  | word n => Units.ofString (toString n.toInt)
  | double f => Units.ofString (floatText f)

/-- The whole part of a finite double, sign left out. -/
def wholeMagnitude (f : Float) : Nat :=
  let s := Decimal.Span.ofFloat f
  s.num / s.den

/-- A number cut to 32 bits: whole, and modulo the word. -/
def wordOf (f : Float) : UInt32 :=
  if f.isFinite then
    let n : Int := wholeMagnitude f
    .ofInt (if f < 0.0 then -n else n)
  else 0

/-! ## Numbers in strings -/

def isSpace (c : Char) : Bool :=
  let n := c.toNat
  (9 ≤ n && n ≤ 13) || n == 0x20 || n == 0xA0 || n == 0x1680 || (0x2000 ≤ n && n ≤ 0x200A) ||
    n == 0x2028 || n == 0x2029 || n == 0x202F || n == 0x205F || n == 0x3000 || n == 0xFEFF

/-- A decimal number, which has no other words than `Infinity`. -/
def decimalOf? (cs : List Char) : Option Float :=
  let (negative, body) := Decimal.splitSign cs
  let magnitude := if body = "Infinity".toList then some (1.0 / 0.0) else Decimal.unsigned? body
  magnitude.map fun f ↦ if negative then -f else f

/-- A text without the blanks around it. -/
def trimmed (cs : List Char) : List Char :=
  ((cs.dropWhile isSpace).reverse.dropWhile isSpace).reverse

/-- One more digit behind a whole number, with one rounding. -/
def appendDigit (base : Nat) (f : Float) (d : Nat) : Float :=
  if f.isFinite then Float.ofNat (Number.magnitude f * base + d) else f

/-- A whole number in a base other than ten, which may have a sign if it is a small one. -/
def inBase? (base : Nat) (ds : List Char) : Option Float :=
  let short := match ds with
    | '+' :: rest => Text.wholeOf? base rest
    | ds => Text.wholeOf? base ds
  match short with
  | some n =>
    if n < UInt32.size then some (Float.ofNat n)
    else if ds.head? = some '+' then none
    else (ds.mapM Text.digitValue?).map fun ns ↦ ns.foldl (appendDigit base) 0.0
  | none => none

/-- The number that a string spells. -/
def numberOfUnits (s : Units) : Float :=
  let nan : Float := 0.0 / 0.0
  let cs := trimmed (Units.chars (Units.escaped true) s)
  if cs.isEmpty then 0.0
  else
    match Text.base? cs with
    | some (base, ds) => (inBase? base ds).getD nan
    | none => (decimalOf? cs).getD nan

/-! ## Numbers in programs -/

/-- What a number in a program stands for. -/
inductive Constant where
  | number (x : Number)
  /-- One without bounds. -/
  | big (n : Int)
deriving Repr

namespace Constant

/-- The number with the other sign. -/
def neg : Constant → Constant
  | number x => number (if x.toFloat == 0.0 then .double (-0.0) else .compact (-x.toFloat))
  | big n => big (-n)

/-- The constant of a text without a sign: a number, one without bounds, or a word for one. -/
def unsigned? (cs : List Char) : Option Constant :=
  if cs = "NaN".toList then some (number .nan)
  else if cs = "Infinity".toList then some (number (.double (1.0 / 0.0)))
  else
    (Text.Numeral.ofChars? cs).map fun x ↦
      match x with
      | .double f => number (.compact f)
      | .big n => big n

def ofText? (s : String) : Option Constant :=
  match trimmed s.toList with
  | '-' :: rest => (unsigned? (trimmed rest)).map neg
  | '+' :: rest => unsigned? (trimmed rest)
  | cs => unsigned? cs

end Constant

end Script
end ScriptWorkers
