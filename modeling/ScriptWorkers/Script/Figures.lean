import ScriptWorkers.Script.Number

/-!
# Numbers in other figures

A number can be written in another base, with a fixed number of places, with an exponent, or with a
number of digits.  In another base there are as many places as tell the number apart from the next
one.
-/

namespace ScriptWorkers
namespace Script
namespace Figures

/-! ## Other bases -/

def digit (n : Nat) : Char := if n < 10 then Char.ofNat (48 + n) else Char.ofNat (87 + n)

/-- Puts the digits of a natural number in a base in front of others, at most so many. -/
def pushDigits (base n : Nat) (rest : List Char) : Nat → List Char
  | 0 => rest
  | fuel + 1 =>
    let rest := digit (n % base) :: rest
    if n / base = 0 then rest else pushDigits base (n / base) rest fuel

def natText (base n : Nat) : List Char := pushDigits base n [] (n.log2 + 1)

def intText (base : Nat) (n : Int) : String :=
  String.ofList ((if n < 0 then ['-'] else []) ++ natText base n.natAbs)

/-- The next digit behind the last one that can be raised is raised; whether there was none.  The
last digit comes first. -/
def raise (base : Nat) : List Nat → List Nat × Bool
  | [] => ([], true)
  | d :: rest => if d + 1 < base then ((d + 1) :: rest, false) else raise base rest

/-- The digits behind the point, the last one first, and whether the whole part has to be raised.
Digits are written as long as what is left is not below the precision, which is `delta`. -/
def places (base : Nat) (fraction delta : Float) (ds : List Nat) : Nat → List Nat × Bool
  | 0 => (ds, false)
  | fuel + 1 =>
    let shifted := fraction * base.toFloat
    let delta := delta * base.toFloat
    let d := shifted.floor.toUInt64.toNat
    let ds := d :: ds
    let rest := shifted - d.toFloat
    if (rest > 0.5 || (rest == 0.5 && d % 2 = 1)) && rest + delta > 1.0 then raise base ds
    else if rest ≥ delta then places base rest delta ds fuel
    else (ds, false)

/-- The whole part of a double, whose digits beyond its precision are zeros. -/
def wholeDigits (base : Nat) (f : Float) (rest : List Char) : Nat → List Char
  | 0 => rest
  | fuel + 1 =>
    if f ≥ 9007199254740992.0 then wholeDigits base (f / base.toFloat) ('0' :: rest) fuel
    else pushDigits base (Number.magnitude f) rest 60

def inBase (base : Nat) (f : Float) : String :=
  let x := f.abs
  let next := Float.ofBits (x.toBits + 1)
  let half := 0.5 * (next - x)
  let delta := if half > 5e-324 then half else 5e-324
  let fraction := x - x.floor
  let (ds, carry) := if fraction ≥ delta then places base fraction delta [] 1100 else ([], false)
  let whole := if carry then x.floor + 1.0 else x.floor
  let tail := if ds.isEmpty then [] else '.' :: ds.reverse.map digit
  String.ofList ((if f < 0.0 then ['-'] else []) ++ wholeDigits base whole tail 1100)

/-! ## Places and digits -/

/-- One digit before the point and the others behind it. -/
def pointed : List Char → List Char
  | [] => []
  | [c] => [c]
  | c :: rest => c :: '.' :: rest

/-- A finite double with a fixed number of places; a tie goes away from zero. -/
def fixed (places : Nat) (f : Float) : String :=
  String.ofList (Decimal.fixed .up places (f + 0.0))

/-- A finite double with an exponent, and maybe with a number of places; a tie goes to the even
digit.  An exponent that is not negative has a plus sign. -/
def exponential (places : Option Nat) (f : Float) : String :=
  let x := f.abs
  let (ds, e) := match places with
    | some n =>
      if x == 0.0 then (List.replicate (n + 1) '0', 0) else Decimal.significant .toEven (n + 1) x
    | none =>
      let d := Decimal.shortest x
      (Decimal.digitText d.digits, if x == 0.0 then 0 else d.leading)
  String.ofList ((if Decimal.isNegative f then ['-'] else []) ++ pointed ds) ++
    (if 0 ≤ e then "e+" else "e") ++ toString e

/-- The digits of a number with so many places from the leading one on, and its exponent.  If there
are only zeros, the exponent is the number of places and one. -/
def leadingDigits (cs : List Char) : List Char × Int :=
  let dot := cs.findIdx (· == '.')
  match cs.findIdx? fun c ↦ c ≠ '0' && c ≠ '.' with
  | none => (cs.filter (· ≠ '.'), (cs.length : Int) - 1)
  | some i => if dot < i then (cs.drop i, 1 - (i : Int)) else (cs.filter (· ≠ '.'), (dot : Int) - 1)

/-- The first digits, rounded by the one that follows; whether the leading one has carried over. -/
def roundDigits (count : Nat) (ds : List Char) : List Char × Bool :=
  match ds.drop count with
  | [] => (ds ++ List.replicate (count - ds.length) '0', false)
  | c :: _ =>
    if c.toNat ≤ '4'.toNat then (ds.take count, false)
    else
      let up := Decimal.digitText (Decimal.valueOf (ds.take count) + 1)
      if count < up.length then (up.take count, true)
      else (List.replicate (count - up.length) '0' ++ up, false)

/-- A finite double with a number of digits, of which only those among the first hundred places
count.  Very small numbers, and those with more digits before the point, have an exponent. -/
def precise (count : Nat) (f : Float) : String :=
  let x := f.abs
  let (ds, e) :=
    if x == 0.0 then (List.replicate count '0', 0)
    else
      let (ds, e) := leadingDigits (Decimal.fixed .toEven 100 x)
      let (ds, carried) := roundDigits count ds
      (ds, if carried then e + 1 else e)
  let body :=
    if x != 0.0 && (e < -6 || (count : Int) ≤ e) then
      String.ofList (pointed ds) ++ (if 0 ≤ e then "e+" else "e") ++ toString e
    else if 0 ≤ e then String.ofList (Decimal.withPoint (count - 1 - e.toNat) ds)
    else String.ofList ('0' :: '.' :: List.replicate ((-e).toNat - 1) '0' ++ ds)
  (if f < 0.0 then "-" else "") ++ body

end Figures
end Script
end ScriptWorkers
