/-!
# The shortest decimal of a double

A finite double other than zero is `m * 2 ^ q` for whole numbers `m` and `q`, and the reals that
round to it form an interval around it, whose ends belong to it exactly when `m` is even.  The
decimal written for the double is the one with the fewest digits inside that interval; of several
with equally few digits the one nearest to the double, and of two equally near the one that ends in
an even digit.

Everything is exact arithmetic on natural numbers.  `Span.ofFloat` puts the double and the two ends
of its interval over one common denominator, `Span.hit` looks for a point of a decimal grid inside
it, and `shortest` tries the grids from the coarsest on.  Seventeen digits always suffice, and the
last grid is taken without a test.
-/

namespace ScriptWorkers

/-- The number `digits * 10 ^ exponent`. -/
structure Decimal where
  digits : Nat
  exponent : Int
deriving Repr, DecidableEq

namespace Decimal

/-- A positive double and the ends of the interval of reals that round to it, as numerators over
`den`. -/
structure Span where
  low : Nat
  num : Nat
  high : Nat
  den : Nat
  /-- The ends themselves round to the double. -/
  closed : Bool
deriving Repr

/-- The interval of the double with fraction bits `frac` and exponent bits `expo`, sign left out.
Below a power of two the neighbour is twice as near as above it. -/
def Span.ofBits (frac expo : Nat) : Span :=
  let m := if expo = 0 then frac else frac + Nat.pow 2 52
  let q : Int := if expo = 0 then -1074 else (expo : Int) - 1075
  let unit := Nat.pow 2 q.toNat
  let below := if frac = 0 ∧ 1 < expo then unit else 2 * unit
  { low := 4 * m * unit - below
    num := 4 * m * unit
    high := 4 * m * unit + 2 * unit
    den := 4 * Nat.pow 2 (-q).toNat
    closed := m % 2 = 0 }

/-- Fraction and exponent bits of a double. -/
def Span.ofFloat (f : Float) : Span :=
  let bits := f.toBits.toNat
  Span.ofBits (bits % Nat.pow 2 52) (bits / Nat.pow 2 52 % Nat.pow 2 11)

/-- `a * 10 ^ e` and `b` over a common denominator of the two. -/
def scaled (a : Nat) (e : Int) (b : Nat) : Nat × Nat :=
  (a * Nat.pow 10 e.toNat, b * Nat.pow 10 (-e).toNat)

/-- The point `d * 10 ^ e` lies in the interval. -/
def Span.contains (s : Span) (d : Nat) (e : Int) : Bool :=
  let below := scaled (d * s.den) e s.low
  let above := scaled (d * s.den) e s.high
  if s.closed then decide (below.2 ≤ below.1 ∧ above.1 ≤ above.2)
  else decide (below.2 < below.1 ∧ above.1 < above.2)

/-- The largest `d` with `d * 10 ^ e` not above the double. -/
def Span.floor (s : Span) (e : Int) : Nat :=
  s.num * Nat.pow 10 (-e).toNat / (s.den * Nat.pow 10 e.toNat)

/-- Whether the double is nearer to `(d + 1) * 10 ^ e` than to `d * 10 ^ e`, a tie going to the
even one of the two. -/
def Span.prefersUpper (s : Span) (d : Nat) (e : Int) : Bool :=
  let middle := scaled ((2 * d + 1) * s.den) e (2 * s.num)
  if middle.1 = middle.2 then d % 2 = 1 else decide (middle.1 < middle.2)

/-- The grid point next to the double that lies in its interval, the nearer one if both do. -/
def Span.hit (s : Span) (e : Int) : Option Nat :=
  let d := s.floor e
  match s.contains d e, s.contains (d + 1) e with
  | true, true => some (if s.prefersUpper d e then d + 1 else d)
  | true, false => some d
  | false, true => some (d + 1)
  | false, false => none

/-- The least `k` below `fuel` with `1 ≤ num * 10 ^ k / den`. -/
def leadingZeros (num den : Nat) : Nat → Nat
  | 0 => 0
  | fuel + 1 => if den ≤ num then 0 else leadingZeros (10 * num) den fuel + 1

/-- The `e` with `10 ^ (e - 1) ≤ x < 10 ^ e` for the double `x`. -/
def Span.magnitude (s : Span) : Int :=
  if s.den ≤ s.num then (Nat.toDigits 10 (s.num / s.den)).length
  else 1 - (leadingZeros s.num s.den 400 : Int)

/-- Drops zeros at the end of the digits. -/
def trim (d : Nat) (e : Int) : Nat → Decimal
  | 0 => ⟨d, e⟩
  | fuel + 1 => if d % 10 = 0 ∧ d ≠ 0 then trim (d / 10) (e + 1) fuel else ⟨d, e⟩

/-- The first grid with a point in the interval, from `n` digits on. -/
def Span.search (s : Span) (top : Int) (n : Nat) : Nat → Decimal
  | 0 =>
    let e := top - 17
    trim (s.floor e) e 17
  | fuel + 1 =>
    let e := top - n
    match s.hit e with
    | some d => trim d e 17
    | none => s.search top (n + 1) fuel

/-- The shortest decimal that reads back as the magnitude of a finite double. -/
def shortest (f : Float) : Decimal :=
  let s := Span.ofFloat f
  if s.num = 0 then ⟨0, 0⟩ else s.search s.magnitude 1 17

end Decimal

end ScriptWorkers
