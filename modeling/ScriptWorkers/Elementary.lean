/-!
# Elementary functions near zero

The logarithm of one more than a number and one less than its exponential lose all their digits near
zero if they are computed as they are named.  Here the argument is first brought close to zero,
where a polynomial is precise; the order of the roundings is fixed, so that the last digit is as
well.  The length of a vector is computed exactly and rounded once.
-/

namespace ScriptWorkers
namespace Elementary

/-- The upper half of the bits of a double. -/
def upper (f : Float) : Nat := f.toBits.toNat / UInt32.size

/-- The double with other bits in its upper half. -/
def withUpper (f : Float) (n : Nat) : Float :=
  Float.ofBits (n * UInt32.size + f.toBits.toNat % UInt32.size).toUInt64

/-- The logarithm of two, as the sum of a double with few places and a small rest. -/
def logTwoHigh : Float := 6.93147180369123816490e-01

/-- The small rest of the logarithm of two. -/
def logTwoLow : Float := 1.90821492927058770002e-10

/-- A double with no number as its value. -/
def undefined : Float := 0.0 / 0.0

/-! ## Whole numbers and powers of two -/

/-- Fraction and exponent of a finite double: `m * 2 ^ q`, sign left out. -/
def parts (f : Float) : Nat × Int :=
  let bits := f.toBits.toNat
  let frac : Nat := bits % Nat.pow 2 52
  let expo : Nat := bits / Nat.pow 2 52 % Nat.pow 2 11
  if expo = 0 then (frac, -1074) else (frac + Nat.pow 2 52, (expo : Int) - 1075)

/-- The double nearest to `n * 2 ^ e`.  Of a long number the leading 66 bits count, and one more
that tells whether anything follows. -/
def ofParts (n : Nat) (e : Int) : Float :=
  if n.log2 ≤ 66 then Float.scaleB (Float.ofNat n) e
  else
    let drop := n.log2 - 65
    let top := n / Nat.pow 2 drop
    Float.scaleB (Float.ofNat (if top * Nat.pow 2 drop = n then 2 * top else 2 * top + 1))
      (e + drop - 1)

/-- The sum of finite doubles, rounded only once. -/
def sumOf (fs : List Float) : Float :=
  let total := fs.foldl (fun (n : Int) f ↦
    let (m, q) := parts f
    let whole : Int := (m * Nat.pow 2 (q + 1074).toNat : Nat)
    if f < 0.0 then n - whole else n + whole) 0
  let f := ofParts total.natAbs (-1074)
  if total < 0 then -f else f

/-! ## The logarithm of one more -/

/-- The polynomial for the logarithm, without its first terms, in the square of its argument. -/
def logSeries (z : Float) : Float :=
  let z2 := z * z
  let z4 := z2 * z2
  let z6 := z4 * z2
  z * 6.666666666666735130e-01 + z2 * (3.999999999940941908e-01 + z * 2.857142874366239149e-01)
    + z4 * (2.222219843214978396e-01 + z * 1.818357216161805012e-01)
    + z6 * (1.531383769920937332e-01 + z * 1.479819860511658591e-01)

/-- The logarithm of `2 ^ k * (1 + f)`, where `c` corrects what has been lost in `f`; `tiny` tells
that `f` is nearly zero. -/
def logOf (k : Int) (f c : Float) (tiny : Bool) : Float :=
  let n := Float.ofInt k
  let half := 0.5 * f * f
  if tiny && f == 0.0 then if k = 0 then 0.0 else n * logTwoHigh + (c + n * logTwoLow)
  else if tiny then
    let r := half * (1.0 - 0.66666666666666666 * f)
    if k = 0 then f - r else n * logTwoHigh - ((r - (n * logTwoLow + c)) - f)
  else
    let s := f / (2.0 + f)
    let r := logSeries (s * s)
    if k = 0 then f - (half - s * (half + r))
    else n * logTwoHigh - ((half - (s * (half + r) + (n * logTwoLow + c))) - f)

/-- The logarithm of one more than a number. -/
def logOnePlus (x : Float) : Float :=
  let high := upper x.abs
  if x.isNaN || x < -1.0 then undefined
  else if x == -1.0 then -1.0 / 0.0
  else if x.isInf then x
  else if high < 0x3C900000 then x
  else if high < 0x3E200000 then x - x * x * 0.5
  else if (0.0 < x && high < 0x3FDA827A) || (x < 0.0 && high ≤ 0x3FD2BEC3) then logOf 0 x 0.0 false
  else
    let large := !(high < 0x43400000)
    let u := if large then x else 1.0 + x
    let k := (upper u / Nat.pow 2 20 : Nat) - (1023 : Int)
    let c := if large then 0.0 else (if 0 < k then 1.0 - (u - x) else x - (u - 1.0)) / u
    let rest := upper u % Nat.pow 2 20
    if rest < 0x6A09E then logOf k (withUpper u (rest + 0x3FF00000) - 1.0) c (rest = 0)
    else logOf (k + 1) (withUpper u (rest + 0x3FE00000) - 1.0) c ((0x100000 - rest) / 4 = 0)

/-! ## One less than the exponential -/

/-- The rational function for the exponential near zero, in half of the square of its argument. -/
def expSeries (h : Float) : Float :=
  let h2 := h * h
  let h4 := h2 * h2
  (1.0 + h * -3.33333333333331316428e-02) +
    h2 * (1.58730158725481460165e-03 + h * -7.93650757867487942473e-05)
    + h4 * (4.00821782732936239552e-06 + h * -2.01099218183624371326e-07)

/-- One less than `2 ^ k` times the exponential of `x - c`. -/
def expOf (k : Int) (x c : Float) : Float :=
  let half := 0.5 * x
  let h := x * half
  let r := expSeries h
  let t := 3.0 - r * half
  let e := h * ((r - t) / (6.0 - x * t))
  if k = 0 then x - (x * e - h)
  else
    let e := (x * (e - c) - c) - h
    if k = -1 then 0.5 * (x - e) - 0.5
    else if k = 1 then if x < -0.25 then -2.0 * (e - (x + 0.5)) else 1.0 + 2.0 * (x - e)
    else if k ≤ -2 ∨ 56 < k then Float.scaleB (1.0 - (e - x)) k - 1.0
    else if k < 20 then Float.scaleB ((1.0 - Float.scaleB 1.0 (-k)) - (e - x)) k
    else Float.scaleB ((x - (e + Float.scaleB 1.0 (-k))) + 1.0) k

/-- One less than the exponential of a number. -/
def expLessOne (x : Float) : Float :=
  let high := upper x.abs
  let negative := x < 0.0
  if x.isNaN then x
  else if x.isInf then if negative then -1.0 else x
  else if 7.09782712893383973096e+02 < x then 1.0 / 0.0
  else if 0x4043687A ≤ high && negative then -1.0
  else if high < 0x3C900000 then x
  else if high ≤ 0x3FD62E42 then expOf 0 x 0.0
  else
    let near := high < 0x3FF0A2B2
    let t := 1.44269504088896338700 * x + (if negative then -0.5 else 0.5)
    let t := if near then (if negative then -1.0 else 1.0) else if negative then t.ceil else t.floor
    let a := x - t * logTwoHigh
    let b := t * logTwoLow
    let y := a - b
    let k : Int := if negative then -((-t).toUInt64.toNat : Int) else t.toUInt64.toNat
    expOf k y ((a - y) - b)

/-! ## Vectors -/

/-- The whole part of the square root of a number, from a start that is not below it, in at most so
many steps. -/
def rootFrom (n start : Nat) : Nat → Nat
  | 0 => start
  | fuel + 1 =>
    let next := (start + n / start) / 2
    if next < start then rootFrom n next fuel else start

/-- The whole part of the square root of a number. -/
def root (n : Nat) : Nat :=
  if n = 0 then 0 else rootFrom n (Nat.pow 2 (n.log2 / 2 + 1)) (n.log2 + 8)

/-- The square root of the sum of two squares. -/
def hypotenuse (x y : Float) : Float :=
  if x.isInf || y.isInf then 1.0 / 0.0
  else if x.isNaN || y.isNaN then undefined
  else
    let (m, p) := parts x
    let (n, q) := parts y
    let e := min p q
    let square := Nat.pow (m * Nat.pow 2 (p - e).toNat) 2 + Nat.pow (n * Nat.pow 2 (q - e).toNat) 2
    -- The root is taken of so many places that it has 66 bits, and one more tells whether
    -- it is exact.
    let shift : Int := 66 - (square.log2 / 2 : Nat)
    let wide := square * Nat.pow 4 shift.toNat / Nat.pow 4 (-shift).toNat
    let r := root wide
    let exact := r * r = wide ∧ wide * Nat.pow 4 (-shift).toNat = square * Nat.pow 4 shift.toNat
    ofParts (if exact then 2 * r else 2 * r + 1) (e - shift - 1)

end Elementary
end ScriptWorkers
