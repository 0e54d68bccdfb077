import ScriptWorkers.Decimal.Shortest

/-!
# Writing and reading decimals

`Layout.render` writes a double with the shortest digits that read back.  What is free beyond the
digits, namely how far positional notation goes and whether a whole number keeps a point, is a
`Layout`: `Layout.wire` for messages, `Layout.script` for numbers turned into text by a script.

`Decimal.ofString?` reads the usual decimal spelling, rounding to the nearest double.
-/

namespace ScriptWorkers.Decimal

/-- How a number is laid out around its shortest digits. -/
structure Layout where
  /-- The least exponent of the leading digit that is written positionally. -/
  least : Int
  /-- The greatest one. -/
  greatest : Int
  /-- What follows a whole number in positional notation. -/
  whole : String
  /-- Zero keeps its sign. -/
  signedZero : Bool

/-- Messages: positional from `0.00001` to below `1e16`, and always with a point. -/
def Layout.wire : Layout := ⟨-5, 15, ".0", true⟩

/-- Scripts: positional from `0.000001` to below `1e21`, whole numbers without a point. -/
def Layout.script : Layout := ⟨-6, 20, "", false⟩

/-- The console: positional whatever the size, whole numbers without a point. -/
def Layout.endless : Layout := ⟨-400, 400, "", true⟩

/-- The digits of a natural number. -/
def digitText (n : Nat) : List Char := Nat.toDigits 10 n

def zeros (n : Nat) : List Char := List.replicate n '0'

/-- The exponent of the leading digit: `0` for numbers from `1` to below `10`. -/
def leading (d : Decimal) : Int := d.exponent + (digitText d.digits).length - 1

def positional (layout : Layout) (d : Decimal) : List Char :=
  let ds := digitText d.digits
  if 0 ≤ d.exponent then
    ds ++ zeros d.exponent.toNat ++ layout.whole.toList
  else
    let places := (-d.exponent).toNat
    if places < ds.length then
      ds.take (ds.length - places) ++ '.' :: ds.drop (ds.length - places)
    else
      '0' :: '.' :: zeros (places - ds.length) ++ ds

/-- Scientific notation: one digit before the point, the exponent with its sign. -/
def scientific (d : Decimal) : List Char :=
  let mantissa := match digitText d.digits with
    | [] => []
    | [c] => [c]
    | c :: rest => c :: '.' :: rest
  let sign := if 0 ≤ d.leading then '+' else '-'
  mantissa ++ 'e' :: sign :: digitText d.leading.natAbs

/-- A positive decimal in the given layout. -/
def Layout.unsigned (layout : Layout) (d : Decimal) : List Char :=
  if layout.least ≤ d.leading ∧ d.leading ≤ layout.greatest then positional layout d
  else scientific d

/-- The sign bit of a double is set. -/
def isNegative (f : Float) : Bool := UInt64.size ≤ 2 * f.toBits.toNat

/-- A finite double in the given layout. -/
def Layout.render (layout : Layout) (f : Float) : List Char :=
  let d := shortest f
  if d.digits = 0 then
    (if isNegative f && layout.signedZero then ['-'] else []) ++ '0' :: layout.whole.toList
  else
    (if isNegative f then ['-'] else []) ++ layout.unsigned d

/-- Where a number goes that is exactly between two others. -/
inductive Tie where
  | toEven
  /-- Away from zero. -/
  | up
deriving Repr, DecidableEq

/-- The number of steps of size `10 ^ e` that come nearest to a double. -/
def Span.steps (s : Span) (tie : Tie) (e : Int) : Nat :=
  let d := s.floor e
  let middle := scaled ((2 * d + 1) * s.den) e (2 * s.num)
  if s.prefersUpper d e || (tie = .up && middle.1 = middle.2) then d + 1 else d

/-- Digits with a point before the last so many of them. -/
def withPoint (places : Nat) (ds : List Char) : List Char :=
  let ds := zeros (places + 1 - ds.length) ++ ds
  let whole := ds.take (ds.length - places)
  if places = 0 then whole else whole ++ '.' :: ds.drop (ds.length - places)

/-- A finite double with a fixed number of places, rounded to the nearest. -/
def fixed (tie : Tie) (places : Nat) (f : Float) : List Char :=
  (if isNegative f then ['-'] else []) ++
    withPoint places (digitText ((Span.ofFloat f).steps tie (-(places : Int))))

/-- A finite double other than zero with a number of digits, rounded to the nearest: the digits, and
the exponent of the leading one. -/
def significant (tie : Tie) (count : Nat) (f : Float) : List Char × Int :=
  let s := Span.ofFloat f
  let top := s.magnitude
  let ds := digitText (s.steps tie (top - count))
  if count < ds.length then (ds.take count, top) else (ds, top - 1)

/-! ## Reading -/

/-- The value of a run of decimal digits. -/
def valueOf (ds : List Char) : Nat :=
  ds.foldl (fun n c ↦ 10 * n + (c.toNat - '0'.toNat)) 0

/-- `digits * 10 ^ exponent`, rounded to the nearest double.  Exponents far outside the range of
doubles are cut off first, so that no huge power is ever computed. -/
def nearest (digits : Nat) (exponent : Int) : Float :=
  if digits = 0 then 0.0
  else
    let leading := exponent + (digitText digits).length
    if leading < -330 then 0.0
    else if 330 < leading then 1.0 / 0.0
    else if 0 ≤ exponent then Float.ofScientific digits false exponent.toNat
    else Float.ofScientific digits true (-exponent).toNat

/-- An exponent part: `e`, an optional sign and digits, up to the end of the text. -/
def exponentPart? : List Char → Option Int
  | [] => some 0
  | e :: rest =>
    if e ≠ 'e' ∧ e ≠ 'E' then none
    else
      let (negative, ds) := match rest with
        | '-' :: ds => (true, ds)
        | '+' :: ds => (false, ds)
        | ds => (false, ds)
      if ds.isEmpty || !ds.all Char.isDigit then none
      else some (if negative then -(valueOf ds : Int) else valueOf ds)

/-- Reads digits, an optional fraction and an optional exponent.  There has to be a digit before or
after the point. -/
def unsigned? (cs : List Char) : Option Float :=
  let whole := cs.takeWhile Char.isDigit
  let rest := cs.dropWhile Char.isDigit
  let (places, rest) := match rest with
    | '.' :: tail => (tail.takeWhile Char.isDigit, tail.dropWhile Char.isDigit)
    | _ => ([], rest)
  if whole.isEmpty && places.isEmpty then none
  else (exponentPart? rest).map fun e ↦ nearest (valueOf (whole ++ places)) (e - places.length)

/-- Splits off a leading sign. -/
def splitSign : List Char → Bool × List Char
  | '-' :: rest => (true, rest)
  | '+' :: rest => (false, rest)
  | cs => (false, cs)

/-- Reads a double, `NaN` and the infinities included. -/
def ofString? (s : String) : Option Float :=
  let (negative, cs) := splitSign s.toList
  let word := String.ofList (cs.map Char.toLower)
  let magnitude :=
    if word = "nan" then some (0.0 / 0.0)
    else if word = "inf" ∨ word = "infinity" then some (1.0 / 0.0)
    else unsigned? cs
  magnitude.map fun f ↦ if negative then -f else f

end ScriptWorkers.Decimal
