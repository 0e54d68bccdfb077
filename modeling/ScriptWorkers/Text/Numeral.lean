import ScriptWorkers.Decimal.Layout

/-!
# Numbers in programs

A number is written in decimal, maybe with a point and an exponent, or as a whole number of base
sixteen, eight or two.  Lines may group its digits, and a letter at its end says that it is one
without bounds.
-/

namespace ScriptWorkers
namespace Text

def digitValue? (c : Char) : Option Nat :=
  let n := c.toNat
  if 48 ≤ n && n ≤ 57 then some (n - 48)
  else if 97 ≤ n && n ≤ 122 then some (n - 87)
  else if 65 ≤ n && n ≤ 90 then some (n - 55)
  else none

def wholeOf? (base : Nat) (cs : List Char) : Option Nat :=
  if cs.isEmpty then none
  else
    cs.foldlM
      (fun n c ↦ (digitValue? c).bind fun d ↦ if d < base then some (n * base + d) else none) 0

/-- The base that a number is written in, if it says so, and its digits. -/
def base? : List Char → Option (Nat × List Char)
  | '0' :: 'x' :: ds | '0' :: 'X' :: ds => some (16, ds)
  | '0' :: 'o' :: ds | '0' :: 'O' :: ds => some (8, ds)
  | '0' :: 'b' :: ds | '0' :: 'B' :: ds => some (2, ds)
  | _ => none

/-- A number as it is written in a program. -/
inductive Numeral where
  | double (f : Float)
  /-- One without bounds. -/
  | big (n : Nat)
deriving Repr

namespace Numeral

/-- Digits without the lines that group them; a line stands between two digits only. -/
def ungrouped? : List Char → Option (List Char)
  | [] => some []
  | '_' :: _ => none
  | c :: '_' :: d :: rest =>
    if c.isAlphanum && d.isAlphanum then (ungrouped? (d :: rest)).map (c :: ·) else none
  | c :: rest => (ungrouped? rest).map (c :: ·)

/-- The numeral of a text without a sign.  A leading zero means the base eight, unless some digit is
too great for it. -/
def ofChars? (cs : List Char) : Option Numeral := do
  let ds ← ungrouped? cs
  let isBig := ds.getLast? == some 'n'
  let body := if isBig then ds.dropLast else ds
  let leadingZero := body.head? == some '0' && ((body[1]?).map Char.isDigit).getD false
  match base? body with
  | some (base, digits) =>
    let n ← wholeOf? base digits
    some (if isBig then big n else double (Decimal.nearest n 0))
  | none =>
    if isBig then
      if leadingZero then none else (wholeOf? 10 body).map big
    else if leadingZero then
      if cs.contains '_' then none
      else
        match wholeOf? 8 body with
        | some n => some (double (Decimal.nearest n 0))
        | none => (Decimal.unsigned? body).map double
    else (Decimal.unsigned? body).map double

/-- The length of the longest text at the front that may be a number. -/
def span : List Char → Nat
  | [] => 0
  | e :: s :: rest =>
    if (e == 'e' || e == 'E') && (s == '+' || s == '-') then 2 + span rest
    else if e.isAlphanum || e == '_' || e == '.' then 1 + span (s :: rest)
    else 0
  | [c] => if c.isAlphanum || c == '_' || c == '.' then 1 else 0

/-- The longest number at the front of a text, among those of at most `n` characters. -/
def longest? (cs : List Char) : Nat → Option (List Char)
  | 0 => none
  | n + 1 => if (ofChars? (cs.take (n + 1))).isSome then some (cs.take (n + 1)) else longest? cs n

/-- The number at the front of a text. -/
def atFront? (cs : List Char) : Option (List Char) := longest? cs (span cs)

end Numeral

end Text
end ScriptWorkers
