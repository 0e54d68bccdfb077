import ScriptWorkers.Text.Parts

/-!
# Normal forms of texts

A text is normal if all its characters are taken apart, with the marks behind each letter in the
order of their classes, or if they are put together again after that as far as possible.  Either may
be done up to characters that only look different.  Syllables made of two or three letters of one
script are computed instead of being listed.
-/

namespace ScriptWorkers
namespace Text

/-- A normal form. -/
structure NormalForm where
  /-- Characters are put together again. -/
  composed : Bool
  /-- Characters that only look different are the same. -/
  loose : Bool
deriving Repr, DecidableEq

def NormalForm.ofName? : String → Option NormalForm
  | "NFC" => some ⟨true, false⟩
  | "NFD" => some ⟨false, false⟩
  | "NFKC" => some ⟨true, true⟩
  | "NFKD" => some ⟨false, true⟩
  | _ => none

/-! ## Syllables -/

def firstSyllable : Nat := 0xAC00

/-- The place of the first letter that a syllable starts with. -/
def firstLead : Nat := 0x1100

/-- The place of the first letter that follows. -/
def firstVowel : Nat := 0x1161

/-- The place right before the first letter that a syllable may end with. -/
def beforeTail : Nat := 0x11A7

/-- The letters of a syllable, if it is one. -/
def syllableParts? (n : Nat) : Option (List Nat) :=
  if firstSyllable ≤ n ∧ n < firstSyllable + 19 * 21 * 28 then
    let k := n - firstSyllable
    let tail := if k % 28 = 0 then [] else [beforeTail + k % 28]
    some ((firstLead + k / 588) :: (firstVowel + k % 588 / 28) :: tail)
  else none

/-- The syllable of two letters, or of a syllable without a tail and a letter. -/
def syllable? (a b : Nat) : Option Nat :=
  if firstLead ≤ a ∧ a < firstLead + 19 ∧ firstVowel ≤ b ∧ b < firstVowel + 21 then
    some (firstSyllable + ((a - firstLead) * 21 + (b - firstVowel)) * 28)
  else if firstSyllable ≤ a ∧ a < firstSyllable + 19 * 21 * 28 ∧ (a - firstSyllable) % 28 = 0 ∧
      beforeTail < b ∧ b < beforeTail + 28 then
    some (a + (b - beforeTail))
  else none

/-! ## Taking apart -/

/-- What a character is made of in one step, if anything. -/
def partsOf? (loose : Bool) (n : Nat) : Option (List Nat) :=
  match syllableParts? n, partsIn partsTable n with
  | some ps, _ => some ps
  | none, some ps => some ps
  | none, none => if loose then partsIn looseTable n else none

/-- A character taken apart as far as possible, in at most so many steps. -/
def takenApart (loose : Bool) (n : Nat) : Nat → List Nat
  | 0 => [n]
  | fuel + 1 =>
    match partsOf? loose n with
    | some ps => ps.flatMap fun p ↦ takenApart loose p fuel
    | none => [n]

/-- Puts a mark in its place among marks in the order of their classes, behind those of its own. -/
def insertMark (m : Nat) : List Nat → List Nat
  | [] => [m]
  | x :: rest => if markClass m < markClass x then m :: x :: rest else x :: insertMark m rest

/-- Characters with the marks in order; `marks` have been read and follow each other. -/
def inOrder (marks : List Nat) : List Nat → List Nat
  | [] => marks
  | n :: rest =>
    if markClass n = 0 then marks ++ n :: inOrder [] rest else inOrder (insertMark n marks) rest

/-! ## Putting together -/

/-- The pairs of characters that make another one. -/
def pairs : List (Nat × Nat × Nat) :=
  partsTable.toList.filterMap fun r ↦
    match r.value with
    | [a, b] => if (TableRun.find? apartTable r.first).isSome then none else some (a, b, r.first)
    | _ => none

/-- The character that two others make. -/
def together? (a b : Nat) : Option Nat :=
  match syllable? a b with
  | some s => some s
  | none => (pairs.find? fun (x, y, _) ↦ x == a && y == b).map (·.2.2)

/-- Characters put together; `base` is the last one that is no mark, and `marks` are behind it, the
last of them first.  A character reaches the base if no mark of its class or above is between. -/
def composedFrom (base : Nat) (marks : List Nat) : List Nat → List Nat
  | [] => base :: marks.reverse
  | n :: rest =>
    let reaches := match marks with
      | [] => true
      | m :: _ => markClass m < markClass n
    match if reaches then together? base n else none with
    | some c => composedFrom c marks rest
    | none =>
      if markClass n = 0 then base :: marks.reverse ++ composedFrom n [] rest
      else composedFrom base (n :: marks) rest

/-- Characters put together as far as possible; marks at the front have nothing to go with. -/
def putTogether : List Nat → List Nat
  | [] => []
  | n :: rest => if markClass n = 0 then composedFrom n [] rest else n :: putTogether rest

/-! ## Normal forms -/

def normal (f : NormalForm) (cs : List Char) : List Char :=
  let apart := inOrder [] (cs.flatMap fun c ↦ takenApart f.loose c.toNat 32)
  (if f.composed then putTogether apart else apart).map Char.ofNat

end Text
end ScriptWorkers
