import ScriptWorkers.Text.Numeral

/-!
# Tables of characters

What a character is like is a matter of tables, beyond the first 128 characters.  A table is a text
of entries in ascending order, in which all numbers are in base 16 and a place is told by its
distance from the one before it.

* A property of characters is given by the places where it starts and stops to hold (`placesOf`).
  It holds of a character if an odd number of these places is not above it (`holdsAt`).
* A value of characters is given by runs of characters (`TableRun`).  An entry `gap-more:value`
  leaves out `gap` characters after the run before it and covers one character and `more` others; a
  value is one number or several that are joined by plus signs.  Numbers that are zero are left out.
-/

namespace ScriptWorkers
namespace Text

/-- A number in base 16; no digits at all are zero. -/
def hexadecimal (s : String) : Nat :=
  s.toList.foldl (fun n c ↦ n * 16 + (digitValue? c).getD 0) 0

/-- The entries of a table, which blanks and line ends divide. -/
def entriesOf (table : String) : List String :=
  ((table.splitOn "\n").flatMap (·.splitOn " ")).filter (· ≠ "")

/-! ## Properties -/

/-- The places that a table tells by their distances. -/
def placesOf (table : String) : Array Nat :=
  (entriesOf table).foldl (fun places gap ↦ places.push (places.back?.getD 0 + hexadecimal gap)) #[]

/-- How many of the ascending places `lo`, ..., `hi - 1` are not above `n`, counted from zero; found
in at most so many halvings. -/
def countUpTo (places : Array Nat) (n lo hi : Nat) : Nat → Nat
  | 0 => lo
  | fuel + 1 =>
    if hi ≤ lo then lo
    else
      let mid := (lo + hi) / 2
      if places.getD mid 0 ≤ n then countUpTo places n (mid + 1) hi fuel
      else countUpTo places n lo mid fuel

/-- The property holds of a character. -/
def holdsAt (places : Array Nat) (c : Char) : Bool :=
  countUpTo places c.toNat 0 places.size 64 % 2 == 1

/-! ## Values -/

/-- What a table says of a run of characters. -/
structure TableRun where
  first : Nat
  last : Nat
  value : List Nat

namespace TableRun

/-- The run of an entry that comes after the character `before`. -/
def ofText (before : Nat) (s : String) : TableRun :=
  match s.splitOn ":" with
  | [places, value] =>
    let parts := places.splitOn "-"
    let first := before + hexadecimal (parts.headD "") + 1
    ⟨first, first + hexadecimal (parts.getD 1 ""), (value.splitOn "+").map hexadecimal⟩
  | _ => ⟨0, 0, []⟩

def table (s : String) : Array TableRun :=
  (entriesOf s).foldl (fun runs e ↦ runs.push (ofText ((runs.back?.map last).getD 0) e)) #[]

/-- The entry of a character among those at the places `lo`, ..., `hi - 1`, found in at most so many
halvings. -/
def search (runs : Array TableRun) (n lo hi : Nat) : Nat → Option TableRun
  | 0 => none
  | fuel + 1 =>
    if hi ≤ lo then none
    else
      let mid := (lo + hi) / 2
      match runs[mid]? with
      | none => none
      | some r =>
        if n < r.first then search runs n lo mid fuel
        else if r.last < n then search runs n (mid + 1) hi fuel
        else some r

def find? (runs : Array TableRun) (n : Nat) : Option TableRun := search runs n 0 runs.size 64

end TableRun

end Text
end ScriptWorkers
