import ScriptWorkers.Text.Case

/-!
# Patterns

A pattern says what a part of a string looks like.  `Node` is its structure, and `Options` are what
changes its meaning as a whole.  Characters are numbers here: code units, or whole characters if the
pattern asks for them.
-/

namespace ScriptWorkers
namespace Pattern

/-- A set of characters, as ranges with both ends included. -/
abbrev Ranges := List (Nat × Nat)

namespace Ranges

def has (rs : Ranges) (c : Nat) : Bool := rs.any fun (lo, hi) ↦ lo ≤ c && c ≤ hi

/-- The characters outside of a range up to the next one. -/
def complementFrom (start : Nat) : Ranges → Ranges
  | [] => if start ≤ 0x10FFFF then [(start, 0x10FFFF)] else []
  | (lo, hi) :: rest =>
    (if start < lo then [(start, lo - 1)] else []) ++ complementFrom (max start (hi + 1)) rest

/-- All characters outside of the set. -/
def complement (rs : Ranges) : Ranges := complementFrom 0 (rs.mergeSort fun a b ↦ a.1 ≤ b.1)

def digits : Ranges := [(48, 57)]

def words : Ranges := [(48, 57), (65, 90), (95, 95), (97, 122)]

def lineEnds : Ranges := [(10, 10), (13, 13), (0x2028, 0x2029)]

def blanks : Ranges :=
  [(9, 13), (32, 32), (0xA0, 0xA0), (0x1680, 0x1680), (0x2000, 0x200A), (0x2028, 0x2029),
    (0x202F, 0x202F), (0x205F, 0x205F), (0x3000, 0x3000), (0xFEFF, 0xFEFF)]

end Ranges

/-- What changes the meaning of a pattern as a whole. -/
structure Options where
  /-- Small letters and capital letters are the same. -/
  ignoreCase : Bool := false
  /-- The start and the end of a line count as those of the text. -/
  multiline : Bool := false
  /-- A dot stands for line ends, too. -/
  dotAll : Bool := false
  /-- Characters are whole ones, not code units. -/
  whole : Bool := false
deriving Repr, DecidableEq

/-- The structure of a pattern. -/
inductive Node where
  | empty
  | char (c : Nat)
  | set (rs : Ranges) (negated : Bool)
  /-- The start or the end of the text, or of a line. -/
  | start
  | stop
  /-- Between what belongs to a word and what does not, or nowhere there. -/
  | boundary (negated : Bool)
  | seq (a b : Node)
  | alt (a b : Node)
  /-- What is found here is kept under a number. -/
  | group (i : Nat) (n : Node)
  /-- The same text as in a group. -/
  | back (i : Nat)
  /-- What comes next, or what came before, looks like this, or does not. -/
  | look (ahead negated : Bool) (n : Node)
  /-- Several times, as often as possible or as seldom as possible; the groups from `first` on,
  `count` of them, are inside. -/
  | repeated (n : Node) (least : Nat) (most : Option Nat) (greedy : Bool) (first count : Nat)

/-- A pattern that has been read. -/
structure Compiled where
  node : Node
  /-- The number of groups. -/
  groups : Nat
  /-- The names of groups. -/
  names : List (List Nat × Nat)
  options : Options

/-! ## Small and capital letters -/

/-- The character that a character counts as if small letters and capital letters are the same. -/
def foldCase (whole : Bool) (c : Nat) : Nat :=
  if (0xD800 ≤ c && c < 0xE000) || 0x10FFFF < c then c
  else
    match Text.inCapitals [Char.ofNat c] with
    | [d] =>
      if whole then
        match Text.inSmall [d] with
        | [e] => e.toNat
        | _ => c
      else if 128 ≤ c && d.toNat < 128 then c
      else if d.toNat < 0x10000 then d.toNat else c
    | _ => c

def Options.same (o : Options) (a b : Nat) : Bool :=
  a == b || (o.ignoreCase && foldCase o.whole a == foldCase o.whole b)

def Options.inSet (o : Options) (rs : Ranges) (c : Nat) : Bool :=
  rs.has c || (o.ignoreCase &&
    (let f := foldCase o.whole c
     rs.has f || rs.any fun (lo, hi) ↦
       hi - lo < 0x500 && (List.range (hi - lo + 1)).any fun i ↦ foldCase o.whole (lo + i) == f))

end Pattern
end ScriptWorkers
