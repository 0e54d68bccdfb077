import ScriptWorkers.Pattern.Basic
import ScriptWorkers.Script.Units

/-!
# Matching

A pattern is matched from a place on by trying what it admits in order and going back where that
leads nowhere.  What is to be done after a part has been found is passed along as a function, so the
search is one recursion over the structure of the pattern.  Only repetitions go round in circles;
each round has to consume something, so the length of the text bounds them.
-/

namespace ScriptWorkers
namespace Pattern

/-- How far a search has got: the place, and the parts that groups have found. -/
structure Progress where
  place : Nat
  groups : Array (Option (Nat × Nat))
deriving Inhabited

/-- What is to be done with the progress that has been made; nothing comes of it if that is no
use. -/
abbrev Onward := Progress → Option Progress

/-! ## Characters of a text -/

/-- The character at a place and the place behind it. -/
def charAfter? (whole : Bool) (s : Array UInt16) (i : Nat) : Option (Nat × Nat) := do
  let u ← s[i]?
  match s[i + 1]? with
  | some v =>
    if whole && Units.isHigh u && Units.isLow v then
      some ((Units.join u v).toNat, i + 2)
    else some (u.toNat, i + 1)
  | none => some (u.toNat, i + 1)

/-- The character in front of a place and the place where it starts. -/
def charBefore? (whole : Bool) (s : Array UInt16) (i : Nat) : Option (Nat × Nat) := do
  if i = 0 then none
  let v ← s[i - 1]?
  if whole && 2 ≤ i && Units.isLow v then
    match s[i - 2]? with
    | some u =>
      if Units.isHigh u then some ((Units.join u v).toNat, i - 2)
      else some (v.toNat, i - 1)
    | none => some (v.toNat, i - 1)
  else some (v.toNat, i - 1)

/-- The next character in the direction of the search, and the place behind it. -/
def charNext? (whole forward : Bool) (s : Array UInt16) (i : Nat) : Option (Nat × Nat) :=
  if forward then charAfter? whole s i else charBefore? whole s i

/-- The code unit at a place belongs to a word. -/
def isWordAt (o : Options) (s : Array UInt16) (i : Nat) : Bool :=
  match s[i]? with
  | some u =>
    Ranges.words.has u.toNat || (o.whole && o.ignoreCase && (u.toNat == 0x17F || u.toNat == 0x212A))
  | none => false

def isLineEndAt (s : Array UInt16) (i : Nat) : Bool :=
  match s[i]? with
  | some u => Ranges.lineEnds.has u.toNat
  | none => false

/-- The place is between what belongs to a word and what does not. -/
def atBoundary (o : Options) (s : Array UInt16) (i : Nat) : Bool :=
  (0 < i && isWordAt o s (i - 1)) != isWordAt o s i

/-! ## The search -/

/-- Repeats a part.  At most `fuel` rounds are made; a round that consumes nothing is no use once
the least number of rounds has been made. -/
def rounds (body : Progress → Onward → Option Progress) (reset : Progress → Progress)
    (greedy : Bool) (k : Onward) : Nat → Nat → Option Nat → Progress → Option Progress
  | 0, _, _, p => k p
  | fuel + 1, least, most, p =>
    if most = some 0 then k p
    else
      let more (_ : Unit) : Option Progress :=
        body (reset p) fun q ↦
          if least = 0 && q.place = p.place then none
          else rounds body reset greedy k fuel (least - 1) (most.map (· - 1)) q
      if 0 < least then more ()
      else if greedy then
        match more () with
        | some q => some q
        | none => k p
      else
        match k p with
        | some q => some q
        | none => more ()

/-- Nothing has been found yet in some groups. -/
def forget (first count : Nat) (p : Progress) : Progress :=
  { p with groups := (List.range count).foldl (fun gs i ↦ gs.set! (first + i) none) p.groups }

/-- A part of the text stands at a place, in the direction of the search; the place behind it. -/
def sameText? (o : Options) (forward : Bool) (s : Array UInt16) (part : List UInt16) (i : Nat) :
    Option Nat :=
  let n := part.length
  if forward then
    if (part.zipIdx).all fun (u, j) ↦ (s[i + j]?).any fun v ↦ o.same u.toNat v.toNat then
      some (i + n)
    else none
  else if n ≤ i &&
      (part.zipIdx).all fun (u, j) ↦ (s[i - n + j]?).any fun v ↦ o.same u.toNat v.toNat then
    some (i - n)
  else none

namespace Node

/-- Looks for what a node describes, in a direction, and then goes on. -/
def run (o : Options) (s : Array UInt16) (forward : Bool) (p : Progress) (k : Onward) :
    Node → Option Progress
  | empty => k p
  | char c =>
    match charNext? o.whole forward s p.place with
    | some (d, i) => if o.same c d then k { p with place := i } else none
    | none => none
  | set rs negated =>
    match charNext? o.whole forward s p.place with
    | some (d, i) => if o.inSet rs d != negated then k { p with place := i } else none
    | none => none
  | start =>
    if p.place = 0 || (o.multiline && isLineEndAt s (p.place - 1)) then k p else none
  | stop =>
    if p.place = s.size || (o.multiline && isLineEndAt s p.place) then k p else none
  | boundary negated => if atBoundary o s p.place != negated then k p else none
  | seq a b =>
    if forward then a.run o s forward p fun q ↦ b.run o s forward q k
    else b.run o s forward p fun q ↦ a.run o s forward q k
  | alt a b =>
    match a.run o s forward p k with
    | some q => some q
    | none => b.run o s forward p k
  | group i n =>
    n.run o s forward p fun q ↦
      let part := if forward then (p.place, q.place) else (q.place, p.place)
      k { q with groups := q.groups.set! i (some part) }
  | back i =>
    match (p.groups[i]?).join with
    | none => k p
    | some (a, b) =>
      match sameText? o forward s (s.extract a b).toList p.place with
      | some place => k { p with place := place }
      | none => none
  | look ahead negated n =>
    match n.run o s ahead p some with
    | some q => if negated then none else k { q with place := p.place }
    | none => if negated then k p else none
  | repeated n least most greedy first count =>
    rounds (fun q k ↦ n.run o s forward q k) (forget first count) greedy k
      (least + s.size + 1) least most p

end Node

/-- What a pattern finds at a place: where it ends, and the parts that groups have found, the
whole of it first. -/
def Compiled.at? (c : Compiled) (s : Array UInt16) (i : Nat) : Option Progress :=
  let start : Progress := ⟨i, (Array.replicate (c.groups + 1) none)⟩
  (c.node.run c.options s true start some).map fun p ↦
    { p with groups := p.groups.set! 0 (some (i, p.place)) }

/-- What a pattern finds first from a place on, among `n` places. -/
def Compiled.first? (c : Compiled) (s : Array UInt16) (i : Nat) : Nat → Option Progress
  | 0 => none
  | n + 1 =>
    match c.at? s i with
    | some p => some p
    | none => c.first? s (match charAfter? c.options.whole s i with
        | some (_, j) => j
        | none => i + 1) n

/-- What a pattern finds first from a place on. -/
def Compiled.find? (c : Compiled) (s : Array UInt16) (i : Nat) : Option Progress :=
  c.first? s i (s.size + 1 - i)

end Pattern
end ScriptWorkers
