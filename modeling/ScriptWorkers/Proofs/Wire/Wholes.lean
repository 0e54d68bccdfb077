import Mathlib.Tactic.Linarith
import Mathlib.Tactic.Ring
import ScriptWorkers.Proofs.Wire.Values

/-!
# Whole doubles on the wire

A double that is a whole number is written as the digits of the number, a point and a zero.

* `Span.Whole s k`: the reals that round to the double are all close to the whole number `k`.  Then
  the grid of the multiples of `10 ^ e` has a point among them only if `10 ^ e` divides `k`, and
  that point is `k` itself (`Span.Whole.hit`).  So the search for the shortest decimal ends with the
  number itself, without the zeros at its end (`Span.Whole.search`).
* These zeros are put back when the decimal is written (`digitText_mul_pow`, `wire_unsigned`).
-/

namespace ScriptWorkers.Decimal

/-! ## The shortest decimal of a whole number -/

/-- The double is the whole number `k`, and no other whole number is as near as the ends of the
interval of the reals that round to it. -/
structure Span.Whole (s : Span) (k : ℕ) : Prop where
  num : s.num = k * s.den
  low : s.low < s.num
  low' : s.num < s.low + s.den
  high : s.num < s.high
  high' : s.high < s.num + s.den

theorem scaled_natCast (a e b : ℕ) : scaled a e b = (a * 10 ^ e, b) := by
  simp [scaled]

namespace Span.Whole

variable {s : Span} {k : ℕ} (h : s.Whole k)
include h

theorem den_pos : 0 < s.den := by
  have := h.high
  have := h.high'
  omega

/-- The only whole number in the interval is the double itself. -/
theorem contains (d e : ℕ) : s.contains d e = decide (d * 10 ^ e = k) := by
  have hlow := h.low
  have hlow' := h.low'
  have hhigh := h.high
  have hhigh' := h.high'
  have hnum := h.num
  have hpoint : d * s.den * 10 ^ e = d * 10 ^ e * s.den := by ring
  rw [Span.contains, scaled_natCast, scaled_natCast, hpoint]
  generalize d * 10 ^ e = p
  by_cases hp : p = k
  · subst hp
    simp [← hnum, hlow.le, hhigh.le, hlow, hhigh]
  · have hout : p * s.den < s.low ∨ s.high < p * s.den := by
      rcases Nat.lt_or_gt_of_ne hp with hlt | hgt
      · left
        nlinarith
      · right
        nlinarith
    have hclosed : ¬ (s.low ≤ p * s.den ∧ p * s.den ≤ s.high) := by omega
    have hopen : ¬ (s.low < p * s.den ∧ p * s.den < s.high) := by omega
    simp [hp, hclosed, hopen]

theorem floor (e : ℕ) : s.floor e = k / 10 ^ e := by
  rw [Span.floor, h.num]
  simp [Nat.mul_comm k, Nat.mul_div_mul_left _ _ h.den_pos]

/-- On a coarser grid there is only the number itself. -/
theorem hit (e : ℕ) : s.hit e = if 10 ^ e ∣ k then some (k / 10 ^ e) else none := by
  have hnext : (k / 10 ^ e + 1) * 10 ^ e ≠ k := by
    have := Nat.lt_div_mul_add (a := k) (Nat.pow_pos (n := e) (by decide : 0 < 10))
    rw [Nat.add_mul]
    omega
  rw [Span.hit, h.floor, h.contains, h.contains, decide_eq_false hnext]
  by_cases hdvd : 10 ^ e ∣ k
  · rw [if_pos hdvd, decide_eq_true (Nat.div_mul_cancel hdvd)]
  · rw [if_neg hdvd, decide_eq_false fun heq ↦ hdvd ⟨_, by rw [Nat.mul_comm]; exact heq.symm⟩]

/-- The magnitude is the number of digits. -/
theorem magnitude (hk : 0 < k) : s.magnitude = (digitText k).length := by
  have hle : s.den ≤ s.num := h.num ▸ Nat.le_mul_of_pos_left _ hk
  rw [Span.magnitude, if_pos hle, h.num, Nat.mul_div_cancel _ h.den_pos]
  rfl

end Span.Whole

/-- Zeros at the end are taken off. -/
theorem trim_natCast (fuel : ℕ) : ∀ d e : ℕ,
    ∃ d' e' : ℕ, trim d e fuel = ⟨d', e'⟩ ∧ d' * 10 ^ e' = d * 10 ^ e := by
  induction fuel with
  | zero => exact fun d e ↦ ⟨d, e, rfl, rfl⟩
  | succ fuel ih =>
    intro d e
    rw [trim]
    split
    · rename_i hd
      obtain ⟨d', e', heq, hvalue⟩ := ih (d / 10) (e + 1)
      refine ⟨d', e', by exact_mod_cast heq, hvalue.trans ?_⟩
      rw [pow_succ', ← Nat.mul_assoc, Nat.div_mul_cancel (Nat.dvd_of_mod_eq_zero hd.1)]
    · exact ⟨d, e, rfl, rfl⟩

/-- The search goes through the grids from the coarsest on.  The last one that it comes to is that
of the whole numbers, which the double belongs to. -/
theorem Span.Whole.search {s : Span} {k top : ℕ} (h : s.Whole k) (fuel : ℕ) : ∀ n ≤ top,
    top - n < fuel → ∃ d e : ℕ, s.search top n fuel = ⟨d, e⟩ ∧ d * 10 ^ e = k := by
  induction fuel with
  | zero => exact fun n _ hlt ↦ absurd hlt (Nat.not_lt_zero _)
  | succ fuel ih =>
    intro n hn hfuel
    have hgrid : (top : ℤ) - n = (top - n : ℕ) := (Int.ofNat_sub hn).symm
    rw [Span.search, hgrid, h.hit]
    by_cases hdvd : 10 ^ (top - n) ∣ k
    · obtain ⟨d, e, heq, hvalue⟩ := trim_natCast 17 (k / 10 ^ (top - n)) (top - n)
      exact ⟨d, e, by rw [if_pos hdvd]; exact heq, hvalue.trans (Nat.div_mul_cancel hdvd)⟩
    · have hlt : n < top := by
        refine Nat.lt_of_le_of_ne hn fun heq ↦ hdvd ?_
        rw [heq, Nat.sub_self]
        exact one_dvd k
      rw [if_neg hdvd]
      exact ih (n + 1) hlt (by omega)

/-! ## The text -/

/-- And they are put back. -/
theorem digitText_mul_pow {d : ℕ} (hd : 0 < d) (e : ℕ) :
    digitText (d * 10 ^ e) = digitText d ++ zeros e := by
  induction e with
  | zero => simp [zeros]
  | succ e ih =>
    have hpos : 0 < d * 10 ^ e := Nat.mul_pos hd (Nat.pow_pos (by decide))
    have hdigit : Nat.toDigits 10 0 = ['0'] := rfl
    have happend := Nat.toDigits_append_toDigits (b := 10) (d := 0) (by decide) hpos (by decide)
    rw [Nat.add_zero, hdigit] at happend
    rw [zeros, List.replicate_succ', ← List.append_assoc, ← zeros, ← ih, pow_succ, ← Nat.mul_assoc,
      Nat.mul_comm _ 10]
    exact happend.symm

/-- A whole number of at most sixteen digits is written in full, with a point and a zero behind
it. -/
theorem wire_unsigned {d e : ℕ} (hd : 0 < d) (h : d * 10 ^ e < 10 ^ 16) :
    Layout.wire.unsigned ⟨d, e⟩ = digitText (d * 10 ^ e) ++ ['.', '0'] := by
  have hlength : (digitText (d * 10 ^ e)).length ≤ 16 :=
    (Nat.length_toDigits_le_iff (by decide) (by decide)).2 h
  have hpos : 0 < (digitText d).length := Nat.length_toDigits_pos
  rw [digitText_mul_pow hd] at hlength ⊢
  have hleading : leading ⟨d, e⟩ = e + (digitText d).length - 1 := rfl
  simp only [List.length_append, zeros, List.length_replicate] at hlength
  rw [Layout.unsigned, if_pos, positional, if_pos (Int.natCast_nonneg e)]
  · rfl
  · rw [hleading]
    exact ⟨by simp only [Layout.wire]; omega, by simp only [Layout.wire]; omega⟩

/-- The text of a double that is a whole number. -/
theorem Layout.wire_render {f : Float} {k : ℕ} (h : (Span.ofFloat f).Whole k) (hk : 0 < k)
    (hlt : k < 10 ^ 16) : Layout.wire.render f =
      (if isNegative f then ['-'] else []) ++ (digitText k ++ ['.', '0']) := by
  have hnum : (Span.ofFloat f).num ≠ 0 := by
    rw [h.num]
    exact (Nat.mul_pos hk h.den_pos).ne'
  have hlength : (digitText k).length ≤ 16 :=
    (Nat.length_toDigits_le_iff (by decide) (by decide)).2 hlt
  have hfirst : 1 ≤ (digitText k).length := Nat.length_toDigits_pos
  obtain ⟨d, e, hsearch, hvalue⟩ := h.search 17 1 hfirst (by omega)
  have hshortest : shortest f = ⟨d, e⟩ := by
    rw [shortest]
    simp only [if_neg hnum, h.magnitude hk]
    exact hsearch
  have hd : 0 < d := by
    refine Nat.pos_of_ne_zero fun h0 ↦ hk.ne' ?_
    rw [← hvalue, h0, Nat.zero_mul]
  rw [Layout.render, hshortest]
  simp only [if_neg hd.ne']
  rw [wire_unsigned hd (hvalue ▸ hlt), hvalue]

end ScriptWorkers.Decimal

namespace ScriptWorkers.Json

/-- The text of a whole number with a point and a zero is read as a double. -/
theorem read_wholeText {i : ℤ} {f : Float} (hi : 10 * i.natAbs < UInt64.size)
    (hf : assemble (decide (i < 0)) (10 * i.natAbs) (-1) = some f) :
    read (intText i ++ ['.', '0']) = .ok (float f) := by
  have hnumber := number_wholeText hi closes_nil
  rw [hf, Option.map_some] at hnumber
  obtain ⟨c, cs, htext, hc⟩ := intText_eq_cons i
  rw [htext, List.cons_append] at hnumber ⊢
  rw [read, value_of_number hc hnumber]
  rfl

end ScriptWorkers.Json
