import Mathlib

/-!
# The order of doubles

Turning a count into a double rounds it, and dividing the double rounds again; neither ever puts two
numbers in the wrong order.

* `Stands`: the number that a mantissa with its rounding and sticky bits stands for.  Shifting it to
  the right halves the number, and rounding it goes to a nearest whole one.
* `Rounds x u`: the double `u` is what a positive number `x` is rounded to.  Of two different
  numbers the smaller one is rounded to the smaller double (`Rounds.le`).
* `toFloat_div_le`: a smaller count divided by a positive double gives no larger a double.
* `Rounds.normal`: the mantissa has 53 bits, and the exponent is bounded by the number; so a number
  of moderate size is packed into a word and unpacked again without loss (`unpack_pack_normal`).
* `rounds_ofNat` and `rounds_div` are the two roundings.
-/

open Float.Model Float.Model.UnpackedFloat

namespace ScriptWorkers.Binary64

/-! ## Mantissas with two bits more -/

/-- The number `x` has the whole part `em.mantissa`, and the two bits tell where between that and
the next whole number it lies. -/
def Stands (em : ExtendedMantissa) (x : ℚ) : Prop :=
  match em.roundBit, em.stickyBit with
  | false, false => x = em.mantissa
  | false, true => em.mantissa < x ∧ x < em.mantissa + 1 / 2
  | true, false => x = em.mantissa + 1 / 2
  | true, true => em.mantissa + 1 / 2 < x ∧ x < em.mantissa + 1

namespace Stands

variable {em : ExtendedMantissa} {x : ℚ}

/-- A quotient, with what is left over. -/
theorem fraction (n d : ℕ) (hd : 0 < d) :
    Stands (.ofMantissaAndAccuracy (n / d) (accuracyOfFraction (n % d) d)) (n / d) := by
  have hd' : (0 : ℚ) < d := by exact_mod_cast hd
  have hlt : (n % d : ℕ) < (d : ℚ) := by exact_mod_cast Nat.mod_lt n hd
  have hx : (n / d : ℚ) = (n / d : ℕ) + (n % d : ℕ) / (d : ℚ) := by
    have h : ((d * (n / d) + n % d : ℕ) : ℚ) = n := by rw [Nat.div_add_mod]
    push_cast at h
    field_simp
    linarith
  unfold accuracyOfFraction
  split
  next h => simp [Stands, ExtendedMantissa.ofMantissaAndAccuracy, hx, h]
  next h =>
    have hpos : (0 : ℚ) < (n % d : ℕ) := by exact_mod_cast Nat.pos_of_ne_zero h
    rcases hc : compare (2 * (n % d)) d with _ | _ | _
    · have hc : (2 * (n % d : ℕ) : ℚ) < d := by exact_mod_cast Nat.compare_eq_lt.mp hc
      simp only [Stands, ExtendedMantissa.ofMantissaAndAccuracy, hx]
      constructor
      · linarith [div_pos hpos hd']
      · rw [add_lt_add_iff_left, div_lt_div_iff₀ hd' two_pos]
        linarith
    · have hc : (2 * (n % d : ℕ) : ℚ) = d := by exact_mod_cast Nat.compare_eq_eq.mp hc
      simp only [Stands, ExtendedMantissa.ofMantissaAndAccuracy, hx]
      rw [add_right_inj, div_eq_div_iff hd'.ne' two_ne_zero]
      linarith
    · have hc : (d : ℚ) < 2 * (n % d : ℕ) := by exact_mod_cast Nat.compare_eq_gt.mp hc
      simp only [Stands, ExtendedMantissa.ofMantissaAndAccuracy, hx]
      constructor
      · rw [add_lt_add_iff_left, div_lt_div_iff₀ two_pos hd']
        linarith
      · rw [add_lt_add_iff_left, div_lt_one hd']
        exact hlt

theorem shiftRightOne (h : Stands em x) : Stands em.shiftRightOne (x / 2) := by
  obtain ⟨m, r, s⟩ := em
  have hm : ((m % 2 : ℕ) : ℚ) + 2 * ((m / 2 : ℕ) : ℚ) = m := by exact_mod_cast Nat.mod_add_div m 2
  rcases Nat.mod_two_eq_zero_or_one m with hr | hr
  · have hbit : (m % 2 != 0) = false := by simp [hr]
    rw [hr, Nat.cast_zero, zero_add] at hm
    cases r <;> cases s <;> simp only [Stands, ExtendedMantissa.shiftRightOne, hbit] at h ⊢
    · change x / 2 = (m / 2 : ℕ)
      linarith
    all_goals constructor <;> linarith
  · have hbit : (m % 2 != 0) = true := by simp [hr]
    rw [hr, Nat.cast_one] at hm
    cases r <;> cases s <;> simp only [Stands, ExtendedMantissa.shiftRightOne, hbit] at h ⊢
    · change x / 2 = (m / 2 : ℕ) + 1 / 2
      linarith
    all_goals constructor <;> linarith

/-- A shift by `k` divides by `2 ^ k`. -/
theorem shiftRight (h : Stands em x) (k : ℕ) : Stands (em >>> k) (x / 2 ^ k) := by
  change Stands (k.repeat ExtendedMantissa.shiftRightOne em) _
  induction k with
  | zero => simpa [Nat.repeat] using h
  | succ k ih =>
    rw [Nat.repeat, pow_succ, div_mul_eq_div_div]
    exact ih.shiftRightOne

/-- It is rounded to a nearest whole number. -/
theorem abs_roundedMantissa_sub_le (h : Stands em x) : |(em.roundedMantissa : ℚ) - x| ≤ 1 / 2 := by
  obtain ⟨m, r, s⟩ := em
  have hm : m % 2 = 0 ∨ m % 2 = 1 := Nat.mod_two_eq_zero_or_one m
  rw [abs_le]
  cases r <;> cases s <;>
    simp only [Stands, ExtendedMantissa.roundedMantissa, ExtendedMantissa.accuracy,
      Accuracy.roundToNearestEven] at h ⊢
  · constructor <;> linarith
  · constructor <;> linarith
  · rcases hm with hm | hm <;> rw [hm] <;> push_cast <;> constructor <;> linarith
  · push_cast
    constructor <;> linarith

end Stands

/-! ## Rounding to a double -/

/-- What a positive number is rounded to: a nearest one of the doubles of its own binade, or the
first of the next. -/
inductive Rounds (x : ℚ) : UnpackedFloat → Prop
  | within (m : ℕ) (e : ℤ) (h : 0 < m) (hlo : 2 ^ 52 * 2 ^ e ≤ x) (hhi : x < 2 ^ 53 * 2 ^ e)
      (hnear : |m - x / 2 ^ e| ≤ 1 / 2) (hm : 2 ^ 52 ≤ m) (hm' : m < 2 ^ 53) :
      Rounds x (.finite .positive m e h)
  | beyond (e : ℤ) (hlo : (2 ^ 53 - 1 / 2) * 2 ^ e ≤ x) (hhi : x < 2 ^ 53 * 2 ^ e) :
      Rounds x (.finite .positive (2 ^ 52) (e + 1) (by decide))

theorem two_zpow_pos (e : ℤ) : (0 : ℚ) < 2 ^ e := zpow_pos two_pos e

/-- The binade of a larger number is no lower one. -/
theorem binade_le {x y : ℚ} {e f : ℤ} (hx : 2 ^ 52 * 2 ^ e ≤ x) (hy : y < 2 ^ 53 * 2 ^ f)
    (hxy : x ≤ y) : e ≤ f := by
  have h : (2 : ℚ) ^ e < 2 ^ (f + 1) := by
    rw [zpow_add_one₀ two_ne_zero]
    linarith
  exact Int.lt_add_one_iff.mp ((zpow_lt_zpow_iff_right₀ one_lt_two).mp h)

theorem le_finite {m n : ℕ} {e f : ℤ} {hm : 0 < m} {hn : 0 < n}
    (h : e < f ∨ e = f ∧ m ≤ n) :
    UnpackedFloat.le (.finite .positive m e hm) (.finite .positive n f hn) = true := by
  rcases h with h | ⟨rfl, h⟩
  · simp [UnpackedFloat.le, UnpackedFloat.compare, compare_lt_iff_lt.mpr h]
  · simp [UnpackedFloat.le, UnpackedFloat.compare, Nat.isLE_compare, h]

theorem of_le_finite {m n : ℕ} {e f : ℤ} {hm : 0 < m} {hn : 0 < n}
    (h : UnpackedFloat.le (.finite .positive m e hm) (.finite .positive n f hn) = true) :
    e < f ∨ e = f ∧ m ≤ n := by
  rcases lt_trichotomy e f with hlt | rfl | hgt
  · exact .inl hlt
  · simp only [UnpackedFloat.le, UnpackedFloat.compare, compare_eq_iff_eq.mpr, Ordering.then,
      Option.any_some, Nat.isLE_compare] at h
    exact .inr ⟨rfl, h⟩
  · simp [UnpackedFloat.le, UnpackedFloat.compare, compare_gt_iff_gt.mpr hgt] at h

/-- **Rounding keeps the order.** -/
theorem Rounds.le {x y : ℚ} {u v : UnpackedFloat} (hu : Rounds x u) (hv : Rounds y v)
    (hxy : x < y) : u.le v = true := by
  cases hu with
  | within m e h hlo hhi hnear hm hm' =>
    cases hv with
    | within n f k klo khi knear hn hn' =>
      have hef := binade_le hlo khi hxy.le
      rcases hef.lt_or_eq with hlt | rfl
      · exact le_finite (.inl hlt)
      · refine le_finite (.inr ⟨rfl, ?_⟩)
        have hdiv : x / 2 ^ e < y / 2 ^ e := div_lt_div_of_pos_right hxy (two_zpow_pos e)
        rw [abs_le] at hnear knear
        have : (m : ℚ) < n + 1 := by linarith
        exact Nat.lt_add_one_iff.mp (by exact_mod_cast this)
    | beyond f klo khi =>
      have hef := binade_le hlo khi hxy.le
      exact le_finite (.inl (by omega))
  | beyond e hlo hhi =>
    have hlo' : 2 ^ 52 * 2 ^ e ≤ x := by nlinarith [two_zpow_pos e]
    cases hv with
    | within n f k klo khi knear hn hn' =>
      have hef := binade_le hlo' khi hxy.le
      rcases hef.lt_or_eq with hlt | rfl
      · rcases (Int.add_one_le_of_lt hlt).lt_or_eq with hlt' | rfl
        · exact le_finite (.inl hlt')
        · exact le_finite (.inr ⟨rfl, hn⟩)
      · -- a number that close to the end of the binade is not rounded to anything inside it
        have hdiv : (2 ^ 53 - 1 / 2 : ℚ) < y / 2 ^ e := by
          rw [lt_div_iff₀ (two_zpow_pos e)]
          linarith
        rw [abs_le] at knear
        have : (2 ^ 53 : ℚ) < n + 1 := by linarith
        have : 2 ^ 53 < n + 1 := by exact_mod_cast this
        omega
    | beyond f klo khi =>
      have hef := binade_le hlo' khi hxy.le
      rcases hef.lt_or_eq with hlt | rfl
      · exact le_finite (.inl (by omega))
      · exact le_finite (.inr ⟨rfl, le_rfl⟩)

/-- A mantissa of at least 53 bits is shifted until it has 53. -/
theorem shiftToTargetExponent_eq {m k : ℕ} {e : ℤ} (a : Accuracy) (hm : m.log2 = 52 + k)
    (he : -1074 ≤ e) :
    shiftToTargetExponent .binary64 m e a =
      (ExtendedMantissa.ofMantissaAndAccuracy m a >>> k, e + k) := by
  have hk : (Format.binary64.targetExponent (totalExponent m e) - e).toNat = k := by
    simp only [Format.targetExponent, totalExponent, Format.mantissaBits, Format.minExponent, hm]
    omega
  simp only [shiftToTargetExponent, shiftToExponent, hk]

theorem log2_eq {m k : ℕ} (hlo : 2 ^ k ≤ m) (hhi : m < 2 ^ (k + 1)) : m.log2 = k :=
  (Nat.log2_eq_iff (by have := Nat.two_pow_pos k; omega)).mpr ⟨hlo, hhi⟩

/-- The whole part of a fraction has the fraction's own binade. -/
theorem fraction_binade {n d k : ℕ} (hd : 0 < d) (hk : (n / d).log2 = 52 + k) :
    (2 ^ 52 : ℚ) ≤ n / d / 2 ^ k ∧ (n / d / 2 ^ k : ℚ) < 2 ^ 53 := by
  have hne : n / d ≠ 0 := by
    intro h
    rw [h, Nat.log2_zero] at hk
    omega
  obtain ⟨hlo, hhi⟩ := (Nat.log2_eq_iff hne).mp hk
  have hd' : (0 : ℚ) < d := by exact_mod_cast hd
  have hlo' : 2 ^ 52 * 2 ^ k * d ≤ n := by
    rw [← pow_add]
    exact (Nat.le_div_iff_mul_le hd).mp hlo
  have hhi' : n < 2 ^ 53 * 2 ^ k * d := by
    rw [← pow_add, show 53 + k = 52 + k + 1 by omega]
    exact (Nat.div_lt_iff_lt_mul hd).mp hhi
  rw [le_div_iff₀ (by positivity), le_div_iff₀ hd', div_lt_iff₀ (by positivity), div_lt_iff₀ hd']
  exact ⟨by exact_mod_cast hlo', by exact_mod_cast hhi'⟩

section RoundWithAccuracy

variable {m k r : ℕ} {e : ℤ} {a : Accuracy}

/-- The mantissa has 53 bits after rounding. -/
theorem roundWithAccuracy_within (hm : m.log2 = 52 + k) (he : -1074 ≤ e) (hlo : 2 ^ 52 ≤ r)
    (hhi : r < 2 ^ 53)
    (hr : (ExtendedMantissa.ofMantissaAndAccuracy m a >>> k).roundedMantissa = r) :
    roundWithAccuracy .binary64 .positive m e a =
      .finite .positive r (e + k) (by have := Nat.two_pow_pos 52; omega) := by
  have hshift : shiftToTargetExponent .binary64 r (e + k) .exact = (⟨r, false, false⟩, e + k) := by
    rw [shiftToTargetExponent_eq (k := 0) _ (log2_eq hlo hhi) (by omega)]
    exact Prod.ext rfl (add_zero _)
  have hne : r ≠ 0 := by omega
  simp only [roundWithAccuracy, shiftToTargetExponent_eq a hm he, hr, hshift, hne, dite_false]

/-- Rounding up has made it 54. -/
theorem roundWithAccuracy_beyond (hm : m.log2 = 52 + k) (he : -1074 ≤ e)
    (hr : (ExtendedMantissa.ofMantissaAndAccuracy m a >>> k).roundedMantissa = 2 ^ 53) :
    roundWithAccuracy .binary64 .positive m e a =
      .finite .positive (2 ^ 52) (e + k + 1) (by decide) := by
  have hshift : shiftToTargetExponent .binary64 (2 ^ 53) (e + k) .exact =
      (⟨2 ^ 52, false, false⟩, e + k + 1) :=
    shiftToTargetExponent_eq (k := 1) _ (by decide) (by omega)
  simp only [roundWithAccuracy, shiftToTargetExponent_eq a hm he, hr, hshift]
  rfl

end RoundWithAccuracy

/-- A fraction whose whole part has at least 53 bits is rounded to a nearest double. -/
theorem rounds_roundWithAccuracy {n d : ℕ} {e : ℤ} (hd : 0 < d) (hn : 2 ^ 52 ≤ n / d)
    (he : -1074 ≤ e) :
    Rounds (n / d * 2 ^ e) (roundWithAccuracy .binary64 .positive (n / d) e
      (accuracyOfFraction (n % d) d)) := by
  obtain ⟨k, hk⟩ := Nat.exists_eq_add_of_le ((Nat.le_log2 (by omega)).mpr hn)
  obtain ⟨hlo, hhi⟩ := fraction_binade hd hk
  have hnear := ((Stands.fraction n d hd).shiftRight k).abs_roundedMantissa_sub_le
  have hscale : (n / d * 2 ^ e : ℚ) = n / d / 2 ^ k * 2 ^ (e + k) := by
    rw [zpow_add₀ two_ne_zero, zpow_natCast]
    field_simp
  rw [hscale]
  generalize (n / d / 2 ^ k : ℚ) = x at hlo hhi hnear
  generalize hr : ExtendedMantissa.roundedMantissa _ = r at hnear
  have hpos := two_zpow_pos (e + k)
  have hnear' := abs_le.mp hnear
  have hrlo : 2 ^ 52 ≤ r := by
    have : (2 ^ 52 : ℚ) < r + 1 := by linarith
    exact Nat.lt_add_one_iff.mp (by exact_mod_cast this)
  have hrhi : r ≤ 2 ^ 53 := by
    have : (r : ℚ) < 2 ^ 53 + 1 := by linarith
    exact Nat.lt_add_one_iff.mp (by exact_mod_cast this)
  rcases hrhi.lt_or_eq with hlt | rfl
  · rw [roundWithAccuracy_within hk he hrlo hlt hr]
    refine .within r (e + k) _ ?_ ?_ ?_ hrlo hlt
    · exact mul_le_mul_of_nonneg_right hlo hpos.le
    · exact mul_lt_mul_of_pos_right hhi hpos
    · rwa [mul_div_cancel_right₀ x hpos.ne']
  · rw [roundWithAccuracy_beyond hk he hr]
    refine .beyond (e + k) ?_ ?_
    · push_cast at hnear'
      exact mul_le_mul_of_nonneg_right (by linarith) hpos.le
    · exact mul_lt_mul_of_pos_right hhi hpos

/-- A number that is a double already. -/
theorem rounds_exact {n : ℕ} {e : ℤ} (hn : 2 ^ 52 ≤ n) (he : -1074 ≤ e) :
    Rounds (n * 2 ^ e) (roundWithAccuracy .binary64 .positive n e .exact) := by
  have h := rounds_roundWithAccuracy (n := n) (e := e) one_pos (by rwa [Nat.div_one]) he
  rw [Nat.div_one, Nat.mod_one, Nat.cast_one, div_one] at h
  exact h

/-! ## From words and back -/

theorem unpackSign_packComponents (s : Sign) (e : BitVec 11) (m : BitVec 52) :
    Sign.ofBitVec (unpackSign (packComponents .binary64 s e m)) = s := by
  simp only [unpackSign, packComponents, BitVec.extractLsb]
  rw [BitVec.extractLsb'_append_eq_of_le (by omega), BitVec.extractLsb'_append_eq_of_le (by omega)]
  cases s <;> rfl

/-- A double with all its 53 bits is written as its sign, its exponent and all bits but
the first one. -/
theorem pack_normal {s : Sign} {m : ℕ} {e : ℤ} {h : 0 < m} (hlo : 2 ^ 52 ≤ m) (hhi : m < 2 ^ 53)
    (hehi : e ≤ 971) : UnpackedFloat.pack .binary64 (.finite s m e h) =
      packComponents .binary64 s (BitVec.ofNat 11 (e + 1075).toNat) (BitVec.ofNat 52 m) := by
  have hlog : m.log2 = 52 := log2_eq hlo hhi
  have hbias : (e + Format.binary64.exponentBias +
      Format.binary64.mantissaBitsWithoutImplicit).toNat = (e + 1075).toNat := by
    change (e + (2 ^ (11 - 1) - 1 : ℕ) + (52 : ℕ)).toNat = _
    omega
  rw [UnpackedFloat.pack]
  simp only [hlog, hbias]
  rw [if_neg (show ¬ 2 ^ 11 ≤ (e + 1075).toNat + 1 by omega), if_pos (by rfl)]

theorem toNat_exponent {e : ℤ} (hehi : e ≤ 971) :
    (BitVec.ofNat 11 (e + 1075).toNat).toNat = (e + 1075).toNat := by
  rw [BitVec.toNat_ofNat]
  omega

/-- A double with all its 53 bits is read from the word it is written to. -/
theorem unpack_pack_normal {s : Sign} {m : ℕ} {e : ℤ} {h : 0 < m} (hlo : 2 ^ 52 ≤ m)
    (hhi : m < 2 ^ 53) (helo : -1074 ≤ e) (hehi : e ≤ 971) :
    (Float.Model.pack (.finite s m e h)).unpack = .finite s m e h := by
  have hfield := toNat_exponent hehi
  -- the exponent is none of the two that are kept for what is not a normal number
  have hne {b : BitVec 11} (hb : (e + 1075).toNat ≠ b.toNat) :
      BitVec.ofNat 11 (e + 1075).toNat ≠ b :=
    fun heq ↦ hb (hfield ▸ congrArg BitVec.toNat heq)
  have hones : BitVec.ofNat 11 (e + 1075).toNat ≠ -1#11 := hne (by simp; omega)
  have hzero : BitVec.ofNat 11 (e + 1075).toNat ≠ 0#11 := hne (by simp; omega)
  have hmant : (1#1 ++ BitVec.ofNat 52 m).toNat = m := by
    rw [BitVec.toNat_append, ← Nat.shiftLeft_add_eq_or_of_lt (BitVec.ofNat 52 m).isLt,
      BitVec.toNat_ofNat, Nat.shiftLeft_eq]
    simp only [BitVec.toNat_ofNat]
    omega
  change UnpackedFloat.unpack .binary64 (UnpackedFloat.pack .binary64 (.finite s m e h)) = _
  rw [pack_normal hlo hhi hehi, UnpackedFloat.unpack]
  simp only [unpackMantissa_packComponents, unpackExponent_packComponents]
  rw [if_neg hones, if_neg hzero]
  simp only [hmant, hfield, unpackSign_packComponents]
  have hexp : ((e + 1075).toNat : ℤ) - (Format.binary64.exponentBias +
      Format.binary64.mantissaBitsWithoutImplicit) = e := by
    change ((e + 1075).toNat : ℤ) - ((1023 : ℕ) + (52 : ℕ)) = e
    omega
  simp only [hexp]

/-- The word as a number. -/
theorem toNat_toBits_pack {s : Sign} {m : ℕ} {e : ℤ} {h : 0 < m} (hlo : 2 ^ 52 ≤ m)
    (hhi : m < 2 ^ 53) (hehi : e ≤ 971) :
    (Float.Model.pack (.finite s m e h)).toBits.toNat =
      (s.toBitVec.toNat * 2 ^ 11 + (e + 1075).toNat) * 2 ^ 52 + (m - 2 ^ 52) := by
  change (UnpackedFloat.pack .binary64 (.finite s m e h)).toNat = _
  rw [pack_normal hlo hhi hehi, packComponents, BitVec.toNat_append,
    ← Nat.shiftLeft_add_eq_or_of_lt (BitVec.ofNat 52 m).isLt, BitVec.toNat_append,
    ← Nat.shiftLeft_add_eq_or_of_lt (BitVec.ofNat 11 (e + 1075).toNat).isLt, toNat_exponent hehi,
    BitVec.toNat_ofNat, Nat.shiftLeft_eq, Nat.shiftLeft_eq]
  have hmod : m % 2 ^ 52 = m - 2 ^ 52 := by omega
  rw [hmod]

/-- What a number is rounded to has 53 bits, and its exponent follows from the number. -/
theorem Rounds.normal {x : ℚ} {u : UnpackedFloat} (h : Rounds x u) :
    ∃ (m : ℕ) (e : ℤ) (hm : 0 < m), u = .finite .positive m e hm ∧ 2 ^ 52 ≤ m ∧ m < 2 ^ 53 ∧
      2 ^ 51 * 2 ^ e ≤ x ∧ x < 2 ^ 53 * 2 ^ e := by
  cases h with
  | within m e h hlo hhi _ hm hm' =>
    refine ⟨m, e, h, rfl, hm, hm', ?_, hhi⟩
    linarith [two_zpow_pos e]
  | beyond e hlo hhi =>
    refine ⟨2 ^ 52, e + 1, by decide, rfl, le_rfl, by decide, ?_, ?_⟩ <;>
      rw [zpow_add_one₀ two_ne_zero] <;> linarith [two_zpow_pos e]

theorem exponent_bounds {x : ℚ} {e a b : ℤ} (hlo : 2 ^ 51 * 2 ^ e ≤ x) (hhi : x < 2 ^ 53 * 2 ^ e)
    (ha : 2 ^ a ≤ x) (hb : x < 2 ^ b) : a - 53 < e ∧ e < b - 51 := by
  have hone : (1 : ℚ) < 2 := one_lt_two
  constructor
  · have h : (2 : ℚ) ^ a < 2 ^ (53 + e) := by
      rw [zpow_add₀ two_ne_zero]
      exact_mod_cast ha.trans_lt hhi
    have := (zpow_lt_zpow_iff_right₀ hone).mp h
    omega
  · have h : (2 : ℚ) ^ (51 + e) < 2 ^ b := by
      rw [zpow_add₀ two_ne_zero]
      exact_mod_cast hlo.trans_lt hb
    have := (zpow_lt_zpow_iff_right₀ hone).mp h
    omega

/-- A count is rounded once. -/
theorem rounds_ofNat {n : ℕ} (hn : 0 < n) : Rounds n (UnpackedFloat.ofNat .binary64 n) := by
  have hpos : (0 : ℤ) < n := by exact_mod_cast hn
  have htarget : (0 - Format.binary64.targetExponent (totalExponent n 0)).toNat = 52 - n.log2 := by
    simp only [Format.targetExponent, totalExponent, Format.mantissaBits, Format.minExponent]
    omega
  simp only [UnpackedFloat.ofNat, UnpackedFloat.ofInt, UnpackedFloat.normalize,
    compare_gt_iff_gt.mpr hpos,
    UnpackedFloat.round, decreaseExponent, htarget, Int.toNat_natCast]
  generalize hs : 52 - n.log2 = s
  have hbits : 2 ^ 52 ≤ n <<< s := by
    calc 2 ^ 52 ≤ 2 ^ (n.log2 + s) := Nat.pow_le_pow_right two_pos (by omega)
      _ = 2 ^ n.log2 * 2 ^ s := pow_add 2 _ s
      _ ≤ n * 2 ^ s := Nat.mul_le_mul_right _ (Nat.log2_self_le hn.ne')
      _ = n <<< s := (Nat.shiftLeft_eq n s).symm
  have hvalue : (n : ℚ) = (n <<< s : ℕ) * 2 ^ (0 - s : ℤ) := by
    rw [Nat.shiftLeft_eq, zero_sub, zpow_neg, zpow_natCast]
    push_cast
    field_simp
  rw [hvalue]
  exact rounds_exact hbits (by omega)

/-- And so is a quotient. -/
theorem rounds_div {m n : ℕ} {e f : ℤ} (hm : 0 < m) (hn : 0 < n) (hmlo : 2 ^ 52 ≤ m)
    (hmhi : m < 2 ^ 53) (hnlo : 2 ^ 52 ≤ n) (hnhi : n < 2 ^ 53) (hef : -1021 ≤ e - f) :
    Rounds (m * 2 ^ e / (n * 2 ^ f)) (UnpackedFloat.div .binary64 (.finite .positive m e hm)
      (.finite .positive n f hn)) := by
  have htarget : min (e - f) (Format.binary64.targetExponent
      (totalExponent m e - totalExponent n f)) = e - f - 53 := by
    simp only [Format.targetExponent, totalExponent, Format.mantissaBits, Format.minExponent,
      log2_eq (k := 52) hmlo hmhi, log2_eq (k := 52) hnlo hnhi]
    omega
  have hshift : (e - f - (e - f - 53)).toNat = 53 := by omega
  have hbits : 2 ^ 52 ≤ m <<< 53 / n := by
    rw [Nat.le_div_iff_mul_le hn, Nat.shiftLeft_eq]
    exact Nat.mul_le_mul hmlo hnhi.le
  have hvalue : (m * 2 ^ e / (n * 2 ^ f) : ℚ) = (m <<< 53 : ℕ) / n * 2 ^ (e - f - 53) := by
    rw [Nat.shiftLeft_eq, zpow_sub₀ two_ne_zero, zpow_sub₀ two_ne_zero, zpow_ofNat, Nat.cast_mul,
      Nat.cast_pow, Nat.cast_ofNat]
    field_simp
  simp only [UnpackedFloat.div, divCore, htarget, hshift, hvalue]
  exact rounds_roundWithAccuracy hn hbits (by omega)

/-- The order of doubles is that of what they are unpacked to. -/
theorem le_iff_unpack_le {x y : Float} :
    x ≤ y ↔ x.toModel.unpack.le y.toModel.unpack = true := by
  change decide (x.toModel ≤ y.toModel) = true ↔ _
  rw [decide_eq_true_iff]
  rfl

section Quotients

variable {n : ℕ} {f : ℤ} {hn : 0 < n} {d : Float}

/-- A positive count has a double with all 53 bits. -/
theorem unpack_toFloat {a : UInt64} (ha : 0 < a.toNat) :
    ∃ (m : ℕ) (e : ℤ) (hm : 0 < m), a.toFloat.toModel.unpack = .finite .positive m e hm ∧
      Rounds a.toNat (.finite .positive m e hm) ∧ 2 ^ 52 ≤ m ∧ m < 2 ^ 53 ∧ -53 < e ∧ e < 13 := by
  have hr := rounds_ofNat ha
  obtain ⟨m, e, hm, hu, hlo, hhi, hxlo, hxhi⟩ := hr.normal
  have hword : (a.toNat : ℚ) < 2 ^ (64 : ℤ) := by exact_mod_cast a.toNat_lt
  have hone : (2 ^ (0 : ℤ) : ℚ) ≤ a.toNat := by exact_mod_cast ha
  obtain ⟨helo, hehi⟩ := exponent_bounds hxlo hxhi hone hword
  refine ⟨m, e, hm, ?_, hu ▸ hr, hlo, hhi, by omega, by omega⟩
  change (Float.Model.pack (UnpackedFloat.ofNat .binary64 a.toNat)).unpack = _
  rw [hu, unpack_pack_normal hlo hhi (by omega) (by omega)]

/-- The quotient of two doubles that are far from the ends of the range is rounded only once. -/
theorem div_eq_pack {x : Float} {m : ℕ} {e : ℤ} {hm : 0 < m}
    (hx : x.toModel.unpack = .finite .positive m e hm) (hmlo : 2 ^ 52 ≤ m) (hmhi : m < 2 ^ 53)
    (hd : d.toModel.unpack = .finite .positive n f hn) (hnlo : 2 ^ 52 ≤ n) (hnhi : n < 2 ^ 53)
    (hlo : -1000 ≤ e - f) (hhi : e - f ≤ 900) :
    ∃ (q : ℕ) (g : ℤ) (hq : 0 < q), x / d = ⟨.pack (.finite .positive q g hq)⟩ ∧
      Rounds (m * 2 ^ e / (n * 2 ^ f)) (.finite .positive q g hq) ∧
      2 ^ 52 ≤ q ∧ q < 2 ^ 53 ∧ -1074 ≤ g ∧ g ≤ 971 := by
  have hr := rounds_div (e := e) (f := f) hm hn hmlo hmhi hnlo hnhi (by omega)
  obtain ⟨q, g, hq, hu, hqlo, hqhi, hxlo, hxhi⟩ := hr.normal
  have hscale : (m * 2 ^ e / (n * 2 ^ f) : ℚ) = m / n * 2 ^ (e - f) := by
    rw [zpow_sub₀ two_ne_zero]
    field_simp
  have hpos := two_zpow_pos (e - f)
  have hn' : (0 : ℚ) < n := by exact_mod_cast hn
  have hmn : (1 / 2 : ℚ) ≤ m / n := by
    rw [div_le_div_iff₀ two_pos hn']
    exact_mod_cast (by omega : 1 * n ≤ m * 2)
  have hmn' : (m / n : ℚ) < 2 := by
    rw [div_lt_iff₀ hn']
    exact_mod_cast (by omega : m < 2 * n)
  have hge : (2 : ℚ) ^ (e - f - 1) ≤ m * 2 ^ e / (n * 2 ^ f) := by
    rw [hscale, zpow_sub_one₀ two_ne_zero]
    nlinarith
  have hlt : (m * 2 ^ e / (n * 2 ^ f) : ℚ) < 2 ^ (e - f + 1) := by
    rw [hscale, zpow_add_one₀ two_ne_zero]
    nlinarith
  obtain ⟨hglo, hghi⟩ := exponent_bounds hxlo hxhi hge hlt
  refine ⟨q, g, hq, ?_, hu ▸ hr, hqlo, hqhi, by omega, by omega⟩
  change (⟨.pack (UnpackedFloat.div .binary64 x.toModel.unpack d.toModel.unpack)⟩ : Float) = _
  rw [hx, hd, hu]

/-- What a quotient of doubles is rounded from. -/
theorem unpack_div {x : Float} {m : ℕ} {e : ℤ} {hm : 0 < m}
    (hx : x.toModel.unpack = .finite .positive m e hm) (hmlo : 2 ^ 52 ≤ m) (hmhi : m < 2 ^ 53)
    (hd : d.toModel.unpack = .finite .positive n f hn) (hnlo : 2 ^ 52 ≤ n) (hnhi : n < 2 ^ 53)
    (hlo : -1000 ≤ e - f) (hhi : e - f ≤ 900) :
    Rounds (m * 2 ^ e / (n * 2 ^ f)) (x / d).toModel.unpack := by
  obtain ⟨q, g, hq, hquot, hr, hqlo, hqhi, hglo, hghi⟩ :=
    div_eq_pack hx hmlo hmhi hd hnlo hnhi hlo hhi
  rw [hquot, unpack_pack_normal hqlo hqhi hglo hghi]
  exact hr

/-- Of two doubles with 53 bits the one that comes first is the smaller number. -/
theorem value_lt {m k : ℕ} {e g : ℤ} (hm : m < 2 ^ 53) (hk : 2 ^ 52 ≤ k)
    (h : e < g ∨ e = g ∧ m < k) : (m * 2 ^ e : ℚ) < k * 2 ^ g := by
  rcases h with hlt | ⟨rfl, hlt⟩
  · calc (m * 2 ^ e : ℚ) < 2 ^ 53 * 2 ^ e :=
          mul_lt_mul_of_pos_right (by exact_mod_cast hm) (two_zpow_pos e)
      _ = 2 ^ 52 * 2 ^ (e + 1) := by
          rw [zpow_add_one₀ two_ne_zero]
          ring
      _ ≤ 2 ^ 52 * 2 ^ g :=
          mul_le_mul_of_nonneg_left (zpow_le_zpow_right₀ one_le_two hlt) (by positivity)
      _ ≤ k * 2 ^ g :=
          mul_le_mul_of_nonneg_right (by exact_mod_cast hk) (two_zpow_pos g).le
  · exact mul_lt_mul_of_pos_right (by exact_mod_cast hlt) (two_zpow_pos e)

theorem Rounds.le_self {x : ℚ} {u : UnpackedFloat} (h : Rounds x u) : u.le u = true := by
  obtain ⟨m, e, hm, rfl, -⟩ := h.normal
  exact le_finite (.inr ⟨rfl, le_rfl⟩)

theorem Rounds.zero_le {x : ℚ} {u : UnpackedFloat} (h : Rounds x u) :
    (UnpackedFloat.zero .positive).le u = true := by
  obtain ⟨m, e, hm, rfl, -⟩ := h.normal
  rfl

/-- A smaller count divided by a positive double gives no larger a quotient. -/
theorem toFloat_div_le {a b : UInt64} (hab : a ≤ b)
    (hd : d.toModel.unpack = .finite .positive n f hn) (hnlo : 2 ^ 52 ≤ n) (hnhi : n < 2 ^ 53)
    (hflo : -800 ≤ f) (hfhi : f ≤ 800) : a.toFloat / d ≤ b.toFloat / d := by
  have hquot (x : Float) : (x / d).toModel.unpack = (Float.Model.pack (UnpackedFloat.div .binary64
      x.toModel.unpack (.finite .positive n f hn))).unpack := hd ▸ rfl
  have hword : a.toNat ≤ b.toNat := UInt64.le_iff_toNat_le.mp hab
  rw [le_iff_unpack_le]
  rcases Nat.eq_zero_or_pos a.toNat with ha | ha
  · obtain rfl : a = 0 := UInt64.toNat_inj.mp ha
    have hfloat : (UInt64.toFloat 0).toModel.unpack = .zero .positive := rfl
    have hdiv : UnpackedFloat.div .binary64 (.zero .positive) (.finite .positive n f hn) =
        .zero .positive := rfl
    have hzero : (UInt64.toFloat 0 / d).toModel.unpack = .zero .positive := by
      rw [hquot, hfloat, hdiv]
      exact rfl
    rw [hzero]
    rcases Nat.eq_zero_or_pos b.toNat with hb | hb
    · obtain rfl : b = 0 := UInt64.toNat_inj.mp hb
      rw [hzero]
      rfl
    · obtain ⟨m, e, hm, hu, -, hlo, hhi, helo, hehi⟩ := unpack_toFloat hb
      exact (unpack_div hu hlo hhi hd hnlo hnhi (by omega) (by omega)).zero_le
  · obtain ⟨m, e, hm, hu, hr, hlo, hhi, helo, hehi⟩ := unpack_toFloat ha
    obtain ⟨k, g, hk, hv, hr', hlo', hhi', hglo, hghi⟩ := unpack_toFloat (ha.trans_le hword)
    have hq := unpack_div hu hlo hhi hd hnlo hnhi (by omega) (by omega)
    have hq' := unpack_div hv hlo' hhi' hd hnlo hnhi (by omega) (by omega)
    by_cases hsame : a.toFloat.toModel.unpack = b.toFloat.toModel.unpack
    · rw [hquot a.toFloat, hsame, ← hquot]
      exact hq'.le_self
    · have hlt : a.toNat < b.toNat := by
        refine hword.lt_of_ne fun h ↦ hsame ?_
        rw [UInt64.toNat_inj.mp h]
      refine hq.le hq' (div_lt_div_of_pos_right (value_lt hhi hlo' ?_) ?_)
      · rcases of_le_finite (hr.le hr' (by exact_mod_cast hlt)) with h | ⟨rfl, h⟩
        · exact .inl h
        · refine .inr ⟨rfl, h.lt_of_ne ?_⟩
          rintro rfl
          exact hsame (hu.trans hv.symm)
      · exact mul_pos (by exact_mod_cast hn) (two_zpow_pos f)

end Quotients

end ScriptWorkers.Binary64
