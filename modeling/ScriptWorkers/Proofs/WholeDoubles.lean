import ScriptWorkers.Proofs.Binary64
import ScriptWorkers.Proofs.Wire.Wholes

/-!
# Whole numbers as doubles

A whole number of at most 53 bits is a double, and it is written with all its digits, a point and a
zero.  When this is read, the digits and the zero make up ten times the number.  That is rounded to
a double, divided by ten and rounded again.  So what is read need not be what was written.

* `Rounds.eq_finite_iff`: when a number is rounded to a given double.  `Rounds.exists_error`: what
  is added to a whole number that has more than 53 bits.
* `shifted`: the bits of a whole number.  They determine its text (`floatText_ofInt`).
* `ComesBack`: the numbers for which both roundings together do no harm.  Whether they do hangs on
  the error of the first one (`Rounds.eq_shifted_iff`, `error_cases`).
-/

open Float.Model Float.Model.UnpackedFloat

namespace ScriptWorkers.Binary64

/-! ## Rounding to a given double -/

/-- A number is in one binade only. -/
theorem binade_eq {x : ℚ} {e f : ℤ} (hlo : 2 ^ 52 * 2 ^ e ≤ x) (hhi : x < 2 ^ 53 * 2 ^ e)
    (hlo' : 2 ^ 52 * 2 ^ f ≤ x) (hhi' : x < 2 ^ 53 * 2 ^ f) : e = f :=
  le_antisymm (binade_le hlo hhi' le_rfl) (binade_le hlo' hhi le_rfl)

/-- A number is rounded to a double of its own binade if that is nearer than any other, and only if
none is nearer. -/
theorem Rounds.eq_finite_iff {x : ℚ} {u : UnpackedFloat} {m : ℕ} {e : ℤ} {hm : 0 < m}
    (h : Rounds x u) (hlo : 2 ^ 52 * 2 ^ e ≤ x) (hhi : x < 2 ^ 53 * 2 ^ e) (hmhi : m < 2 ^ 53)
    (htie : |(m : ℚ) - x / 2 ^ e| ≠ 1 / 2) :
    u = .finite .positive m e hm ↔ |(m : ℚ) - x / 2 ^ e| < 1 / 2 := by
  cases h with
  | within n f hn hnlo hnhi hnear _ _ =>
    obtain rfl := binade_eq hnlo hnhi hlo hhi
    constructor
    · intro heq
      cases heq
      exact lt_of_le_of_ne hnear htie
    · intro hlt
      rw [abs_le] at hnear
      rw [abs_lt] at hlt
      have hle : n < m + 1 := by exact_mod_cast (by linarith : (n : ℚ) < m + 1)
      have hge : m < n + 1 := by exact_mod_cast (by linarith : (m : ℚ) < n + 1)
      obtain rfl : n = m := by omega
      rfl
  | beyond f hflo hfhi =>
    have hflo' : 2 ^ 52 * 2 ^ f ≤ x := by linarith [two_zpow_pos f]
    obtain rfl := binade_eq hflo' hfhi hlo hhi
    constructor
    · intro heq
      injection heq with _ _ hexp
      omega
    · intro hlt
      have hx : (2 ^ 53 - 1 / 2 : ℚ) ≤ x / 2 ^ f := (le_div_iff₀ (two_zpow_pos f)).2 hflo
      rw [abs_lt] at hlt
      have hge : 2 ^ 53 < m + 1 := by exact_mod_cast (by linarith : (2 ^ 53 : ℚ) < m + 1)
      omega

/-- A double is rounded to itself. -/
theorem Rounds.eq_finite {u : UnpackedFloat} {m : ℕ} {e : ℤ} (h : Rounds (m * 2 ^ e) u) (hm : 0 < m)
    (hlo : 2 ^ 52 ≤ m) (hhi : m < 2 ^ 53) : u = .finite .positive m e hm := by
  have hpos := two_zpow_pos e
  have hquot : (m * 2 ^ e / 2 ^ e : ℚ) = m := mul_div_cancel_right₀ _ hpos.ne'
  refine (h.eq_finite_iff (mul_le_mul_of_nonneg_right ?_ hpos.le) (mul_lt_mul_of_pos_right ?_ hpos)
    hhi ?_).2 ?_
  · exact_mod_cast hlo
  · exact_mod_cast hhi
  · rw [hquot, sub_self, abs_zero]
    norm_num
  · rw [hquot, sub_self, abs_zero]
    norm_num

/-- What a whole number of more than 53 bits is rounded to. -/
theorem Rounds.exists_error {n m j : ℕ} {e : ℤ} {hm : 0 < m}
    (h : Rounds n (.finite .positive m e hm)) (hlo : 2 ^ (52 + j) ≤ n) (hhi : n < 2 ^ (53 + j)) :
    ∃ r : ℤ, (m * 2 ^ e : ℚ) = n + r ∧ 2 ^ j ∣ n + r ∧ 2 * r.natAbs ≤ 2 ^ j := by
  have hlo' : 2 ^ 52 * 2 ^ (j : ℤ) ≤ (n : ℚ) := by
    rw [zpow_natCast, ← pow_add]
    exact_mod_cast hlo
  have hhi' : (n : ℚ) < 2 ^ 53 * 2 ^ (j : ℤ) := by
    rw [zpow_natCast, ← pow_add]
    exact_mod_cast hhi
  have herror {k : ℕ} (hk : |(k : ℚ) - n / 2 ^ (j : ℤ)| ≤ 1 / 2) :
      2 * (k * 2 ^ j - n : ℤ).natAbs ≤ 2 ^ j := by
    have hscale : |(k * 2 ^ j - n : ℚ)| = |(k : ℚ) - n / 2 ^ (j : ℤ)| * 2 ^ j := by
      have hpos : (0 : ℚ) < 2 ^ j := by positivity
      rw [zpow_natCast, ← abs_of_pos hpos, ← abs_mul, abs_of_pos hpos, sub_mul,
        div_mul_cancel₀ _ hpos.ne']
    have hle : 2 * |(k * 2 ^ j - n : ℚ)| ≤ 2 ^ j := by
      rw [hscale]
      nlinarith [pow_pos (two_pos : (0 : ℚ) < 2) j]
    zify
    exact_mod_cast hle
  generalize hu : UnpackedFloat.finite .positive m e hm = u at h
  cases h with
  | within k f hk hklo hkhi hnear _ _ =>
    obtain rfl := binade_eq hklo hkhi hlo' hhi'
    cases hu
    refine ⟨m * 2 ^ j - n, ?_, by simp, herror hnear⟩
    rw [zpow_natCast]
    push_cast
    ring
  | beyond f hflo hfhi =>
    have hflo' : 2 ^ 52 * 2 ^ f ≤ (n : ℚ) := by linarith [two_zpow_pos f]
    obtain rfl := binade_eq hflo' hfhi hlo' hhi'
    cases hu
    refine ⟨(2 ^ 53 : ℕ) * 2 ^ j - n, ?_, by simp, herror (k := 2 ^ 53) ?_⟩
    · rw [zpow_add_one₀ two_ne_zero, zpow_natCast]
      push_cast
      ring
    · rw [abs_le]
      have hx : (2 ^ 53 - 1 / 2 : ℚ) ≤ n / 2 ^ (j : ℤ) := (le_div_iff₀ (two_zpow_pos _)).2 hflo
      have hx' : (n / 2 ^ (j : ℤ) : ℚ) < 2 ^ 53 := (div_lt_iff₀ (two_zpow_pos _)).2 hfhi
      push_cast
      constructor <;> linarith

/-! ## Whole numbers below `2 ^ 53` -/

/-- Doubles with all their 53 bits are different if they differ in their bits or in their
exponents. -/
theorem pack_finite_inj {s : Sign} {m n : ℕ} {e f : ℤ} {hm : 0 < m} {hn : 0 < n} (hmlo : 2 ^ 52 ≤ m)
    (hmhi : m < 2 ^ 53) (helo : -1074 ≤ e) (hehi : e ≤ 971) (hnlo : 2 ^ 52 ≤ n) (hnhi : n < 2 ^ 53)
    (hflo : -1074 ≤ f) (hfhi : f ≤ 971) :
    (⟨.pack (.finite s m e hm)⟩ : Float) = ⟨.pack (.finite s n f hn)⟩ ↔ m = n ∧ e = f := by
  constructor
  · intro h
    injection h with h
    have hunpack := congrArg Float.Model.unpack h
    rw [unpack_pack_normal hmlo hmhi helo hehi, unpack_pack_normal hnlo hnhi hflo hfhi] at hunpack
    injection hunpack with _ hmn hef
    exact ⟨hmn, hef⟩
  · rintro ⟨rfl, rfl⟩
    rfl

theorem neg_pack_finite {s : Sign} {m : ℕ} {e : ℤ} {hm : 0 < m} (hlo : 2 ^ 52 ≤ m)
    (hhi : m < 2 ^ 53) (helo : -1074 ≤ e) (hehi : e ≤ 971) :
    -(⟨.pack (.finite s m e hm)⟩ : Float) = ⟨.pack (.finite (-s) m e hm)⟩ := by
  change (⟨.pack (Float.Model.pack (.finite s m e hm)).unpack.neg⟩ : Float) = _
  rw [unpack_pack_normal hlo hhi helo hehi]
  rfl

/-- Zeros can be put behind a number until it has 53 bits. -/
theorem exists_shift {k : ℕ} (hk : 0 < k) (hk' : k < 2 ^ 53) :
    ∃ s ≤ 52, 2 ^ 52 ≤ k * 2 ^ s ∧ k * 2 ^ s < 2 ^ 53 := by
  have hlog : k.log2 < 53 := (Nat.log2_lt hk.ne').2 hk'
  obtain ⟨hlo, hhi⟩ := (Nat.log2_eq_iff hk.ne').1 rfl
  have hsum : k.log2 + (52 - k.log2) = 52 := by omega
  refine ⟨52 - k.log2, by omega, ?_, ?_⟩
  · calc 2 ^ 52 = 2 ^ k.log2 * 2 ^ (52 - k.log2) := by rw [← pow_add, hsum]
      _ ≤ k * 2 ^ (52 - k.log2) := Nat.mul_le_mul_right _ hlo
  · calc k * 2 ^ (52 - k.log2) < 2 ^ (k.log2 + 1) * 2 ^ (52 - k.log2) :=
          Nat.mul_lt_mul_of_pos_right hhi (by positivity)
      _ = 2 ^ 53 := by rw [← pow_add, Nat.add_right_comm, hsum]

/-- The sign of a number that is negative or not. -/
def signOf : Bool → Sign
  | true => .negative
  | false => .positive

section Whole

variable {k s : ℕ} (hs : s ≤ 52) (hlo : 2 ^ 52 ≤ k * 2 ^ s) (hhi : k * 2 ^ s < 2 ^ 53)

/-- The whole number `k` with a sign, and with as many zeros behind it as make it 53 bits. -/
def shifted (negative : Bool) : UnpackedFloat :=
  .finite (signOf negative) (k * 2 ^ s) (-s) ((Nat.two_pow_pos 52).trans_le hlo)

/-- They do not change the number. -/
theorem value_shifted (k s : ℕ) : ((k * 2 ^ s : ℕ) * 2 ^ (-s : ℤ) : ℚ) = k := by
  rw [zpow_neg, zpow_natCast]
  push_cast
  field_simp

include hs hlo in
/-- The reals that round to the double are less than one half away from the number. -/
theorem whole_ofBits : (Decimal.Span.ofBits (k * 2 ^ s - 2 ^ 52) (1075 - s)).Whole k := by
  have hexpo : 1075 - s ≠ 0 := by omega
  have hm : k * 2 ^ s - 2 ^ 52 + Nat.pow 2 52 = k * 2 ^ s := Nat.sub_add_cancel hlo
  have hq : ((1075 - s : ℕ) : ℤ) - 1075 = -s := by omega
  have hunit : Nat.pow 2 (-s : ℤ).toNat = 1 := by
    rw [Int.toNat_neg_natCast, Nat.pow_eq, pow_zero]
  have hden : Nat.pow 2 (- -s : ℤ).toNat = 2 ^ s := by rw [neg_neg, Int.toNat_natCast, Nat.pow_eq]
  have hpos : 0 < 2 ^ s := Nat.two_pow_pos s
  rw [Decimal.Span.ofBits]
  simp only [if_neg hexpo, hm, hq, hunit, hden]
  refine ⟨?_, ?_, ?_, ?_, ?_⟩
  all_goals dsimp only
  · ring
  · split <;> omega
  · split <;> omega
  · omega
  · omega

include hhi in
theorem lt_of_shifted : k < 2 ^ 53 :=
  (Nat.le_mul_of_pos_right k (Nat.two_pow_pos s)).trans_lt hhi

include hhi

/-- Such a number is rounded to itself. -/
theorem Rounds.eq_shifted {u : UnpackedFloat} (h : Rounds k u) : u = shifted hlo false := by
  rw [← value_shifted k s] at h
  exact h.eq_finite _ hlo hhi

/-- Turned into a double it is itself. -/
theorem unpack_toFloat_whole : k.toUInt64.toFloat.toModel.unpack = shifted hlo false := by
  have hlt := lt_of_shifted hhi
  have hk : k.toUInt64.toNat = k := by
    simp only [Nat.toUInt64, UInt64.toNat_ofNat']
    omega
  have hpos : 0 < k := Nat.pos_of_ne_zero fun h ↦ by simp [h] at hlo
  obtain ⟨m, e, hm, hu, hr, -⟩ := unpack_toFloat (a := k.toUInt64) (by rwa [hk])
  rw [hk] at hr
  rw [hu, hr.eq_shifted hlo hhi]

include hs

theorem unpack_pack_shifted (negative : Bool) :
    (Float.Model.pack (shifted hlo negative)).unpack = shifted hlo negative :=
  unpack_pack_normal hlo hhi (by omega) (by omega)

theorem ofNat_eq_pack : Float.ofNat k = ⟨.pack (shifted hlo false)⟩ := by
  -- the number is taken times one, which is rounded as well
  have hone : Float.exactlyRepresentablePowersOfTen[0].toModel.unpack =
      .finite .positive (2 ^ 52) (-52) (by decide) := rfl
  have hunits : Float.ofNat k = k.toUInt64.toFloat * Float.exactlyRepresentablePowersOfTen[0] := by
    change Float.ofScientific k false 0 = _
    rw [Float.ofScientific, dif_pos ⟨lt_of_shifted hhi, by decide⟩]
    rfl
  have hmul : UnpackedFloat.mul .binary64 (shifted hlo false)
      (.finite .positive (2 ^ 52) (-52) (by decide)) = shifted hlo false := by
    have hvalue : (k : ℚ) = (k * 2 ^ s * 2 ^ 52 : ℕ) * 2 ^ (-s + -52 : ℤ) := by
      rw [zpow_add₀ two_ne_zero, Nat.cast_mul, mul_mul_mul_comm, value_shifted]
      norm_num
    refine Rounds.eq_shifted hlo hhi ?_
    rw [hvalue]
    exact rounds_exact (by omega) (by omega)
  rw [hunits]
  change (⟨.pack (UnpackedFloat.mul .binary64 k.toUInt64.toFloat.toModel.unpack
    Float.exactlyRepresentablePowersOfTen[0].toModel.unpack)⟩ : Float) = _
  rw [unpack_toFloat_whole hlo hhi, hone, hmul]

theorem neg_pack_shifted : -(⟨.pack (shifted hlo false)⟩ : Float) = ⟨.pack (shifted hlo true)⟩ :=
  neg_pack_finite hlo hhi (by omega) (by omega)

theorem isFinite_pack_shifted (negative : Bool) :
    (⟨.pack (shifted hlo negative)⟩ : Float).isFinite = true := by
  change (Float.Model.pack (shifted hlo negative)).unpack.isFinite = true
  rw [unpack_pack_shifted hs hlo hhi]
  rfl

/-- The bits of a whole number. -/
theorem toNat_toBits_shifted (negative : Bool) :
    (⟨.pack (shifted hlo negative)⟩ : Float).toBits.toNat =
      ((if negative then 2 ^ 11 else 0) + (1075 - s)) * 2 ^ 52 + (k * 2 ^ s - 2 ^ 52) := by
  have hexp : (-s + 1075 : ℤ).toNat = 1075 - s := by omega
  have hbits := toNat_toBits_pack (s := signOf negative) (h := (Nat.two_pow_pos 52).trans_le hlo)
    (e := -s) hlo hhi (by omega)
  rw [hexp] at hbits
  refine hbits.trans ?_
  cases negative <;> rfl

theorem isNegative_shifted (negative : Bool) :
    Decimal.isNegative ⟨.pack (shifted hlo negative)⟩ = negative := by
  have hsize : UInt64.size = 2 ^ 64 := rfl
  rw [Decimal.isNegative, toNat_toBits_shifted hs hlo hhi, hsize]
  cases negative with
  | true => exact decide_eq_true (by rw [if_pos rfl]; omega)
  | false => exact decide_eq_false (by rw [if_neg Bool.false_ne_true]; omega)

/-- The reals that round to it are close to the number. -/
theorem whole_ofFloat (negative : Bool) :
    (Decimal.Span.ofFloat ⟨.pack (shifted hlo negative)⟩).Whole k := by
  have hbits := toNat_toBits_shifted hs hlo hhi negative
  have hfrac : (⟨.pack (shifted hlo negative)⟩ : Float).toBits.toNat % Nat.pow 2 52 =
      k * 2 ^ s - 2 ^ 52 := by
    rw [hbits]
    simp only [Nat.pow_eq]
    omega
  have hexpo : (⟨.pack (shifted hlo negative)⟩ : Float).toBits.toNat / Nat.pow 2 52 % Nat.pow 2 11 =
      1075 - s := by
    rw [hbits]
    simp only [Nat.pow_eq]
    cases negative <;> simp <;> omega
  rw [Decimal.Span.ofFloat]
  simp only [hfrac, hexpo]
  exact whole_ofBits hs hlo

end Whole

/-! ## Ten times a number, and a tenth of that -/

/-- A tenth of nearly ten times a whole number is rounded to the number if and only if it is off by
less than one half of the distance between doubles there. -/
theorem Rounds.eq_shifted_iff {k s : ℕ} {r : ℤ} {u : UnpackedFloat}
    (h : Rounds ((10 * k + r) / 10) u)
    (hlo : 2 ^ 52 ≤ k * 2 ^ s) (hhi : k * 2 ^ s < 2 ^ 53)
    (hrlo : 10 * 2 ^ 52 ≤ (10 * k + r) * 2 ^ s)
    (hrhi : (10 * k + r) * 2 ^ s < 10 * 2 ^ 53) (htie : r.natAbs * 2 ^ s ≠ 5) :
    u = shifted hlo false ↔ r.natAbs * 2 ^ s < 5 := by
  have hpos : (0 : ℚ) < 2 ^ s := by positivity
  have hinv : (2 ^ (-s : ℤ) : ℚ) = (2 ^ s)⁻¹ := by rw [zpow_neg, zpow_natCast]
  have hrlo' : 10 * 2 ^ 52 ≤ ((10 * k + r) * 2 ^ s : ℚ) := by exact_mod_cast hrlo
  have hrhi' : ((10 * k + r) * 2 ^ s : ℚ) < 10 * 2 ^ 53 := by exact_mod_cast hrhi
  have hoff : |((k * 2 ^ s : ℕ) : ℚ) - (10 * k + r) / 10 / 2 ^ (-s : ℤ)| =
      (r.natAbs * 2 ^ s : ℕ) / 10 := by
    have hdiff : ((k * 2 ^ s : ℕ) : ℚ) - (10 * k + r) / 10 / 2 ^ (-s : ℤ) = -(r * 2 ^ s) / 10 := by
      rw [hinv, div_inv_eq_mul]
      push_cast
      ring
    rw [hdiff, abs_div, abs_neg, abs_mul, abs_of_pos hpos, Nat.cast_mul, Nat.cast_natAbs]
    norm_num
  refine (h.eq_finite_iff ?_ ?_ hhi ?_).trans ?_
  · rw [hinv, ← div_eq_mul_inv, div_le_div_iff₀ hpos (by norm_num)]
    linarith
  · rw [hinv, ← div_eq_mul_inv, div_lt_div_iff₀ (by norm_num) hpos]
    linarith
  · rw [hoff]
    intro heq
    refine htie ?_
    have : ((r.natAbs * 2 ^ s : ℕ) : ℚ) = 5 := by linarith
    exact_mod_cast this
  · rw [hoff]
    constructor
    · intro hlt
      have : ((r.natAbs * 2 ^ s : ℕ) : ℚ) < 5 := by linarith
      exact_mod_cast this
    · intro hlt
      have : ((r.natAbs * 2 ^ s : ℕ) : ℚ) < 5 := by exact_mod_cast hlt
      linarith

/-- The whole numbers below `2 ^ 53` that come back if ten times the number is rounded to a
double, divided by ten and rounded again.  All numbers below `2 ^ 54 / 10` do; from there on it
hangs on the last bits. -/
def ComesBack (k : ℕ) : Prop :=
  (2 ^ 54 ≤ 10 * k → k < 2 ^ 51 → k % 2 = 0) ∧
  (2 ^ 55 ≤ 10 * k → k < 2 ^ 52 → k % 4 ≠ 2) ∧
  (2 ^ 56 ≤ 10 * k → k % 8 ≠ 1 ∧ k % 8 ≠ 4 ∧ k % 8 ≠ 7)

instance : DecidablePred ComesBack := fun _ ↦ inferInstanceAs (Decidable (_ ∧ _ ∧ _))

/-- The error of the first rounding decides. -/
theorem error_cases {k s j : ℕ} {r : ℤ} (hlo : 2 ^ 52 ≤ k * 2 ^ s) (hhi : k * 2 ^ s < 2 ^ 53)
    (hj : j ≤ 4) (hjlo : 2 ^ (52 + j) ≤ 10 * k) (hjhi : 10 * k < 2 ^ (53 + j))
    (hdvd : 2 ^ j ∣ 10 * k + r) (hr : 2 * r.natAbs ≤ 2 ^ j) :
    10 * 2 ^ 52 ≤ (10 * k + r) * 2 ^ s ∧ (10 * k + r) * 2 ^ s < 10 * 2 ^ 53 ∧
      r.natAbs * 2 ^ s ≠ 5 ∧ (r.natAbs * 2 ^ s < 5 ↔ ComesBack k) := by
  have hs : s ≤ 4 := by
    by_contra hlt
    have hpow : 2 ^ 5 ≤ 2 ^ s := Nat.pow_le_pow_right two_pos (by omega)
    have hk : 2 ^ 52 ≤ 10 * k := (Nat.pow_le_pow_right two_pos (by omega)).trans hjlo
    nlinarith
  rw [ComesBack]
  rcases Nat.lt_or_eq_of_le hj with hj | rfl
  · interval_cases j <;> interval_cases s <;> omega
  · -- the numbers from `2 ^ 56 / 10` on: it hangs on the last three bits
    obtain rfl : s = 0 := by interval_cases s <;> omega
    have hbits : k % 8 < 8 := Nat.mod_lt k (by decide)
    interval_cases hk : k % 8 <;> omega

/-- What ten times a number is rounded to. -/
theorem exists_tenfold_error {k : ℕ} (hk : 0 < k) (hk' : k < 2 ^ 53) :
    ∃ (r : ℤ) (m : ℕ) (e : ℤ) (hm : 0 < m),
      (10 * k).toUInt64.toFloat.toModel.unpack = .finite .positive m e hm ∧
      2 ^ 52 ≤ m ∧ m < 2 ^ 53 ∧ -53 < e ∧ e < 13 ∧ (m * 2 ^ e : ℚ) = 10 * k + r ∧
      (r = 0 ∧ 10 * k < 2 ^ 53 ∨ ∃ j ≤ 4, 2 ^ (52 + j) ≤ 10 * k ∧ 10 * k < 2 ^ (53 + j) ∧
        2 ^ j ∣ 10 * k + r ∧ 2 * r.natAbs ≤ 2 ^ j) := by
  have hword : (10 * k).toUInt64.toNat = 10 * k := by
    simp only [Nat.toUInt64, UInt64.toNat_ofNat']
    omega
  obtain ⟨m, e, hm, hu, hr, hlo, hhi, helo, hehi⟩ :=
    unpack_toFloat (a := (10 * k).toUInt64) (by omega)
  rw [hword] at hr
  rcases Nat.lt_or_ge (10 * k) (2 ^ 53) with hlt | hge
  · obtain ⟨s, -, hslo, hshi⟩ := exists_shift (by omega : 0 < 10 * k) hlt
    have heq := hr.eq_shifted hslo hshi
    injection heq with _ hms hes
    refine ⟨0, m, e, hm, hu, hlo, hhi, helo, hehi, ?_, .inl ⟨rfl, hlt⟩⟩
    rw [hms, hes, value_shifted]
    push_cast
    ring
  · obtain ⟨j, hj, hjlo, hjhi⟩ : ∃ j ≤ 4, 2 ^ (52 + j) ≤ 10 * k ∧ 10 * k < 2 ^ (53 + j) := by
      have hlog : 53 ≤ (10 * k).log2 := (Nat.le_log2 (by omega)).2 hge
      have hlog' : (10 * k).log2 < 57 := (Nat.log2_lt (by omega)).2 (by omega)
      obtain ⟨hlo, hhi⟩ := (Nat.log2_eq_iff (by omega : 10 * k ≠ 0)).1 rfl
      have hsum : 52 + ((10 * k).log2 - 52) = (10 * k).log2 := by omega
      refine ⟨(10 * k).log2 - 52, by omega, by rwa [hsum], ?_⟩
      rwa [Nat.add_right_comm 52 1, hsum]
    obtain ⟨r, hvalue, hdvd, hr⟩ := hr.exists_error hjlo hjhi
    refine ⟨r, m, e, hm, hu, hlo, hhi, helo, hehi, ?_, .inr ⟨j, hj, hjlo, hjhi, ?_, hr⟩⟩
    · rw [hvalue]
      push_cast
      ring
    · exact_mod_cast hdvd

/-- What is read for ten times a number and a tenth of that. -/
theorem assemble_tenfold {k s : ℕ} (hs : s ≤ 52) (hlo : 2 ^ 52 ≤ k * 2 ^ s)
    (hhi : k * 2 ^ s < 2 ^ 53)
    (negative : Bool) : ∃ f, Json.assemble negative (10 * k) (-1) = some f ∧
      (f = ⟨.pack (shifted hlo negative)⟩ ↔ ComesBack k) := by
  have hk : 0 < k := Nat.pos_of_ne_zero fun h ↦ by simp [h] at hlo
  obtain ⟨r, m, e, hm, hu, hmlo, hmhi, helo, hehi, hvalue, hcases⟩ :=
    exists_tenfold_error hk (lt_of_shifted hhi)
  have hten : (Float.ofScientific 1 false 1).toModel.unpack =
      .finite .positive (5 * 2 ^ 50) (-49) (by decide) := rfl
  obtain ⟨q, g, hq, hquot, hround, hqlo, hqhi, hglo, hghi⟩ :=
    div_eq_pack hu hmlo hmhi hten (by decide) (by decide) (by omega) (by omega)
  have htenth : (m * 2 ^ e / ((5 * 2 ^ 50 : ℕ) * 2 ^ (-49 : ℤ)) : ℚ) = (10 * k + r) / 10 := by
    rw [hvalue]
    norm_num
  rw [htenth] at hround
  have hback : UnpackedFloat.finite .positive q g hq = shifted hlo false ↔ ComesBack k := by
    rcases hcases with ⟨rfl, hlt⟩ | ⟨j, hj, hjlo, hjhi, hdvd, hr⟩
    · have hcome : ComesBack k := by
        rw [ComesBack]
        omega
      rw [Int.cast_zero, add_zero, mul_div_cancel_left₀ _ (by norm_num : (10 : ℚ) ≠ 0)] at hround
      exact ⟨fun _ ↦ hcome, fun _ ↦ hround.eq_shifted hlo hhi⟩
    · obtain ⟨hrlo, hrhi, htie, hiff⟩ := error_cases hlo hhi hj hjlo hjhi hdvd hr
      exact (hround.eq_shifted_iff hlo hhi hrlo hrhi htie).trans hiff
  refine ⟨⟨.pack (.finite (signOf negative) q g hq)⟩, ?_, ?_⟩
  · have hscale : Json.assemble negative (10 * k) (-1) = some (if negative then
        -((10 * k).toUInt64.toFloat / Float.ofScientific 1 false 1)
      else (10 * k).toUInt64.toFloat / Float.ofScientific 1 false 1) := rfl
    rw [hscale, hquot]
    cases negative with
    | false => rfl
    | true => rw [if_pos rfl, neg_pack_finite hqlo hqhi hglo hghi]; rfl
  · rw [← hback, shifted, pack_finite_inj hqlo hqhi hglo hghi hlo hhi (by omega) (by omega)]
    simp [shifted, signOf]

/-! ## Texts -/

/-- The same with a sign. -/
theorem ofInt_eq_pack {n : ℤ} {s : ℕ} (hs : s ≤ 52) (hlo : 2 ^ 52 ≤ n.natAbs * 2 ^ s)
    (hhi : n.natAbs * 2 ^ s < 2 ^ 53) :
    Float.ofInt n = ⟨.pack (shifted hlo (decide (n < 0)))⟩ := by
  cases n with
  | ofNat k => exact ofNat_eq_pack hs hlo hhi
  | negSucc k =>
    rw [decide_eq_true (Int.negSucc_lt_zero k), ← neg_pack_shifted hs hlo hhi,
      ← ofNat_eq_pack hs hlo hhi]
    rfl

/-- A whole number is written with all its digits, a point and a zero. -/
theorem floatText_ofInt {n : ℤ} (hn : n.natAbs < 2 ^ 53) :
    Json.floatText (Float.ofInt n) = Json.intText n ++ ['.', '0'] := by
  rcases Nat.eq_zero_or_pos n.natAbs with h0 | hpos
  · obtain rfl := Int.natAbs_eq_zero.1 h0
    rfl
  · obtain ⟨s, hs, hlo, hhi⟩ := exists_shift hpos hn
    rw [ofInt_eq_pack hs hlo hhi, Json.floatText, if_pos (isFinite_pack_shifted hs hlo hhi _),
      Decimal.Layout.wire_render (whole_ofFloat hs hlo hhi _) hpos (by omega),
      isNegative_shifted hs hlo hhi]
    cases n with
    | ofNat k => rfl
    | negSucc k =>
      rw [decide_eq_true (Int.negSucc_lt_zero k), if_pos rfl]
      rfl

end ScriptWorkers.Binary64

namespace ScriptWorkers

open Binary64

/-- **Which whole numbers survive the wire.**  Take any whole number of at most 53 bits, with or
without a sign, as a double.  It is encoded as its digits, a point and a zero.  The message is
decoded to a double, and that is the number again for the numbers of `ComesBack`, but for no
others. -/
theorem whole_doubles_come_back_iff (n : ℤ) (hn : n.natAbs < 2 ^ 53) : ∃ m f,
    Message.encode (.float (Float.ofInt n)) = .ok m ∧
    Message.encode (.json (.float (Float.ofInt n))) = .ok m ∧
    m.text.toList = Json.intText n ++ ['.', '0'] ∧
    m.decode = .ok (.float f) ∧ (f = Float.ofInt n ↔ ComesBack n.natAbs) := by
  obtain ⟨f, hf, hiff⟩ : ∃ f, Json.assemble (decide (n < 0)) (10 * n.natAbs) (-1) = some f ∧
      (f = Float.ofInt n ↔ ComesBack n.natAbs) := by
    rcases Nat.eq_zero_or_pos n.natAbs with h0 | hpos
    · obtain rfl := Int.natAbs_eq_zero.1 h0
      exact ⟨_, rfl, fun _ ↦ by decide, fun _ ↦ rfl⟩
    · obtain ⟨s, hs, hlo, hhi⟩ := exists_shift hpos hn
      rw [ofInt_eq_pack hs hlo hhi]
      exact assemble_tenfold hs hlo hhi _
  have htext : (String.ofList (Json.floatText (Float.ofInt n))).toList =
      Json.intText n ++ ['.', '0'] :=
    String.toList_ofList.trans (floatText_ofInt hn)
  refine ⟨⟨String.ofList (Json.floatText (Float.ofInt n))⟩, f, rfl, rfl, htext, ?_, hiff⟩
  have hword : 10 * n.natAbs < UInt64.size := by
    have hsize : UInt64.size = 2 ^ 64 := rfl
    omega
  rw [Message.decode, Json.parse, htext, Json.read_wholeText hword hf]

/-- The last but one of these numbers comes back, with a sign as well. -/
theorem last_but_one_comes_back : (-9007199254740990 : ℤ).natAbs < 2 ^ 53 ∧ ∃ m,
    Message.encode (.json (.float (Float.ofInt (-9007199254740990)))) = .ok m ∧
    m.text.toList = "-9007199254740990.0".toList ∧
    m.decode = .ok (.float (Float.ofInt (-9007199254740990))) := by
  obtain ⟨m, f, -, hencode, htext, hdecode, hiff⟩ :=
    whole_doubles_come_back_iff (-9007199254740990) (by decide)
  refine ⟨by decide, m, hencode, htext, ?_⟩
  rw [hdecode, hiff.2 (by decide)]

/-- The last one does not: it is decoded to the one before. -/
theorem last_is_changed :
    (∃ m, Message.encode (.json (.float (Float.ofInt 9007199254740991))) = .ok m ∧
      m.decode = .ok (.float (Float.ofInt 9007199254740990))) ∧
    Float.ofInt 9007199254740991 ≠ Float.ofInt 9007199254740990 := by
  refine ⟨⟨⟨String.ofList (Json.floatText (Float.ofInt 9007199254740991))⟩, rfl, ?_⟩, ?_⟩
  · have hf : Json.assemble (decide ((9007199254740991 : ℤ) < 0))
        (10 * (9007199254740991 : ℤ).natAbs) (-1) =
        some (Float.ofInt 9007199254740990) := by decide +kernel
    rw [Message.decode, Json.parse, String.toList_ofList, floatText_ofInt (by decide),
      Json.read_wholeText (by decide) hf]
  · decide +kernel

end ScriptWorkers
