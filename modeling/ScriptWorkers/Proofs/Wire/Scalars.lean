import ScriptWorkers.Message

/-!
# Strings and numbers on the wire

What is written for a string or for a whole number is read back as it was, whatever follows it.

* `stringBody_quoted`: a string is read up to its closing quote, every character of it, however
  it is escaped.
* `number_intText`: a whole number that has a place in 64 bits, with or without a sign, is read as
  such, if what follows cannot be a part of it (`Closes`).
* `number_wholeText`: with a point and a zero behind it, it is read as a double.
-/

namespace ScriptWorkers.Json

/-! ## Strings -/

section Strings

variable {acc rest : List Char} {c x : Char}

theorem hexWord?_escape : ∀ n < 32, hexWord? '0' '0' (hexDigit (n / 16)) (hexDigit n) = some n := by
  decide

/-- A character is written as a short escape, as a hexadecimal one, or as it is. -/
theorem escape_cases (c : Char) :
    (∃ x, escape c = ['\\', x] ∧ unescape? x = some c) ∨
    (c.toNat < 32 ∧
      escape c = ['\\', 'u', '0', '0', hexDigit (c.toNat / 16), hexDigit c.toNat]) ∨
    (c ≠ '"' ∧ c ≠ '\\' ∧ 32 ≤ c.toNat ∧ escape c = [c]) := by
  have hofNat {n : Nat} (h : c.toNat = n) : Char.ofNat n = c := h ▸ Char.ofNat_toNat c
  by_cases hq : c = '"'
  · exact .inl ⟨'"', if_pos hq, by rw [hq]; rfl⟩
  by_cases hb : c = '\\'
  · exact .inl ⟨'\\', by rw [hb]; rfl, by rw [hb]; rfl⟩
  by_cases hn : c = '\n'
  · exact .inl ⟨'n', by rw [hn]; rfl, by rw [hn]; rfl⟩
  by_cases hr : c = '\r'
  · exact .inl ⟨'r', by rw [hr]; rfl, by rw [hr]; rfl⟩
  by_cases ht : c = '\t'
  · exact .inl ⟨'t', by rw [ht]; rfl, by rw [ht]; rfl⟩
  by_cases h8 : c.toNat = 8
  · exact .inl ⟨'b', by rw [← hofNat h8]; rfl, by rw [← hofNat h8]; rfl⟩
  by_cases h12 : c.toNat = 12
  · exact .inl ⟨'f', by rw [← hofNat h12]; rfl, by rw [← hofNat h12]; rfl⟩
  rw [escape, if_neg hq, if_neg hb, if_neg hn, if_neg hr, if_neg ht, if_neg h8, if_neg h12]
  by_cases hlow : c.toNat < 32
  · exact .inr (.inl ⟨hlow, if_pos hlow⟩)
  · exact .inr (.inr ⟨hq, hb, Nat.le_of_not_lt hlow, if_neg hlow⟩)

theorem stringBody_short (h : unescape? c = some x) :
    stringBody acc ('\\' :: c :: rest) = stringBody (x :: acc) rest := by
  have hu : c ≠ 'u' := by
    rintro rfl
    cases h
  rw [stringBody, h]
  · rintro _ _ _ _ _ _ _ _ _ rfl
    exact absurd rfl hu
  · rintro _ _ _ _ _ rfl
    exact absurd rfl hu

/-- Only the first unit of a surrogate pair minds what comes after it. -/
theorem stringBody_unicode {a b c d : Char} {n : Nat} (h : hexWord? a b c d = some n)
    (hn : n < 0xD800) :
    stringBody acc ('\\' :: 'u' :: a :: b :: c :: d :: rest) =
      stringBody (Char.ofNat n :: acc) rest := by
  have hhigh : ¬ isHigh n = true := by
    simp only [isHigh, Bool.and_eq_true, decide_eq_true_eq]
    omega
  have hlow : ¬ isLow n = true := by
    simp only [isLow, Bool.and_eq_true, decide_eq_true_eq]
    omega
  by_cases hrest : ∃ e f g h r, rest = '\\' :: 'u' :: e :: f :: g :: h :: r
  · obtain ⟨e, f, g, h', r, rfl⟩ := hrest
    rw [stringBody, h]
    simp only [if_neg hhigh, if_neg hlow]
  · rw [stringBody, h]
    · simp [hhigh, hlow]
    · exact fun e f g h r heq ↦ hrest ⟨e, f, g, h, r, heq⟩

theorem stringBody_self (hq : c ≠ '"') (hb : c ≠ '\\') (hc : 32 ≤ c.toNat) :
    stringBody acc (c :: rest) = stringBody (c :: acc) rest := by
  have hn : ¬ (c.toNat < 32 ∨ c = '\\') := by
    rintro (h | h)
    · omega
    · exact hb h
  rw [stringBody, if_neg hn]
  · exact hq
  · exact fun _ _ _ _ _ _ _ _ _ h _ ↦ hb h
  · exact fun _ _ _ _ _ h _ ↦ hb h
  · exact fun _ _ h _ ↦ hb h

/-- Every character is read back, by what stands for it. -/
theorem stringBody_escape (c : Char) (acc rest : List Char) :
    stringBody acc (escape c ++ rest) = stringBody (c :: acc) rest := by
  rcases escape_cases c with ⟨x, he, hx⟩ | ⟨hlow, he⟩ | ⟨hq, hb, hc, he⟩
  · rw [he]
    exact stringBody_short hx
  · have hchar : stringBody (Char.ofNat c.toNat :: acc) rest = stringBody (c :: acc) rest := by
      rw [Char.ofNat_toNat]
    rw [he]
    exact (stringBody_unicode (hexWord?_escape _ hlow) (by omega)).trans hchar
  · rw [he]
    exact stringBody_self hq hb hc

/-- A string is read back up to its closing quote. -/
theorem stringBody_quoted (s acc rest : List Char) :
    stringBody acc (s.flatMap escape ++ '"' :: rest) = some (acc.reverse ++ s, rest) := by
  induction s generalizing acc with
  | nil => simp [stringBody]
  | cons c s ih =>
    rw [List.flatMap_cons, List.append_assoc, stringBody_escape, ih, List.reverse_cons,
      List.append_assoc]
    rfl

end Strings

/-! ## Numbers -/

/-- What follows is no digit. -/
def Ends (rest : List Char) : Prop := ∀ c ∈ rest.head?, c.isDigit = false

/-- What follows cannot be a part of the number before it. -/
def Closes (rest : List Char) : Prop :=
  ∀ c ∈ rest.head?, c.isDigit = false ∧ c ≠ '.' ∧ c ≠ 'e' ∧ c ≠ 'E'

theorem Closes.ends {rest : List Char} (h : Closes rest) : Ends rest := fun c hc ↦ (h c hc).1

theorem ends_cons {c : Char} {rest : List Char} (hd : c.isDigit = false) : Ends (c :: rest) := by
  intro x hx
  cases hx
  exact hd

theorem closes_nil : Closes [] := by simp [Closes]

/-- Anything but a digit, a point or an exponent. -/
theorem closes_cons {c : Char} {rest : List Char} (hd : c.isDigit = false) (hp : c ≠ '.')
    (he : c ≠ 'e') (hE : c ≠ 'E') : Closes (c :: rest) := by
  intro x hx
  cases hx
  exact ⟨hd, hp, he, hE⟩

section Numbers

variable {rest : List Char} {n : Nat}

theorem takeWhile_ends (h : Ends rest) : rest.takeWhile Char.isDigit = [] := by
  cases rest with
  | nil => rfl
  | cons c rest => rw [List.takeWhile_cons_of_neg (by simp [h c rfl])]

theorem dropWhile_ends (h : Ends rest) : rest.dropWhile Char.isDigit = rest := by
  cases rest with
  | nil => rfl
  | cons c rest => rw [List.dropWhile_cons_of_neg (by simp [h c rfl])]

theorem le_ofDigitChars (ds : List Char) (n : Nat) : n ≤ Nat.ofDigitChars 10 ds n := by
  induction ds generalizing n with
  | nil => exact Nat.le_refl n
  | cons c ds ih =>
    rw [Nat.ofDigitChars_cons]
    exact Nat.le_trans (by omega) (ih _)

/-- Digits are collected as long as their value fits in 64 bits. -/
theorem collect_digits : ∀ {ds : List Char} {word : Nat}, (∀ c ∈ ds, c.isDigit = true) →
    Nat.ofDigitChars 10 ds word < UInt64.size → Ends rest →
    collect word (ds ++ rest) = (Nat.ofDigitChars 10 ds word, rest)
  | [], word, _, _, hr => by
    cases rest with
    | nil => rfl
    | cons c rest =>
      have hc : ¬ (c.isDigit ∧ word * 10 + (c.toNat - '0'.toNat) < UInt64.size) := by
        simp [hr c rfl]
      rw [List.nil_append, collect, if_neg hc]
      rfl
  | c :: ds, word, hd, hw, hr => by
    have hstep : word * 10 + (c.toNat - '0'.toNat) = 10 * word + (c.toNat - '0'.toNat) := by omega
    rw [Nat.ofDigitChars_cons] at hw ⊢
    have hfits := Nat.lt_of_le_of_lt (le_ofDigitChars ds _) hw
    rw [List.cons_append, collect, hstep, if_pos ⟨hd c List.mem_cons_self, hfits⟩]
    exact collect_digits (fun x hx ↦ hd x (List.mem_cons_of_mem c hx)) hw hr

theorem digitText_isDigit (n : Nat) : ∀ c ∈ Decimal.digitText n, c.isDigit = true :=
  fun _ hc ↦ Nat.isDigit_of_mem_toDigits (by decide) (by decide) hc

/-- Only zero itself is written with a zero in front. -/
theorem digitText_head {c : Char} {ds : List Char} (h : Decimal.digitText n = c :: ds)
    (hc : c = '0') : ds = [] := by
  have hne : ∀ n, n ≠ 0 → (Nat.toDigits 10 n).head? ≠ some '0' := by
    intro n
    induction n using Nat.strongRecOn with
    | ind n ih =>
      intro hn
      rw [Nat.toDigits_eq_if (by decide)]
      split
      · have hall : ∀ d < 10, d ≠ 0 → Nat.digitChar d ≠ '0' := by decide
        simpa using hall n (by assumption) hn
      · have hrest := ih (n / 10) (by omega) (by omega)
        cases h : Nat.toDigits 10 (n / 10) with
        | nil => exact absurd h Nat.toDigits_ne_nil
        | cons d ds => rwa [h] at hrest
  by_cases hn : n = 0
  · subst hn
    cases h
    rfl
  · refine absurd ?_ (hne n hn)
    rw [← Decimal.digitText, h, hc]
    rfl

/-- Digits are collected up to the end. -/
theorem collect_digitText (hn : n < UInt64.size) (hr : Ends rest) :
    collect 0 (Decimal.digitText n ++ rest) = (n, rest) := by
  have hvalue : Nat.ofDigitChars 10 (Decimal.digitText n) 0 = n :=
    Nat.ofDigitChars_toDigits (by decide) (by decide)
  rw [collect_digits (digitText_isDigit n) (by rwa [hvalue]) hr, hvalue]

/-- The digits of a number as they are read: there are some, and no zero comes first. -/
theorem digitText_eq_cons (n : Nat) (hr : Ends rest) : ∃ c ds, Decimal.digitText n = c :: ds ∧
    c.isDigit = true ∧ ¬ (c = '0' ∧ ((ds ++ rest).takeWhile Char.isDigit).length ≠ 0) := by
  have hdigits := digitText_isDigit n
  cases h : Decimal.digitText n with
  | nil => exact absurd h Nat.toDigits_ne_nil
  | cons c ds =>
    refine ⟨c, ds, rfl, hdigits c (by simp [h]), ?_⟩
    rintro ⟨h0, hlen⟩
    rw [digitText_head h h0, List.nil_append, takeWhile_ends hr] at hlen
    exact hlen rfl

/-- A number without sign. -/
theorem magnitude_digitText (negative : Bool) (hn : n < UInt64.size) (hr : Closes rest) :
    magnitude negative (Decimal.digitText n ++ rest) = some (whole negative n, rest) := by
  have hcollect := collect_digitText hn hr.ends
  obtain ⟨c, ds, h, hc, hzero⟩ := digitText_eq_cons n hr.ends
  rw [h, List.cons_append] at hcollect
  rw [h, List.cons_append, magnitude, hc, if_neg (by decide), if_neg hzero, hcollect]
  simp only [takeWhile_ends hr.ends, dropWhile_ends hr.ends]
  cases rest with
  | nil => rfl
  | cons x rest =>
    obtain ⟨-, hp, he, hE⟩ := hr x rfl
    split
    · rename_i heq
      cases heq
      exact absurd rfl hp
    · rename_i heq
      cases heq
      exact absurd rfl he
    · rename_i heq
      cases heq
      exact absurd rfl hE
    · rfl

/-- A zero behind the point makes the digits ten times as much, and a tenth of that is taken. -/
theorem fraction_zero (negative : Bool) (hn : 10 * n < UInt64.size) (hr : Closes rest) :
    fraction negative n 0 ('0' :: rest) = (assemble negative (10 * n) (-1)).map
      fun f ↦ (f, rest) := by
  have hvalue : Nat.ofDigitChars 10 ['0'] n = 10 * n := rfl
  have hcollect : collect n (['0'] ++ rest) = (Nat.ofDigitChars 10 ['0'] n, rest) :=
    collect_digits (by simp) (by rwa [hvalue]) hr.ends
  have hused : (0 : Int) - (('0' :: rest).length - rest.length : Nat) = -1 := by
    rw [List.length_cons, Nat.add_sub_cancel_left]
    rfl
  rw [hvalue, List.singleton_append] at hcollect
  rw [fraction, hcollect]
  simp only [hused, dropWhile_ends hr.ends]
  rw [if_neg (by simp)]
  cases rest with
  | nil => rfl
  | cons x rest =>
    obtain ⟨-, -, he, hE⟩ := hr x rfl
    rw [exponent, if_neg (by simp [he, hE])]

/-- A number with a point and a zero. -/
theorem magnitude_pointZero (negative : Bool) (hn : 10 * n < UInt64.size) (hr : Closes rest) :
    magnitude negative (Decimal.digitText n ++ '.' :: '0' :: rest) =
      (assemble negative (10 * n) (-1)).map fun f ↦ (float f, rest) := by
  have hpoint : Ends ('.' :: '0' :: rest) := ends_cons rfl
  have hcollect := collect_digitText (by omega : n < UInt64.size) hpoint
  obtain ⟨c, ds, h, hc, hzero⟩ := digitText_eq_cons n hpoint
  rw [h, List.cons_append] at hcollect
  rw [h, List.cons_append, magnitude, hc, if_neg (by decide), if_neg hzero, hcollect]
  simp only [takeWhile_ends hpoint, dropWhile_ends hpoint]
  change (fraction negative n 0 ('0' :: rest)).map _ = _
  rw [fraction_zero negative hn hr, Option.map_map]
  rfl

theorem number_digitText (n : Nat) (rest : List Char) :
    number (Decimal.digitText n ++ rest) = magnitude false (Decimal.digitText n ++ rest) := by
  have hdigits := digitText_isDigit n
  rw [number]
  intro cs heq
  cases h : Decimal.digitText n with
  | nil => exact absurd h Nat.toDigits_ne_nil
  | cons c ds =>
    rw [h] at heq
    cases heq
    exact absurd (hdigits '-' (by simp [h])) (by decide)

/-- A whole number of 64 bits is read back. -/
theorem number_intText {i : Int} (hlow : -(UInt64.size : Int) ≤ 2 * i) (hhigh : i < UInt64.size)
    (hr : Closes rest) :
    number (intText i ++ rest) = some (int i, rest) := by
  cases i with
  | ofNat n =>
    have hn : n < UInt64.size := by
      simp only [Int.ofNat_eq_natCast] at hhigh
      omega
    rw [intText, number_digitText, magnitude_digitText false hn hr]
    rfl
  | negSucc n =>
    have hn : 2 * (n + 1) ≤ UInt64.size := by omega
    have hword : ¬ (n + 1 = 0 ∨ UInt64.size < 2 * (n + 1)) := by omega
    rw [intText, List.cons_append, number, magnitude_digitText true (by omega) hr, whole,
      if_neg (by decide), if_neg hword]
    rfl

/-- What is read for a whole number with a point and a zero behind it. -/
theorem number_wholeText {i : Int} (hi : 10 * i.natAbs < UInt64.size) (hr : Closes rest) :
    number (intText i ++ '.' :: '0' :: rest) =
      (assemble (decide (i < 0)) (10 * i.natAbs) (-1)).map fun f ↦ (float f, rest) := by
  cases i with
  | ofNat n =>
    rw [intText, number_digitText]
    exact magnitude_pointZero false hi hr
  | negSucc n =>
    rw [intText, List.cons_append, number, decide_eq_true (Int.negSucc_lt_zero n)]
    exact magnitude_pointZero true hi hr

end Numbers

end ScriptWorkers.Json
