import Mathlib
import ScriptWorkers.Clock
import ScriptWorkers.Proofs.Binary64

/-!
# The clock and its word

Whether a clock that is advanced and set over and over ever shows an earlier time.

* `Clock.move_micros_lt_iff`: one move puts the count back just when it is an advance past the end
  of the word (`Move.Overruns`).
* `Clock.now_le_of_micros_le`: of two counts the smaller one shows no later a time, however the
  division rounds.
* `Clock.course_mono_iff_fits`: along a whole course of moves the count goes back nowhere just when
  none of them overruns the word, and then neither does the time.
* `Clock.now_move_lt`: a clock at the end of its word goes back to zero with the next microsecond.
-/

namespace ScriptWorkers.Clock

/-- What can be done to a clock. -/
inductive Move where
  | advance (seconds : Float)
  | set (seconds : Float)

def move (c : Clock) : Move → Clock
  | .advance s => c.advance s
  | .set s => c.set s

/-- An advance that leaves no room for its sum in the word. -/
def Move.Overruns (c : Clock) : Move → Prop
  | .advance s => s > 0.0 ∧ UInt64.size ≤ c.micros.toNat + (toMicros s).toNat
  | .set _ => False

instance (c : Clock) : (m : Move) → Decidable (m.Overruns c)
  | .advance _ => inferInstanceAs (Decidable (_ ∧ _))
  | .set _ => inferInstanceAs (Decidable False)

/-- No move of the list overruns the word. -/
def Fits (c : Clock) : List Move → Prop
  | [] => True
  | m :: ms => ¬m.Overruns c ∧ (c.move m).Fits ms

instance decidableFits (c : Clock) : (moves : List Move) → Decidable (c.Fits moves)
  | [] => inferInstanceAs (Decidable True)
  | m :: ms =>
    have := (c.move m).decidableFits ms
    inferInstanceAs (Decidable (_ ∧ _))

/-- The clock at the start and after each move. -/
def course (c : Clock) (moves : List Move) : List Clock := moves.scanl move c

/-! ## One move -/

/-- Setting never puts the count back. -/
theorem micros_le_set (c : Clock) (s : Float) : c.micros ≤ (c.set s).micros := by
  simp only [set]
  generalize toMicros _ = t
  change c.micros ≤ if c.micros ≤ t then t else c.micros
  split
  next h => exact h
  next => exact UInt64.le_refl _

/-- **Only an advance past the end of the word puts the count back.** -/
theorem move_micros_lt_iff (c : Clock) (m : Move) :
    (c.move m).micros < c.micros ↔ m.Overruns c := by
  cases m with
  | set s => exact iff_of_false (UInt64.not_lt.mpr (c.micros_le_set s)) id
  | advance s =>
    simp only [move, advance, Move.Overruns]
    split
    next hs =>
      have hc := c.micros.toNat_lt
      have ht := (toMicros s).toNat_lt
      rw [UInt64.lt_iff_toNat_lt, UInt64.toNat_add]
      simp only [hs, true_and, UInt64.size]
      omega
    next hs => exact iff_of_false (UInt64.lt_irrefl _) fun h ↦ hs h.1

/-- Division by a million keeps the order. -/
theorem now_le_of_micros_le {c d : Clock} (h : c.micros ≤ d.micros) : c.now ≤ d.now := by
  have hd : (1e6 : Float).toModel.unpack = .finite .positive 8589934592000000 (-33) (by decide) :=
    rfl
  exact Binary64.toFloat_div_le h hd (by decide) (by decide) (by decide) (by decide)

/-! ## A course of moves -/

/-- By induction on the moves. -/
theorem isChain_course_iff (c : Clock) (moves : List Move) :
    (c.course moves).IsChain (fun a b ↦ a.micros ≤ b.micros) ↔ c.Fits moves := by
  induction moves generalizing c with
  | nil => simp [course, Fits]
  | cons m ms ih =>
    have hhead : (c.move m).course ms = c.move m :: ((c.move m).course ms).tail := by
      cases ms <;> simp [course]
    have hstep : c.micros ≤ (c.move m).micros ↔ ¬m.Overruns c := by
      rw [← UInt64.not_lt, move_micros_lt_iff]
    rw [course, List.scanl_cons, ← course, hhead, List.isChain_cons_cons, ← hhead, ih, hstep, Fits]

instance : IsTrans Clock (fun a b ↦ a.micros ≤ b.micros) :=
  ⟨fun _ _ _ h h' ↦ UInt64.le_trans h h'⟩

/-- The count goes back nowhere along a course just when no advance runs past the end of the word,
and then the time that is shown goes back nowhere either. -/
theorem course_mono_iff_fits (c : Clock) (moves : List Move) :
    ((c.course moves).Pairwise (fun a b ↦ a.micros ≤ b.micros) ↔ c.Fits moves) ∧
    (c.Fits moves → (c.course moves).Pairwise (fun a b ↦ a.now ≤ b.now)) := by
  have hiff : (c.course moves).Pairwise (fun a b ↦ a.micros ≤ b.micros) ↔ c.Fits moves := by
    rw [← List.isChain_iff_pairwise, isChain_course_iff]
  exact ⟨hiff, fun h ↦ (hiff.mpr h).imp now_le_of_micros_le⟩

/-- Moves that ask for an earlier time, or for none at all, are among those that fit. -/
theorem course_mono_refused :
    ({} : Clock).Fits [.advance 1.5, .set (-2.0), .advance (0.0 / 0.0), .set 1e9, .advance 0.25] ∧
    (({} : Clock).course
      [.advance 1.5, .set (-2.0), .advance (0.0 / 0.0), .set 1e9, .advance 0.25]).Pairwise
        (fun a b ↦ a.now ≤ b.now) := by
  have hfits : ({} : Clock).Fits
      [.advance 1.5, .set (-2.0), .advance (0.0 / 0.0), .set 1e9, .advance 0.25] := by
    decide +kernel
  exact ⟨hfits, (course_mono_iff_fits _ _).2 hfits⟩

/-- A clock at the end of its word goes back to zero with the next microsecond. -/
theorem now_move_lt :
    ((({} : Clock).move (.set (1.0 / 0.0))).move (.advance 1e-6)).now <
      (({} : Clock).move (.set (1.0 / 0.0))).now := by
  decide +kernel

end ScriptWorkers.Clock
