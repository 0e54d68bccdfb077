import ScriptWorkers.Proofs.Views

/-!
# Numbers of workers

Everything in a world is said of workers by their places, which are never used twice.  The process
itself knows a worker by a number of 32 bits: under it a script finds the worker that it has
created, and under it a register looks for the worker that is to be terminated.  The counter of
these numbers wraps around, so what is said of places is true of numbers as long as no number has
been given twice.

## What is here

* `World.Numbered`: less workers have been made than there are numbers.
* `WorkerId.ofNumber_number`, `WorkerId.number_inj`: below that bound the number of a worker tells
  its place, however many workers were made before those of the world.
* `World.Numbered.nodup_numbers`: in a table with the numbers of workers as its keys, every worker
  has an entry of its own.
* `World.Numbered.find?_number`: in a list of workers, the first one with the number of a worker
  is that worker.
-/

namespace ScriptWorkers

/-! ## Numbers and places -/

namespace WorkerId

variable {earlier : Nat} {a b : WorkerId}

/-- The number of a worker tells its place. -/
theorem ofNumber_number (ha : a < UInt32.size) : ofNumber earlier (a.number earlier) = a := by
  have hdiff : a.number earlier - UInt32.ofNat earlier = UInt32.ofNat a := by
    rw [number, UInt32.ofNat_add, UInt32.add_comm, UInt32.add_sub_cancel]
  rw [ofNumber, hdiff, UInt32.toNat_ofNat_of_lt' ha]

/-- Two workers below the bound have different numbers. -/
theorem number_inj (ha : a < UInt32.size) (hb : b < UInt32.size)
    (h : a.number earlier = b.number earlier) : a = b := by
  rw [← ofNumber_number ha, h, ofNumber_number hb]

end WorkerId

/-! ## Worlds in which no number has been given twice -/

namespace World

variable {κ : Type} {w : World κ} {earlier : Nat} {a b : WorkerId} {ids : List WorkerId}

/-- Less workers have been made than there are numbers. -/
def Numbered (w : World κ) : Prop := w.workers.length < UInt32.size

instance (w : World κ) : Decidable w.Numbered := inferInstanceAs (Decidable (_ < _))

theorem Numbered.lt (h : w.Numbered) (ha : (w.worker? a).isSome) : a < UInt32.size :=
  Nat.lt_of_le_of_lt (worker?_isSome_iff.1 ha).2 h

/-- No two workers have the same number. -/
theorem Numbered.number_inj (h : w.Numbered) (ha : (w.worker? a).isSome)
    (hb : (w.worker? b).isSome) (hn : a.number earlier = b.number earlier) : a = b :=
  WorkerId.number_inj (h.lt ha) (h.lt hb) hn

/-- In a table with numbers as its keys, every worker has an entry of its own. -/
theorem Numbered.nodup_numbers (h : w.Numbered) (hids : ∀ x ∈ ids, (w.worker? x).isSome)
    (hnodup : ids.Nodup) : (ids.map (·.number earlier)).Nodup := by
  refine List.pairwise_map.2 (hnodup.imp_of_mem fun hx hy hne hn ↦ hne ?_)
  exact h.number_inj (hids _ hx) (hids _ hy) hn

/-- Of the workers in a list, the first one with the number of a worker is that worker. -/
theorem Numbered.find?_number (h : w.Numbered) (hids : ∀ x ∈ ids, (w.worker? x).isSome)
    (ha : a ∈ ids) : ids.find? (·.number earlier == a.number earlier) = some a := by
  cases hfound : ids.find? (·.number earlier == a.number earlier) with
  | none => exact absurd (beq_self_eq_true _) (List.find?_eq_none.1 hfound a ha)
  | some b =>
    have hn : b.number earlier = a.number earlier := by simpa using List.find?_some hfound
    have hb : b ∈ ids := List.mem_of_find?_eq_some hfound
    rw [h.number_inj (hids b hb) (hids a ha) hn]

end World

end ScriptWorkers
