import Mathlib.Data.List.Nodup
import ScriptWorkers.Timers

/-!
# Numbers and callbacks of intervals

Of an interval, the number and the callback stay what they are, while its due time moves on.
`Timers.pairs` are the numbers with their callbacks; here is what becomes of them when intervals are
added, removed and rescheduled.

* `perm_add`: with a number that is not in use, an interval is added to the others.
* `perm_remove`: if numbers are not doubled, what is removed and what is left are what there was.
* `pairs_reschedule`: to reschedule intervals changes neither numbers nor callbacks.
-/

namespace ScriptWorkers.Timers

variable {ts : Timers} {t : Timer} {i : UInt32}

/-- The numbers of the intervals with their callbacks. -/
def pairs (ts : Timers) : List (UInt32 × Slot) := ts.entries.map fun t ↦ (t.id, t.callback)

theorem callbacks_eq (ts : Timers) : ts.callbacks = ts.pairs.map (·.2) := by
  rw [pairs, List.map_map]
  rfl

theorem contains_iff : ts.contains i = true ↔ ∃ t ∈ ts.entries, t.id = i := by
  simp [contains]

/-- There is an interval of that number. -/
theorem contains_iff_pairs : ts.contains i = true ↔ ∃ cb, (i, cb) ∈ ts.pairs := by
  rw [contains_iff]
  constructor
  · rintro ⟨t, ht, rfl⟩
    exact ⟨t.callback, List.mem_map_of_mem ht⟩
  · rintro ⟨cb, hm⟩
    obtain ⟨t, ht, heq⟩ := List.mem_map.1 hm
    exact ⟨t, ht, congrArg Prod.fst heq⟩

/-- A new number is put in somewhere, and nothing is lost. -/
theorem perm_insert : ∀ {l : List Timer}, (∀ v ∈ l, v.id ≠ t.id) → (insert t l).Perm (t :: l)
  | [], _ => .refl _
  | v :: rest, h => by
    rw [insert]
    split
    · exact .refl _
    · rw [if_neg (Ne.symm (h v (by simp)))]
      exact ((perm_insert fun x hx ↦ h x (by simp [hx])).cons v).trans (.swap t v rest)

/-- **A new interval is added to the others.** -/
theorem perm_add {now : Float} {s : Slot} {p : Option Float} (h : ∀ q ∈ ts.pairs, q.1 ≠ ts.next) :
    (ts.add now s p).pairs.Perm ((ts.next, s) :: ts.pairs) := by
  refine (perm_insert fun v hv ↦ ?_).map _
  exact h (v.id, v.callback) (List.mem_map_of_mem hv)

theorem mem_insert {v : Timer} : ∀ {l : List Timer}, v ∈ insert t l → v = t ∨ v ∈ l
  | [], h => .inl (List.mem_singleton.1 h)
  | x :: rest, h => by
    rw [insert] at h
    split at h
    · exact List.mem_cons.1 h
    · split at h
      · exact (List.mem_cons.1 h).imp_right (List.mem_cons_of_mem x)
      · rcases List.mem_cons.1 h with rfl | h
        · exact .inr List.mem_cons_self
        · exact (mem_insert h).imp_right (List.mem_cons_of_mem x)

/-- The new interval, or one of the others. -/
theorem mem_pairs_add {now : Float} {s : Slot} {p : Option Float} {q : UInt32 × Slot}
    (h : q ∈ (ts.add now s p).pairs) : q = (ts.next, s) ∨ q ∈ ts.pairs := by
  obtain ⟨v, hv, rfl⟩ := List.mem_map.1 h
  rcases mem_insert hv with rfl | hv
  · exact .inl rfl
  · exact .inr (List.mem_map_of_mem hv)

/-- With different numbers, one is found and the others are left. -/
theorem filter_find {l : List Timer} (h : (l.map (·.id)).Nodup) :
    l.Perm ((l.find? (·.id == i)).toList ++ l.filter (·.id != i)) := by
  induction l with
  | nil => exact .refl _
  | cons v rest ih =>
    rw [List.map_cons, List.nodup_cons] at h
    by_cases hv : v.id = i
    · -- it is the first one, and no other has its number
      have hrest : rest.filter (·.id != i) = rest := by
        rw [List.filter_eq_self]
        intro x hx
        simp only [bne_iff_ne, ne_eq]
        rintro he
        exact h.1 (List.mem_map.2 ⟨x, hx, he.trans hv.symm⟩)
      simp [hv, hrest]
    · rw [List.find?_cons_of_neg (by simpa using hv), List.filter_cons_of_pos (by simpa using hv)]
      exact ((ih h.2).cons v).trans List.perm_middle.symm

/-- **The callback that is given back was that of the interval.** -/
theorem perm_remove (h : (ts.pairs.map (·.1)).Nodup) :
    ts.callbacks.Perm (((ts.find? i).map (·.callback)).toList ++ (ts.remove i).callbacks) := by
  rw [pairs, List.map_map] at h
  have hperm := (filter_find (i := i) h).map (·.callback)
  rwa [List.map_append, ← Option.toList_map] at hperm

theorem find?_callback_eq_some_iff {cb : Slot} (h : (ts.pairs.map (·.1)).Nodup) :
    (ts.find? i).map (·.callback) = some cb ↔ (i, cb) ∈ ts.pairs := by
  rw [pairs, List.map_map] at h
  constructor
  · intro hfind
    obtain ⟨t, ht, rfl⟩ := Option.map_eq_some_iff.1 hfind
    obtain rfl : t.id = i := by simpa using List.find?_some ht
    exact List.mem_map_of_mem (List.mem_of_find?_eq_some ht)
  · intro hm
    obtain ⟨t, ht, heq⟩ := List.mem_map.1 hm
    cases heq
    have hsome : (ts.entries.find? (·.id == t.id)).isSome :=
      List.find?_isSome.2 ⟨t, ht, beq_self_eq_true t.id⟩
    obtain ⟨u, hu⟩ := Option.isSome_iff_exists.1 hsome
    have hid : u.id = t.id := by simpa using List.find?_some hu
    obtain rfl := List.inj_on_of_nodup_map h (List.mem_of_find?_eq_some hu) ht hid
    rw [find?, hu]
    rfl

theorem pairs_remove : (ts.remove i).pairs = ts.pairs.filter (·.1 != i) := by
  rw [pairs, pairs, List.filter_map]
  rfl

theorem pairs_reschedule (now : Float) : (ts.reschedule now).pairs = ts.pairs := by
  rw [pairs, pairs, reschedule, List.map_map]
  refine List.map_congr_left fun t _ ↦ ?_
  simp only [Function.comp_apply]
  split <;> rfl

end ScriptWorkers.Timers
