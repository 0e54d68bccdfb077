import ScriptWorkers.Proofs.Handover
import ScriptWorkers.Proofs.Timing.Pairs
import ScriptWorkers.Proofs.Timing.Record

/-!
# What a tick fires

A tick fires the intervals that are due when it begins and still there when their turn comes.  All
of them are rescheduled before the first callback is invoked, so nothing that callbacks do to the
intervals gets lost, and what they add is not in question before the next tick.

* `Rounds` is what becomes of the intervals that a tick has noted, one after the other: an interval
  that is there fires, and its callback makes its edits; one that is not there is passed over.
* `Lost` says of a number, looking at edits alone, that it was removed and not given again.  Whether
  there is an interval of that number follows from this (`contains_foldl`), and numbers are not
  given again as long as they last (`lost_iff`).
-/

namespace ScriptWorkers.Timers

variable {σ : Type} {place : Place σ Timers} {callee : Callee σ} {s s' : σ} {ts : Timers}
  {id : UInt32}

/-! ## Numbers that are removed -/

/-- The entry gives that number. -/
def Entry.gives (id : UInt32) : Entry → Prop
  | added j _ _ => j = id
  | _ => False

/-- The number was removed, and not given again since. -/
def Lost (id : UInt32) (h : List Entry) : Prop :=
  ∃ h₁ x h₂, h = h₁ ++ x :: h₂ ∧ x.drops id ∧ ∀ y ∈ h₂, ¬ y.gives id

theorem lost_cons {x : Entry} {h : List Entry} :
    Lost id (x :: h) ↔ Lost id h ∨ x.drops id ∧ ∀ y ∈ h, ¬ y.gives id := by
  constructor
  · rintro ⟨h₁, y, h₂, heq, hy, hgives⟩
    cases h₁ with
    | nil =>
      cases heq
      exact .inr ⟨hy, hgives⟩
    | cons z h₁ =>
      cases heq
      exact .inl ⟨h₁, y, h₂, rfl, hy, hgives⟩
  · rintro (⟨h₁, y, h₂, rfl, hy, hgives⟩ | ⟨hx, hgives⟩)
    · exact ⟨x :: h₁, y, h₂, rfl, hy, hgives⟩
    · exact ⟨[], x, h, rfl, hx, hgives⟩

theorem mem_insert_self (t : Timer) : ∀ l : List Timer, t ∈ insert t l
  | [] => List.mem_cons_self
  | u :: l => by
    rw [insert]
    split
    · exact List.mem_cons_self
    · split
      · exact List.mem_cons_self
      · exact List.mem_cons_of_mem u (mem_insert_self t l)

theorem mem_insert_of_ne {t u : Timer} (hne : u.id ≠ t.id) : ∀ {l : List Timer},
    u ∈ l → u ∈ insert t l
  | v :: l, hu => by
    rw [insert]
    split
    · exact List.mem_cons_of_mem t hu
    · split
      · rename_i heq
        rcases List.mem_cons.1 hu with rfl | hu
        · exact absurd heq.symm hne
        · exact List.mem_cons_of_mem t hu
      · rcases List.mem_cons.1 hu with rfl | hu
        · exact List.mem_cons_self
        · exact List.mem_cons_of_mem v (mem_insert_of_ne hne hu)

/-- The new number, or one that was there. -/
theorem contains_add {now : Float} {callback : Slot} {period : Option Float} :
    (ts.add now callback period).contains id = true ↔ ts.next = id ∨ ts.contains id = true := by
  rw [contains_iff, contains_iff]
  constructor
  · rintro ⟨t, ht, rfl⟩
    exact (mem_insert ht).imp (fun h ↦ (congrArg Timer.id h).symm) fun h ↦ ⟨t, h, rfl⟩
  · intro h
    by_cases hid : ts.next = id
    · exact ⟨_, mem_insert_self _ _, hid⟩
    · obtain ⟨t, ht, rfl⟩ := h.resolve_left hid
      exact ⟨t, mem_insert_of_ne (Ne.symm hid) ht, rfl⟩

/-- What an edit has to do with a number. -/
theorem contains_apply (e : Edit) : (e.apply ts).contains id = false ↔
    (e.entry ts).drops id ∨ ts.contains id = false ∧ ¬ (e.entry ts).gives id := by
  cases e with
  | add now callback period =>
    rw [← Bool.not_eq_true, ← Bool.not_eq_true]
    show ¬ (ts.add now callback period).contains id = true ↔
      False ∨ ¬ ts.contains id = true ∧ ¬ ts.next = id
    rw [contains_add, false_or, not_or, and_comm]
  | remove j =>
    rw [← Bool.not_eq_true, ← Bool.not_eq_true, contains_iff, contains_iff]
    show ¬ (∃ t ∈ ts.entries.filter (·.id != j), t.id = id) ↔
      j = id ∨ ¬ (∃ t ∈ ts.entries, t.id = id) ∧ ¬ False
    simp only [List.mem_filter, bne_iff_ne]
    grind
  | clear => exact iff_of_true rfl (.inl trivial)

/-- **Whether there is an interval of a number after edits.** -/
theorem contains_foldl : ∀ (edits : List Edit) (ts : Timers),
    (edits.foldl Edit.apply ts).contains id = false ↔ Lost id (entriesOf ts edits) ∨
      ts.contains id = false ∧ ∀ y ∈ entriesOf ts edits, ¬ y.gives id
  | [], ts => by
    have hlost : ¬ Lost id [] := fun ⟨_, _, _, heq, _⟩ ↦ absurd heq (by simp)
    simp [entriesOf, hlost]
  | e :: edits, ts => by
    rw [List.foldl_cons, contains_foldl edits, contains_apply, entriesOf, lost_cons,
      List.forall_mem_cons]
    tauto

/-- A number is dropped by an edit that removes it or clears all. -/
theorem drops_entriesOf : ∀ (edits : List Edit) (ts : Timers),
    (∃ x ∈ entriesOf ts edits, x.drops id) ↔ ∃ e ∈ edits, e = .remove id ∨ e = .clear
  | [], ts => by simp [entriesOf]
  | e :: edits, ts => by
    have he : (e.entry ts).drops id ↔ e = .remove id ∨ e = .clear := by
      cases e <;> simp [Edit.entry, Entry.drops]
    rw [entriesOf, List.exists_mem_cons_iff, List.exists_mem_cons_iff, he, drops_entriesOf]

/-- The counter goes up by what is added. -/
theorem next_apply {e : Edit} (hn : ts.next.toNat + (e.entry ts).adds < UInt32.size) :
    (e.apply ts).next.toNat = ts.next.toNat + (e.entry ts).adds := by
  cases e with
  | add now callback period =>
    show (ts.next + 1).toNat = ts.next.toNat + 1
    rw [UInt32.toNat_add]
    exact Nat.mod_eq_of_lt hn
  | remove | clear => rfl

/-- Numbers are given in ascending order, as long as they last. -/
theorem le_of_gives : ∀ {edits : List Edit} {ts : Timers} {y : Entry},
    ts.next.toNat + adds (entriesOf ts edits) < UInt32.size → y ∈ entriesOf ts edits → y.gives id →
    ts.next.toNat ≤ id.toNat
  | e :: edits, ts, y, hn, hy, hgives => by
    have hadds : adds (entriesOf ts (e :: edits)) =
      (e.entry ts).adds + adds (entriesOf (e.apply ts) edits) := rfl
    rw [hadds] at hn
    rcases List.mem_cons.1 hy with rfl | hy
    · cases e with
      | add now callback period => exact Nat.le_of_eq (congrArg UInt32.toNat hgives)
      | remove | clear => exact hgives.elim
    · have hnext : (e.apply ts).next.toNat = ts.next.toNat + (e.entry ts).adds :=
        next_apply (by omega)
      have hle := le_of_gives (by omega) hy hgives
      omega

/-- A number that has been given before is not given again, so once removed it is lost. -/
theorem lost_iff {edits : List Edit} (hid : id < ts.next)
    (hn : ts.next.toNat + adds (entriesOf ts edits) < UInt32.size) :
    Lost id (entriesOf ts edits) ↔ ∃ e ∈ edits, e = .remove id ∨ e = .clear := by
  rw [← drops_entriesOf edits ts]
  constructor
  · rintro ⟨h₁, x, h₂, heq, hx, -⟩
    exact ⟨x, heq ▸ by simp, hx⟩
  · rintro ⟨x, hmem, hx⟩
    obtain ⟨h₁, h₂, heq⟩ := List.append_of_mem hmem
    refine ⟨h₁, x, h₂, heq, hx, fun y hy hgives ↦ ?_⟩
    have hle := le_of_gives hn (heq ▸ by simp [hy]) hgives
    exact Nat.not_lt.2 hle (UInt32.lt_iff_toNat_lt.1 hid)

/-! ## One interval after the other -/

/-- The turn of an interval in a tick: the edits that its callback has made, if it has fired. -/
structure Round where
  timer : Timer
  outcome : Option (List Edit)

namespace Round

/-- Whether the interval has fired. -/
def fired (r : Round) : Bool := r.outcome.isSome

/-- What its callback has done. -/
def edits (r : Round) : List Edit := r.outcome.getD []

end Round

/-- The turns of intervals, one after the other.  Each is looked for anew when its turn comes. -/
inductive Rounds (ed : Editor place callee) : σ → List Round → σ → Prop where
  | done (s : σ) : Rounds ed s [] s
  | passed {s s' : σ} {t : Timer} {rest : List Round} (gone : (place.get s).contains t.id = false)
    (next : Rounds ed s rest s') : Rounds ed s (⟨t, none⟩ :: rest) s'
  | fired {s s₁ s' : σ} {t : Timer} {rest : List Round} (alive : (place.get s).contains t.id = true)
    (invoked : callee.Invoked .timer t.callback [] s s₁) (next : Rounds ed s₁ rest s') :
    Rounds ed s (⟨t, some (ed.edits t.callback s)⟩ :: rest) s'

variable {ed : Editor place callee} {rounds : List Round}

/-- What an invocation has done to the intervals are the edits of its callback. -/
theorem Editor.get_of_invoked (ed : Editor place callee) {slot : Slot}
    (h : callee.Invoked .timer slot [] s s') :
    place.get s' = (ed.edits slot s).foldl Edit.apply (place.get s) := by
  obtain ⟨s₁, hrun, hget⟩ := ed.run_invoke slot s
  rw [h.run] at hrun
  cases hrun
  exact hget

/-- Firing gives each of the noted intervals its turn. -/
theorem Editor.rounds_of_fire (ed : Editor place callee) : ∀ (noted : List Timer) (s : σ),
    ∃ rounds s', Rounds ed s rounds s' ∧ rounds.map (·.timer) = noted ∧
      fire place callee noted s = .ok (rounds.countP Round.fired) s'
  | [], s => ⟨[], s, .done s, rfl, rfl⟩
  | t :: rest, s => by
    by_cases hc : (place.get s).contains t.id = true
    · obtain ⟨s₁, hinvoke, -⟩ := ed.run_invoke t.callback s
      obtain ⟨rounds, s', hrounds, htimers, hfire⟩ := rounds_of_fire ed rest s₁
      refine ⟨_, s', .fired hc (Callee.invoked_of_run hinvoke) hrounds,
        by rw [List.map_cons, htimers], ?_⟩
      rw [fire, run_read_bind, if_pos hc, run_bind_ok hinvoke, run_bind_ok hfire,
        List.countP_cons_of_pos rfl]
      rfl
    · obtain ⟨rounds, s', hrounds, htimers, hfire⟩ := rounds_of_fire ed rest s
      refine ⟨_, s', .passed (Bool.eq_false_iff.2 hc) hrounds, by rw [List.map_cons, htimers], ?_⟩
      rw [fire, run_read_bind, if_neg hc, hfire, List.countP_cons_of_neg (by simp [Round.fired])]

/-- What callbacks do to the intervals, they do one after the other. -/
theorem Rounds.get_eq (h : Rounds ed s rounds s') :
    place.get s' = (rounds.flatMap Round.edits).foldl Edit.apply (place.get s) := by
  induction h with
  | done => rfl
  | passed _ _ ih => exact ih
  | fired _ hinvoked _ ih =>
    rw [List.flatMap_cons, List.foldl_append, ih, ed.get_of_invoked hinvoked]
    rfl

/-- An interval has fired if it was there when its turn came. -/
theorem Rounds.fired_eq {before after : List Round} {r : Round}
    (h : Rounds ed s (before ++ r :: after) s') :
    r.fired =
      ((before.flatMap Round.edits).foldl Edit.apply (place.get s)).contains r.timer.id := by
  generalize hall : before ++ r :: after = rounds at h
  induction h generalizing before with
  | done => exact absurd hall (by simp)
  | passed hgone _ ih =>
    cases before with
    | nil =>
      cases hall
      exact hgone.symm
    | cons r' before =>
      obtain ⟨rfl, hrest⟩ := List.cons.inj hall
      rw [ih hrest]
      rfl
  | fired halive hinvoked _ ih =>
    cases before with
    | nil =>
      cases hall
      exact halive.symm
    | cons r' before =>
      obtain ⟨rfl, hrest⟩ := List.cons.inj hall
      rw [ih hrest, List.flatMap_cons, List.foldl_append, ed.get_of_invoked hinvoked]
      rfl

/-! ## A whole tick -/

/-- What is due is there when the tick begins. -/
theorem contains_of_due {now : Float} {t : Timer} (ht : t ∈ ts.dueAt now) :
    (ts.reschedule now).contains t.id = true := by
  rw [contains_iff_pairs, pairs_reschedule]
  exact ⟨t.callback, List.mem_map_of_mem (List.mem_filter.1 ht).1⟩

/-- **A tick fires the intervals that are due when it begins and still there when their turn
comes.**  Take callbacks that come back, possibly with an error, and make any edits to the
intervals, and a tick at any time.  The intervals that are due get their next time by the time of
the tick, the others stay as they are, and only then do those that were due have their turn, in the
order of their numbers.  An interval does not fire if and only if callbacks before it have removed
its number and not given it again; as long as numbers last, this means that one of them has removed
the interval, or all intervals.  The tick returns how many have fired.  In the end there are the
rescheduled intervals with the edits of the callbacks, in the order in which they were made. -/
theorem tick_fires_due_survivors (place : Place σ Timers)
    (hplace : ∀ ts s, place.get (place.set ts s) = ts) (callee : Callee σ)
    (ed : Editor place callee) (now : Float) (s : σ) : ∃ rounds s₀ s',
      s₀ = place.set
        { entries := (place.get s).entries.map fun t ↦
            if t.due ≤ now then { t with due := now + t.period } else t
          next := (place.get s).next } s ∧
      Rounds ed s₀ rounds s' ∧
      rounds.map (·.timer) = (place.get s).entries.filter (·.due ≤ now) ∧
      (Ordered (place.get s).entries → Ordered (rounds.map (·.timer))) ∧
      tick place callee now s = .ok (rounds.countP Round.fired) s' ∧
      place.get s' = (rounds.flatMap Round.edits).foldl Edit.apply (place.get s₀) ∧
      ∀ before r after, rounds = before ++ r :: after →
        (r.fired = false ↔
          Lost r.timer.id (entriesOf (place.get s₀) (before.flatMap Round.edits))) ∧
        ((∀ t ∈ (place.get s).entries, t.id < (place.get s).next) →
          (place.get s).next.toNat + adds (entriesOf (place.get s₀) (before.flatMap Round.edits)) <
            UInt32.size →
          (r.fired = false ↔
            ∃ e ∈ before.flatMap Round.edits, e = .remove r.timer.id ∨ e = .clear)) := by
  have hstart : place.get (place.modify (·.reschedule now) s) = (place.get s).reschedule now :=
    hplace _ _
  obtain ⟨rounds, s', hrounds, htimers, hfire⟩ :=
    ed.rounds_of_fire ((place.get s).dueAt now) (place.modify (·.reschedule now) s)
  refine ⟨rounds, place.modify (·.reschedule now) s, s', ?_, hrounds, ?_, ?_, ?_, hrounds.get_eq,
    ?_⟩
  · simp only [Place.modify, reschedule, Timer.isDue, decide_eq_true_eq]
  · exact htimers
  · intro hordered
    rw [htimers]
    exact hordered.filter _
  · exact hfire
  · rintro before r after rfl
    have hmem : r.timer ∈ (place.get s).dueAt now := by
      rw [← htimers]
      exact List.mem_map_of_mem (by simp)
    have hlost : r.fired = false ↔
        Lost r.timer.id
          (entriesOf ((place.get s).reschedule now) (before.flatMap Round.edits)) := by
      rw [hrounds.fired_eq, hstart, contains_foldl, contains_of_due hmem]
      simp
    rw [hstart]
    exact ⟨hlost, fun hids hn ↦ hlost.trans (lost_iff (hids _ (List.mem_filter.1 hmem).1) hn)⟩

/-! ## A steward -/

/-- A script whose callback 7 removes the second interval, adds another one and fails. -/
def steward : Callee Timers where
  call slot _ := do
    if slot = 7 then
      Place.whole.update (·.remove 2)
      Place.whole.update (·.add 0 7 none)
      return .error (.uncaught "over")
    else return .ok ()
  log _ := return ()

/-- The edits of that script. -/
def stewardEdits : Editor Place.whole steward where
  edits slot _ := if slot = 7 then [.remove 2, .add 0 7 none] else []
  call slot s := by
    by_cases h : slot = 7
    · subst h
      exact ⟨_, _, rfl, rfl⟩
    · refine ⟨.ok (), s, ?_, ?_⟩
      · simp only [steward, if_neg h]
        rfl
      · simp only [if_neg h, List.foldl_nil]
  log _ s := ⟨s, rfl, rfl⟩

/-- Four intervals, of which the first three are due. -/
def stewardDay : Timers :=
  ⟨[⟨1, 7, 1, 1⟩, ⟨2, 8, 1, 1⟩, ⟨3, 9, 1, 1⟩, ⟨4, 9, 1, 5⟩], 5⟩

/-- What is left of them. -/
def stewardEvening : Timers :=
  ⟨[⟨1, 7, 1, 2.5⟩, ⟨3, 9, 1, 2.5⟩, ⟨4, 9, 1, 5⟩, ⟨5, 7, 0.016, 0.016⟩], 6⟩

/-- The second interval is passed over, and the new one is not fired. -/
theorem steward_fires_two : ∃ rounds s₀, Rounds stewardEdits s₀ rounds stewardEvening ∧
    rounds.map (·.timer.id) = [1, 2, 3] ∧ rounds.countP Round.fired = 2 ∧
    tick Place.whole steward 1.5 stewardDay = .ok 2 stewardEvening := by
  obtain ⟨rounds, s₀, s', rfl, hrounds, htimers, -, htick, -, -⟩ :=
    tick_fires_due_survivors Place.whole (fun _ _ ↦ rfl) steward stewardEdits 1.5 stewardDay
  have hrun : tick Place.whole steward 1.5 stewardDay = .ok 2 stewardEvening := rfl
  obtain ⟨hcount, rfl⟩ := EStateM.Result.ok.inj (htick.symm.trans hrun)
  refine ⟨rounds, _, hrounds, ?_, hcount, hrun⟩
  exact (List.map_map.symm.trans (congrArg (List.map Timer.id) htimers)).trans rfl

end ScriptWorkers.Timers
