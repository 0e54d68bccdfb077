import Mathlib.Data.List.Basic
import ScriptWorkers.Proofs.Timing.Pairs
import ScriptWorkers.Proofs.Timing.Record

/-!
# Intervals fire greedily

The times at which an interval fires are chosen from the times of ticks in the simplest way: it
fires at the first tick that is at least a period later than it was added, then at the first one
that is at least a period later than that, and so on.

* `firings` are the times at which an interval fires, `offers` those of the ticks in which it is
  still there when its turn comes, and `greedy` is the choice.
* `Watched` is what is known of an interval that is still there; every step keeps it, so the firings
  of any course are the greedy choice from the offers (`Watched.firings_eq`).
* `intervals_fire_greedily` says this of every interval in every run, with what follows for the
  times between firings, for late ticks, and for intervals that have been removed.
-/

namespace ScriptWorkers.Timers

/-- The times at which the interval fires. -/
def firings (id : UInt32) : List Entry → List Float
  | [] => []
  | .fired j now :: h => if j = id then now :: firings id h else firings id h
  | _ :: h => firings id h

/-- The times of the ticks that begin. -/
def begun : List Entry → List Float
  | [] => []
  | .began now :: h => now :: begun h
  | _ :: h => begun h

/-- The times of the ticks in which the interval is still there when its turn comes.  Its turn comes
when it fires itself, when one of a higher number does, or when the tick ends; `turn` is the time of
the tick that is going on, if it is yet to come in it. -/
def offers (id : UInt32) : Option Float → List Entry → List Float
  | _, [] => []
  | turn, .added _ _ _ :: h => offers id turn h
  | turn, .removed j :: h => if j = id then [] else offers id turn h
  | _, .cleared :: _ => []
  | _, .began now :: h => offers id (some now) h
  | turn, .fired j _ :: h => if id ≤ j then turn.toList ++ offers id none h else offers id turn h
  | turn, .ended :: h => turn.toList ++ offers id none h

/-- Of the times that are offered, each that is at least a period after the one before. -/
def greedy (period : Float) : Float → List Float → List Float
  | _, [] => []
  | last, t :: ts =>
    if last + period ≤ t then t :: greedy period t ts else greedy period last ts

/-! ## The choice -/

/-- The choice is made from the times that are offered. -/
theorem greedy_sublist (period : Float) : ∀ (ts : List Float) (last : Float),
    (greedy period last ts).Sublist ts
  | [], _ => .slnil
  | t :: ts, last => by
    rw [greedy]
    split
    · exact (greedy_sublist period ts t).cons_cons t
    · exact (greedy_sublist period ts last).cons t

/-- Between two of the times that are chosen there is at least a period. -/
theorem isChain_greedy (period : Float) : ∀ (ts : List Float) (last : Float),
    (last :: greedy period last ts).IsChain fun t t' ↦ t + period ≤ t'
  | [], last => .singleton last
  | t :: ts, last => by
    rw [greedy]
    split
    · rename_i hle
      exact .cons_cons hle (isChain_greedy period ts t)
    · exact isChain_greedy period ts last

/-- A time that comes too early is passed over. -/
theorem greedy_of_late {period last : Float} {turn : Option Float} {ts : List Float}
    (h : ∀ t, turn = some t → ¬ last + period ≤ t) :
    greedy period last (turn.toList ++ ts) = greedy period last ts := by
  cases turn with
  | none => rfl
  | some t => exact if_neg (h t rfl)

/-- Turns are offered only in ticks. -/
theorem offers_sublist (id : UInt32) : ∀ (h : List Entry) (turn : Option Float),
    (offers id turn h).Sublist (turn.toList ++ begun h)
  | [], turn => List.nil_sublist _
  | .added _ _ _ :: h, turn => offers_sublist id h turn
  | .removed j :: h, turn => by
    rw [offers]
    split
    · exact List.nil_sublist _
    · exact offers_sublist id h turn
  | .cleared :: _, turn => List.nil_sublist _
  | .began now :: h, turn =>
    (offers_sublist id h (some now)).trans (List.sublist_append_right turn.toList _)
  | .fired j _ :: h, turn => by
    rw [offers]
    split
    · exact (offers_sublist id h none).append_left turn.toList
    · exact offers_sublist id h turn
  | .ended :: h, turn => (offers_sublist id h none).append_left turn.toList

/-! ## An interval on its course -/

variable {c d : Course} {h es : List Entry} {ts : Timers} {id : UInt32} {n : Nat}
  {period last : Float} {turn : Option Float}

/-- The due time of an interval that was added or has fired last at `last`: a period later; but in a
tick that has noted it the due time is that of the next round already. -/
def Due (id : UInt32) (period last due : Float) (turn : Option Float) :
    Option (Float × List Timer) → Prop
  | none => turn = none ∧ due = last + period
  | some (now, noted) =>
    if id ∈ noted.map (·.id) then turn = some now ∧ last + period ≤ now ∧ due = now + period
    else due = last + period ∧ ∀ t, turn = some t → ¬ last + period ≤ t

/-- An interval that is still there. -/
structure Watched (id : UInt32) (period last : Float) (turn : Option Float) (c : Course) :
    Prop where
  kept : ∃ t ∈ c.timers.entries, t.id = id ∧ t.period = period ∧
    Due id period last t.due turn c.tick

/-- What has gone does not come back, as numbers are not given again. -/
theorem contains_step (hs : Sound n c) (hstep : Step c es d) (hn : n + adds es < UInt32.size)
    (hid : id.toNat ≤ n) (hgone : c.timers.contains id = false) : d.timers.contains id = false := by
  rw [← Bool.not_eq_true, contains_iff] at hgone ⊢
  rintro ⟨t, ht, rfl⟩
  cases hstep with
  | edit ts tick e =>
    cases e with
    | add now callback period =>
      have hmem : t ∈ (ts.add now callback period).entries := ht
      rw [hs.entries_add hn now callback period] at hmem
      rcases List.mem_append.1 hmem with hmem | hmem
      · exact hgone ⟨t, hmem, rfl⟩
      · obtain rfl := List.mem_singleton.1 hmem
        have hnext := hs.toNat_next hn
        have : ts.next.toNat ≤ n := hid
        simp only at hnext
        omega
    | remove j => exact hgone ⟨t, (List.mem_filter.1 ht).1, rfl⟩
    | clear => exact absurd ht List.not_mem_nil
  | began ts now =>
    obtain ⟨u, hu, rfl⟩ := List.mem_map.1 ht
    refine hgone ⟨u, hu, ?_⟩
    split <;> rfl
  | passed | fired | ended => exact hgone ⟨t, ht, rfl⟩

/-- An interval that is not there never fires. -/
theorem firings_of_gone (hsteps : Steps c h d) (hs : Sound n c) (hn : n + adds h < UInt32.size)
    (hid : id.toNat ≤ n) (hgone : c.timers.contains id = false) : firings id h = [] := by
  induction hsteps generalizing n with
  | refl => rfl
  | @head c d e es h hstep _ ih =>
    rw [adds_append, ← Nat.add_assoc] at hn
    have hn' : n + adds es < UInt32.size := by omega
    have hrest := ih (hs.step hstep hn') hn (Nat.le_add_right_of_le hid)
      (contains_step hs hstep hn' hid hgone)
    cases hstep with
    | edit ts tick e => cases e <;> exact hrest
    | began | passed | ended => exact hrest
    | @fired ts now t rest hc =>
      have hne : t.id ≠ id := by
        rintro rfl
        exact absurd hc (by simp [hgone])
      exact (if_neg hne).trans hrest

/-! ### Edits -/

theorem contains_of_drops {x : Entry} (hstep : Step c [x] d) (hx : x.drops id) :
    d.timers.contains id = false := by
  rw [← Bool.not_eq_true, contains_iff]
  rintro ⟨t, ht, rfl⟩
  cases hstep with
  | edit ts tick e =>
    cases e with
    | add => exact hx
    | remove j => exact absurd (List.mem_filter.1 ht).2 (by simp [show j = t.id from hx])
    | clear => exact absurd ht List.not_mem_nil
  | began | fired | ended => exact hx

/-- An interval that is gone gets no more turns. -/
theorem offers_of_drops {x : Entry} (hx : x.drops id) : offers id turn (x :: h) = [] := by
  cases x with
  | removed j => exact if_pos hx
  | cleared => rfl
  | added | began | fired | ended => exact hx.elim

theorem firings_edit (e : Edit) : firings id (e.entry ts :: h) = firings id h := by
  cases e <;> rfl

/-- Edits that leave the interval alone offer no turn and take none. -/
theorem offers_edit {e : Edit} (he : ¬ (e.entry ts).drops id) :
    offers id turn (e.entry ts :: h) = offers id turn h := by
  cases e with
  | add => rfl
  | remove j => exact if_neg he
  | clear => exact absurd trivial he

/-- An edit that does not remove the interval leaves it as it is. -/
theorem Watched.edit {e : Edit} (hw : Watched id period last turn c) (hs : Sound n c)
    (hn : n + (e.entry c.timers).adds < UInt32.size) (he : ¬ (e.entry c.timers).drops id) :
    Watched id period last turn ⟨e.apply c.timers, c.tick⟩ := by
  obtain ⟨t, ht, hid, hp, hdue⟩ := hw
  refine ⟨t, ?_, hid, hp, hdue⟩
  cases e with
  | add now callback period =>
    show t ∈ (c.timers.add now callback period).entries
    rw [hs.entries_add hn now callback period]
    exact List.mem_append_left _ ht
  | remove j =>
    have hne : t.id ≠ j := fun h ↦ he (h.symm.trans hid)
    exact List.mem_filter.2 ⟨ht, by simpa using hne⟩
  | clear => exact absurd trivial he

/-! ### Ticks -/

/-- A tick begins: if the interval is due, its turn is to come. -/
theorem Watched.began (hw : Watched id period last turn ⟨ts, none⟩) (hs : Sound n ⟨ts, none⟩)
    (now : Float) :
    Watched id period last (some now) ⟨ts.reschedule now, some (now, ts.dueAt now)⟩ := by
  obtain ⟨t, ht, rfl, rfl, -, hdue⟩ := hw
  have hmem := List.mem_map_of_mem
    (f := fun t ↦ if Timer.isDue now t then { t with due := now + t.period } else t) ht
  by_cases hnow : Timer.isDue now t = true
  · have hnoted : t.id ∈ (ts.dueAt now).map (·.id) :=
      List.mem_map_of_mem (List.mem_filter.2 ⟨ht, hnow⟩)
    rw [if_pos hnow] at hmem
    refine ⟨_, hmem, rfl, rfl, ?_⟩
    rw [Due, if_pos hnoted]
    rw [Timer.isDue, decide_eq_true_eq, hdue] at hnow
    exact ⟨rfl, hnow, rfl⟩
  · have hnoted : t.id ∉ (ts.dueAt now).map (·.id) := by
      intro h
      obtain ⟨u, hu, hid⟩ := List.mem_map.1 h
      obtain ⟨hu, hd⟩ := List.mem_filter.1 hu
      exact hnow (hs.order.eq_of_id hu ht hid ▸ hd)
    rw [if_neg hnow] at hmem
    refine ⟨_, hmem, rfl, rfl, ?_⟩
    rw [Due, if_neg hnoted]
    rw [Timer.isDue, decide_eq_true_eq, hdue] at hnow
    exact ⟨hdue, fun _ h ↦ Option.some.inj h ▸ hnow⟩

section Turns

variable {now : Float} {t : Timer} {rest : List Timer}

/-- Another interval has been noted before it. -/
theorem Watched.next (hw : Watched id period last turn ⟨ts, some (now, t :: rest)⟩)
    (hne : t.id ≠ id) : Watched id period last turn ⟨ts, some (now, rest)⟩ := by
  obtain ⟨u, hu, hid, hp, hdue⟩ := hw
  have hmem : id ∈ (t :: rest).map (·.id) ↔ id ∈ rest.map (·.id) := by
    simp [Ne.symm hne]
  refine ⟨u, hu, hid, hp, ?_⟩
  simpa only [Due, hmem] using hdue

/-- The interval fires itself. -/
theorem Watched.fired (hw : Watched t.id period last turn ⟨ts, some (now, t :: rest)⟩)
    (hs : Sound n ⟨ts, some (now, t :: rest)⟩) : turn = some now ∧ last + period ≤ now ∧
      Watched t.id period now none ⟨ts, some (now, rest)⟩ := by
  obtain ⟨u, hu, hid, hp, hdue⟩ := hw
  rw [Due, if_pos (by simp)] at hdue
  obtain ⟨hturn, hle, hnext⟩ := hdue
  have hlater : t.id ∉ rest.map (·.id) := by
    intro h
    obtain ⟨v, hv, hvid⟩ := List.mem_map.1 h
    have hlt := (List.pairwise_cons.1 (hs.noted _ _ rfl).1).1 v hv
    rw [hvid] at hlt
    exact UInt32.lt_irrefl _ hlt
  refine ⟨hturn, hle, u, hu, hid, hp, ?_⟩
  rw [Due, if_neg hlater]
  exact ⟨hnext, fun _ h ↦ nomatch h⟩

/-- Its turn has come and it does not fire: it was not due. -/
theorem Watched.turned (hw : Watched id period last turn ⟨ts, some (now, rest)⟩)
    (hout : id ∉ rest.map (·.id)) : (∀ t, turn = some t → ¬ last + period ≤ t) ∧
      Watched id period last none ⟨ts, some (now, rest)⟩ := by
  obtain ⟨u, hu, hid, hp, hdue⟩ := hw
  rw [Due, if_neg hout] at hdue
  refine ⟨hdue.2, u, hu, hid, hp, ?_⟩
  rw [Due, if_neg hout]
  exact ⟨hdue.1, fun _ h ↦ nomatch h⟩

/-- A tick ends: the interval has had its turn, or was not due. -/
theorem Watched.ended (hw : Watched id period last turn ⟨ts, some (now, [])⟩) :
    Watched id period last none ⟨ts, none⟩ := by
  obtain ⟨u, hu, hid, hp, hdue⟩ := hw
  rw [Due, if_neg (by simp)] at hdue
  exact ⟨u, hu, hid, hp, rfl, hdue.1⟩

end Turns

/-- The interval fires at the times that are chosen from those offered to it. -/
theorem Watched.firings_eq (hsteps : Steps c h d) (hs : Sound n c) (hn : n + adds h < UInt32.size)
    (hid : id.toNat ≤ n) (hw : Watched id period last turn c) :
    firings id h = greedy period last (offers id turn h) := by
  induction hsteps generalizing n last turn with
  | refl => rfl
  | @head c d e es h hstep hrest ih =>
    rw [adds_append, ← Nat.add_assoc] at hn
    have hn' : n + adds es < UInt32.size := by omega
    have hsound := hs.step hstep hn'
    have hid' : id.toNat ≤ n + adds es := Nat.le_add_right_of_le hid
    cases hstep with
    | edit ts tick e =>
      show firings id (e.entry ts :: h) = greedy period last (offers id turn (e.entry ts :: h))
      rw [firings_edit]
      by_cases hdrops : (e.entry ts).drops id
      · rw [offers_of_drops hdrops]
        exact firings_of_gone hrest hsound hn hid' (contains_of_drops (.edit ts tick e) hdrops)
      · rw [offers_edit hdrops]
        exact ih hsound hn hid' (hw.edit hs hn' hdrops)
    | began ts now => exact ih hsound hn hid' (hw.began hs now)
    | @passed ts now t rest hc =>
      refine ih hsound hn hid' (hw.next ?_)
      rintro rfl
      obtain ⟨u, hu, hu', -⟩ := hw
      exact absurd (contains_iff.2 ⟨u, hu, hu'⟩) (by simp [hc])
    | @fired ts now t rest hc =>
      show firings id (.fired t.id now :: h) =
        greedy period last (offers id turn (.fired t.id now :: h))
      rw [firings, offers]
      by_cases hself : t.id = id
      · subst hself
        obtain ⟨rfl, hle, hw'⟩ := hw.fired hs
        rw [if_pos rfl, if_pos (UInt32.le_refl _), Option.toList_some, List.singleton_append,
          greedy, if_pos hle, ih hsound hn hid' hw']
      · rw [if_neg hself]
        have hw' := hw.next hself
        by_cases hle : id ≤ t.id
        · -- Of those that have been noted, this one would have come first.
          have hout : id ∉ rest.map (·.id) := by
            intro hmem
            obtain ⟨v, hv, rfl⟩ := List.mem_map.1 hmem
            have hlt := (List.pairwise_cons.1 (hs.noted _ _ rfl).1).1 v hv
            exact UInt32.lt_irrefl _ (UInt32.lt_of_lt_of_le hlt hle)
          obtain ⟨hlate, hw''⟩ := hw'.turned hout
          rw [if_pos hle, greedy_of_late hlate]
          exact ih hsound hn hid' hw''
        · rw [if_neg hle]
          exact ih hsound hn hid' hw'
    | ended ts now =>
      show firings id h = greedy period last (turn.toList ++ offers id none h)
      rw [greedy_of_late (hw.turned (by simp)).1]
      exact ih hsound hn hid' hw.ended

/-! ## All intervals -/

/-- What is to be expected of an interval that was added at time `start`, of what comes after
that. -/
structure Punctual (id : UInt32) (start period : Float) (h : List Entry) : Prop where
  /-- It fires in those ticks that come at least a period after it was added or has fired last, as
  long as it is there when its turn comes. -/
  greedy : firings id h = greedy period start (offers id none h)
  /-- From one firing to the next it takes a period at least. -/
  spaced : (start :: firings id h).IsChain fun t t' ↦ t + period ≤ t'
  /-- It fires at most once in a tick. -/
  once : (firings id h).Sublist (begun h)
  /-- It never fires again after it has been removed. -/
  silent : ∀ h₁ x h₂, h = h₁ ++ x :: h₂ → x.drops id → firings id h₂ = []

/-- An interval that has just been added is there, and no tick has noted it. -/
theorem Sound.watched {start : Float} {given : Option Float} (hs : Sound n c)
    (hstep : Step c [.added id start given] d) (hn : n + 1 < UInt32.size) :
    id.toNat ≤ n + 1 ∧ Watched id (effective given) start none d := by
  generalize hes : [Entry.added id start given] = es at hstep
  cases hstep with
  | edit ts tick e =>
    cases e with
    | add now callback given =>
      cases hes
      have hnext : ts.next.toNat = n + 1 := hs.toNat_next hn
      have hentries := hs.entries_add hn start callback given
      refine ⟨Nat.le_of_eq hnext, _, hentries ▸ List.mem_append_right _ List.mem_cons_self, rfl,
        rfl, ?_⟩
      cases tick with
      | none => exact ⟨rfl, rfl⟩
      | some tick =>
        obtain ⟨now, noted⟩ := tick
        have hout : ts.next ∉ noted.map (·.id) := by
          intro hmem
          obtain ⟨v, hv, hid⟩ := List.mem_map.1 hmem
          have hle := (hs.noted _ _ rfl).2 v hv
          rw [hid, hnext] at hle
          omega
        show Due _ _ _ _ none (some (now, noted))
        rw [Due, if_neg hout]
        exact ⟨rfl, fun _ h ↦ nomatch h⟩
    | remove | clear => cases hes
  | began | passed | fired | ended => cases hes

/-- What comes after an interval was added is what is to be expected. -/
theorem Steps.punctual {h₁ h₂ : List Entry} {start : Float} {given : Option Float} (hs : Sound 0 c)
    (hsteps : Steps c (h₁ ++ .added id start given :: h₂) d)
    (hn : adds (h₁ ++ .added id start given :: h₂) < UInt32.size) :
    Punctual id start (effective given) h₂ := by
  obtain ⟨c₁, c₂, hbefore, hadd, hafter⟩ := hsteps.split
  have hcount : adds (h₁ ++ .added id start given :: h₂) = adds h₁ + (1 + adds h₂) :=
    adds_append _ _
  rw [hcount] at hn
  have hs₁ := hs.steps hbefore (by omega)
  have hs₂ : Sound (0 + adds h₁ + 1) c₂ :=
    hs₁.step hadd (by show 0 + adds h₁ + 1 < UInt32.size; omega)
  obtain ⟨hid, hw⟩ := hs₁.watched hadd (by omega)
  have hgreedy := hw.firings_eq hafter hs₂ (by omega) hid
  refine ⟨hgreedy, ?_, ?_, fun h₃ x h₄ heq hdrops ↦ ?_⟩
  · rw [hgreedy]
    exact isChain_greedy _ _ start
  · rw [hgreedy]
    exact (greedy_sublist _ _ start).trans (offers_sublist id h₂ none)
  · subst heq
    obtain ⟨c₃, c₄, hmid, hdrop, hrest⟩ := hafter.split
    rw [adds_append] at hn
    have hx : adds (x :: h₄) = x.adds + adds h₄ := rfl
    have hs₃ := hs₂.steps hmid (by omega)
    have hs₄ := hs₃.step hdrop (by show 0 + adds h₁ + 1 + adds h₃ + x.adds < UInt32.size; omega)
    exact firings_of_gone hrest hs₄
      (by show 0 + adds h₁ + 1 + adds h₃ + x.adds + adds h₄ < UInt32.size; omega) (by omega)
      (contains_of_drops hdrop hdrops)

/-- A given period counts if it is finite and positive; otherwise sixteen milliseconds do. -/
theorem effective_eq (given : Option Float) : effective given =
    given.elim 0.016 fun p ↦ if p.isFinite && p > 0.0 then p else 0.016 := by
  cases given <;> rfl

/-- **Intervals fire greedily.**  Take callbacks that come back and make any edits to the intervals,
and a run of any edits and ticks, at any times.  Each tick returns the number of those that have
fired.  As long as less than 2³² intervals are added, of each of them the times of its firings are
the greedy choice from the times of the ticks that begin after it was added and in which it is still
there when its turn comes, by the period that was given, if it is finite and positive, and by 0.016
seconds otherwise.  So it takes a period at least to the first firing and from each to the next; no
tick fires an interval twice; and an interval that has been removed never fires again. -/
theorem intervals_fire_greedily {σ : Type} (place : Place σ Timers)
    (hplace : ∀ ts s, place.get (place.set ts s) = ts) (callee : Callee σ)
    (ed : Editor place callee) :
    (∀ now s, ∃ h s', ed.record now s = .ok h s' ∧ tick place callee now s = .ok (firedIn h) s') ∧
    ∀ s h s', Lives ed s h s' → place.get s = {} → adds h < UInt32.size →
      ∀ h₁ id start given h₂, h = h₁ ++ .added id start given :: h₂ →
        Punctual id start
          (given.elim 0.016 fun p ↦ if p.isFinite && p > 0.0 then p else 0.016) h₂ := by
  refine ⟨fun now s ↦ ?_, fun s h s' hl hfresh hn h₁ id start given h₂ heq ↦ ?_⟩
  · obtain ⟨h, s', hrecord, htick, -⟩ := ed.run_tick hplace now s
    exact ⟨h, s', hrecord, htick⟩
  · subst heq
    have hsteps := hl.steps hplace
    rw [hfresh] at hsteps
    rw [← effective_eq]
    exact hsteps.punctual sound_fresh hn

/-! ## A janitor -/

/-- A script whose callback 7 removes the second interval. -/
def janitor : Callee Timers where
  call slot _ := do
    if slot = 7 then Place.whole.update (·.remove 2)
    return .ok ()
  log _ := return ()

/-- The edits of that script. -/
def janitorEdits : Editor Place.whole janitor where
  edits slot _ := if slot = 7 then [.remove 2] else []
  call slot s := by
    by_cases h : slot = 7
    · subst h
      exact ⟨_, _, rfl, rfl⟩
    · refine ⟨.ok (), s, ?_, ?_⟩
      · simp only [janitor, if_neg h]
        rfl
      · simp only [if_neg h, List.foldl_nil]
  log _ s := ⟨s, rfl, rfl⟩

/-- Three intervals are added: with a period of a second, with none, and with one that is of no use.
There are three ticks.  The second interval is due in the first one, but it has been removed when
its turn comes. -/
def janitorDay : List Entry :=
  [.added 1 0 (some 1), .added 2 0 none, .added 3 0 (some (-1)),
    .began 1.5, .fired 1 1.5, .removed 2, .fired 3 1.5, .ended,
    .began 2, .fired 3 2, .ended,
    .began 2.5, .fired 1 2.5, .removed 2, .fired 3 2.5, .ended]

theorem lives_janitorDay : ∃ ts, Lives janitorEdits {} janitorDay ts := by
  let all : Timers := ⟨[⟨1, 7, 1, 1⟩, ⟨2, 8, 0.016, 0.016⟩, ⟨3, 9, 0.016, 0.016⟩], 4⟩
  let two (due due' : Float) : Timers := ⟨[⟨1, 7, 1, due⟩, ⟨3, 9, 0.016, due'⟩], 4⟩
  have first : janitorEdits.record 1.5 all =
      .ok [.began 1.5, .fired 1 1.5, .removed 2, .fired 3 1.5, .ended] (two 2.5 (1.5 + 0.016)) :=
    rfl
  have second : janitorEdits.record 2 (two 2.5 (1.5 + 0.016)) =
      .ok [.began 2, .fired 3 2, .ended] (two 2.5 (2 + 0.016)) := rfl
  have third : janitorEdits.record 2.5 (two 2.5 (2 + 0.016)) =
      .ok [.began 2.5, .fired 1 2.5, .removed 2, .fired 3 2.5, .ended] (two 3.5 (2.5 + 0.016)) :=
    rfl
  have added : all =
      [.add 0 7 (some 1), .add 0 8 none, .add 0 9 (some (-1))].foldl Edit.apply {} := rfl
  exact ⟨_, .edits _ added (.tick first (.tick second (.tick third (.done _))))⟩

/-- The first interval fires in the first and in the third tick, the second one never, and the third
one, whose period counts as 0.016 seconds, in every tick. -/
theorem janitor_fires : adds janitorDay = 3 ∧ Punctual 1 0 1 (janitorDay.drop 1) ∧
    Punctual 2 0 0.016 (janitorDay.drop 2) ∧ Punctual 3 0 0.016 (janitorDay.drop 3) ∧
    firings 1 janitorDay = [1.5, 2.5] ∧ firings 2 janitorDay = [] ∧
    firings 3 janitorDay = [1.5, 2, 2.5] := by
  obtain ⟨ts, hl⟩ := lives_janitorDay
  have hday :=
    (intervals_fire_greedily Place.whole (fun _ _ ↦ rfl) janitor janitorEdits).2 _ _ _ hl rfl
    (by decide)
  exact ⟨rfl, hday [] 1 0 (some 1) _ rfl, hday [.added 1 0 (some 1)] 2 0 none _ rfl,
    hday [.added 1 0 (some 1), .added 2 0 none] 3 0 (some (-1)) _ rfl, rfl, rfl, rfl⟩

end ScriptWorkers.Timers
