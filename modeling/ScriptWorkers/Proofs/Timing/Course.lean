import ScriptWorkers.Timers

/-!
# The course of intervals

What happens to the intervals of a context is told by entries, one after the other: an interval
is added or removed, a tick begins, an interval fires, the tick ends.  Between the entries
stands a `Course`: the intervals and, while a tick is going on, those that it has noted and
whose turn has not come yet.

* `Step` says which entries are possible at which course.  Edits are possible at any time, so a
  callback may make any of them.
* `Sound` is kept by every step as long as numbers last: numbers are given in ascending order and
  never again, and intervals are kept and noted in that order.
-/

namespace ScriptWorkers.Timers

/-- What can be done to intervals. -/
inductive Edit where
  /-- Add one, at a time of the clock. -/
  | add (now : Float) (callback : Slot) (period : Option Float)
  | remove (id : UInt32)
  | clear

/-- What has happened to intervals. -/
inductive Entry where
  /-- An interval was added; this is the period that was given, if any was. -/
  | added (id : UInt32) (now : Float) (given : Option Float)
  | removed (id : UInt32)
  | cleared
  /-- A tick has begun. -/
  | began (now : Float)
  /-- An interval has fired in the tick of that time. -/
  | fired (id : UInt32) (now : Float)
  /-- The tick has come to its end. -/
  | ended

/-- The intervals after an edit. -/
def Edit.apply (ts : Timers) : Edit → Timers
  | add now callback period => ts.add now callback period
  | remove id => ts.remove id
  | clear => ts.clear

/-- The entry of an edit. -/
def Edit.entry (ts : Timers) : Edit → Entry
  | add now _ period => .added ts.next now period
  | remove id => .removed id
  | clear => .cleared

/-- The entries of edits, one after the other. -/
def entriesOf (ts : Timers) : List Edit → List Entry
  | [] => []
  | e :: edits => e.entry ts :: entriesOf (e.apply ts) edits

/-- How many intervals the entry adds. -/
def Entry.adds : Entry → Nat
  | added _ _ _ => 1
  | _ => 0

/-- How many intervals are added. -/
def adds (h : List Entry) : Nat := h.foldr (fun x n ↦ x.adds + n) 0

/-- After the entry there is no interval of that number. -/
def Entry.drops (id : UInt32) : Entry → Prop
  | removed j => j = id
  | cleared => True
  | _ => False

/-- Intervals, with the tick that is going on: its time, and what it has noted and not come to. -/
structure Course where
  timers : Timers
  tick : Option (Float × List Timer) := none

/-- What can happen next.  Passing over an interval that is no longer there is no entry. -/
inductive Step : Course → List Entry → Course → Prop where
  | edit (ts : Timers) (tick : Option (Float × List Timer)) (e : Edit) :
    Step ⟨ts, tick⟩ [e.entry ts] ⟨e.apply ts, tick⟩
  | began (ts : Timers) (now : Float) :
    Step ⟨ts, none⟩ [.began now] ⟨ts.reschedule now, some (now, ts.dueAt now)⟩
  | passed {ts : Timers} {now : Float} {t : Timer} {rest : List Timer}
      (h : ts.contains t.id = false) : Step ⟨ts, some (now, t :: rest)⟩ [] ⟨ts, some (now, rest)⟩
  | fired {ts : Timers} {now : Float} {t : Timer} {rest : List Timer}
      (h : ts.contains t.id = true) :
    Step ⟨ts, some (now, t :: rest)⟩ [.fired t.id now] ⟨ts, some (now, rest)⟩
  | ended (ts : Timers) (now : Float) : Step ⟨ts, some (now, [])⟩ [.ended] ⟨ts, none⟩

/-- What can happen, in any number of steps. -/
inductive Steps : Course → List Entry → Course → Prop where
  | refl (c : Course) : Steps c [] c
  | head {c d e : Course} {es h : List Entry} : Step c es d → Steps d h e → Steps c (es ++ h) e

variable {c d e : Course} {h h' es : List Entry} {ts : Timers} {id : UInt32} {n : Nat}

theorem Steps.trans (hc : Steps c h d) (hd : Steps d h' e) : Steps c (h ++ h') e := by
  induction hc with
  | refl => exact hd
  | head hstep _ ih =>
    rw [List.append_assoc]
    exact .head hstep (ih hd)

theorem Step.entries (hs : Step c es d) : es = [] ∨ ∃ x, es = [x] := by
  cases hs with
  | passed => exact .inl rfl
  | edit | began | fired | ended => exact .inr ⟨_, rfl⟩

/-- Every entry was made by some step. -/
theorem Steps.split {x : Entry} (hs : Steps c (h ++ x :: h') e) :
    ∃ d d', Steps c h d ∧ Step d [x] d' ∧ Steps d' h' e := by
  generalize hall : h ++ x :: h' = all at hs
  induction hs generalizing h with
  | refl => exact absurd hall (by simp)
  | @head c d e es tail hstep hrest ih =>
    rcases hstep.entries with rfl | ⟨y, rfl⟩
    · obtain ⟨d₁, d₂, h₁, h₂, h₃⟩ := ih hall
      exact ⟨d₁, d₂, .head hstep h₁, h₂, h₃⟩
    · cases h with
      | nil =>
        obtain ⟨rfl, rfl⟩ : x = y ∧ h' = tail := by simpa using hall
        exact ⟨c, d, .refl c, hstep, hrest⟩
      | cons z h =>
        obtain ⟨rfl, htail⟩ : z = y ∧ h ++ x :: h' = tail := by simpa using hall
        obtain ⟨d₁, d₂, h₁, h₂, h₃⟩ := ih htail
        exact ⟨d₁, d₂, .head hstep h₁, h₂, h₃⟩

/-- Edits one after the other are steps. -/
theorem steps_edits (tick : Option (Float × List Timer)) : ∀ (edits : List Edit) (ts : Timers),
    Steps ⟨ts, tick⟩ (entriesOf ts edits) ⟨edits.foldl Edit.apply ts, tick⟩
  | [], _ => .refl _
  | e :: edits, ts => .head (.edit ts tick e) (steps_edits tick edits (e.apply ts))

/-! ## Numbers -/

/-- Intervals in ascending order of their numbers. -/
def Ordered (l : List Timer) : Prop := l.Pairwise fun t u ↦ t.id < u.id

/-- Intervals are told apart by their numbers. -/
theorem Ordered.eq_of_id {l : List Timer} (ho : Ordered l) {t u : Timer} (ht : t ∈ l) (hu : u ∈ l)
    (h : t.id = u.id) : t = u := by
  have hne : ∀ v w : Timer, v.id < w.id → v.id ≠ w.id := fun v w hlt heq ↦
    UInt32.lt_irrefl w.id (heq ▸ hlt)
  induction ho with
  | nil => cases ht
  | cons hhead _ ih =>
    rcases List.mem_cons.1 ht with rfl | ht'
    · rcases List.mem_cons.1 hu with rfl | hu'
      · rfl
      · exact absurd h (hne _ _ (hhead u hu'))
    · rcases List.mem_cons.1 hu with rfl | hu'
      · exact absurd h.symm (hne _ _ (hhead t ht'))
      · exact ih ht' hu'

/-- An interval with a number above all others is put last. -/
theorem insert_of_lt {t : Timer} : ∀ {l : List Timer}, (∀ u ∈ l, u.id < t.id) →
    insert t l = l ++ [t]
  | [], _ => rfl
  | u :: l, h => by
    have hu : u.id < t.id := h u (by simp)
    have hne : t.id ≠ u.id := fun heq ↦ UInt32.lt_irrefl t.id (heq ▸ hu)
    rw [insert, if_neg (UInt32.lt_asymm hu), if_neg hne, insert_of_lt fun v hv ↦ h v (by simp [hv])]
    rfl

/-- After `n` intervals have been given numbers. -/
structure Sound (n : Nat) (c : Course) : Prop where
  next : c.timers.next = UInt32.ofNat (n + 1)
  order : Ordered c.timers.entries
  given : ∀ t ∈ c.timers.entries, t.id.toNat ≤ n
  noted : ∀ now noted, c.tick = some (now, noted) → Ordered noted ∧ ∀ t ∈ noted, t.id.toNat ≤ n

theorem sound_fresh : Sound 0 ⟨{}, none⟩ where
  next := rfl
  order := .nil
  given _ ht := absurd ht List.not_mem_nil
  noted _ _ h := nomatch h

/-- The next number is a new one. -/
theorem Sound.toNat_next (hs : Sound n c) (hn : n + 1 < UInt32.size) :
    c.timers.next.toNat = n + 1 := by
  rw [hs.next]
  exact UInt32.toNat_ofNat_of_lt' hn

/-- The new interval is put last. -/
theorem Sound.entries_add (hs : Sound n c) (hn : n + 1 < UInt32.size) (now : Float)
    (callback : Slot)
    (period : Option Float) : (c.timers.add now callback period).entries = c.timers.entries ++
      [⟨c.timers.next, callback, effective period, now + effective period⟩] := by
  refine insert_of_lt fun u hu ↦ ?_
  rw [UInt32.lt_iff_toNat_lt]
  have hgiven := hs.given u hu
  have hnext := hs.toNat_next hn
  show u.id.toNat < c.timers.next.toNat
  omega

/-- Every step keeps soundness, as long as numbers last. -/
theorem Sound.step (hs : Sound n c) (hstep : Step c es d) (hn : n + adds es < UInt32.size) :
    Sound (n + adds es) d := by
  cases hstep with
  | edit ts tick e =>
    cases e with
    | add now callback period =>
      have hn' : n + 1 < UInt32.size := hn
      have hentries := hs.entries_add hn' now callback period
      have hnext : ts.next.toNat = n + 1 := hs.toNat_next hn'
      refine ⟨?_, ?_, ?_, fun t noted h ↦ ?_⟩
      · show ts.next + 1 = _
        rw [show ts.next = UInt32.ofNat (n + 1) from hs.next]
        exact (UInt32.ofNat_add (n + 1) 1).symm
      · show Ordered (ts.add now callback period).entries
        rw [hentries]
        refine List.pairwise_append.2 ⟨hs.order, List.pairwise_singleton _ _, fun u hu v hv ↦ ?_⟩
        obtain rfl := List.mem_singleton.1 hv
        rw [UInt32.lt_iff_toNat_lt]
        have hgiven := hs.given u hu
        show u.id.toNat < ts.next.toNat
        omega
      · intro u hu
        have hu' : u ∈ (ts.add now callback period).entries := hu
        show u.id.toNat ≤ n + 1
        rw [hentries] at hu'
        rcases List.mem_append.1 hu' with hu' | hu'
        · exact Nat.le_succ_of_le (hs.given u hu')
        · obtain rfl := List.mem_singleton.1 hu'
          exact Nat.le_of_eq hnext
      · obtain ⟨ho, hg⟩ := hs.noted t noted h
        exact ⟨ho, fun u hu ↦ Nat.le_succ_of_le (hg u hu)⟩
    | remove id =>
      exact ⟨hs.next, hs.order.filter _, fun t ht ↦ hs.given t (List.mem_filter.1 ht).1, hs.noted⟩
    | clear => exact ⟨hs.next, .nil, fun t ht ↦ absurd ht List.not_mem_nil, hs.noted⟩
  | began ts now =>
    have hid (t : Timer) :
        (if Timer.isDue now t then { t with due := now + t.period } else t).id = t.id := by
      split <;> rfl
    refine ⟨hs.next, ?_, ?_, ?_⟩
    · refine List.pairwise_map.2 (hs.order.imp fun {t u} hlt ↦ ?_)
      rw [hid, hid]
      exact hlt
    · intro t ht
      obtain ⟨u, hu, rfl⟩ := List.mem_map.1 ht
      rw [hid]
      exact hs.given u hu
    · rintro _ _ ⟨⟩
      exact ⟨hs.order.filter _, fun t ht ↦ hs.given t (List.mem_filter.1 ht).1⟩
  | passed | fired =>
    refine ⟨hs.next, hs.order, hs.given, ?_⟩
    rintro _ _ ⟨⟩
    obtain ⟨ho, hg⟩ := hs.noted _ _ rfl
    exact ⟨(List.pairwise_cons.1 ho).2, fun t ht ↦ hg t (List.mem_cons_of_mem _ ht)⟩
  | ended => exact ⟨hs.next, hs.order, hs.given, fun _ _ h ↦ nomatch h⟩

theorem adds_append (h h' : List Entry) : adds (h ++ h') = adds h + adds h' := by
  induction h with
  | nil => exact (Nat.zero_add _).symm
  | cons x h ih =>
    show x.adds + adds (h ++ h') = x.adds + adds h + adds h'
    rw [ih, Nat.add_assoc]

/-- By induction on the steps. -/
theorem Sound.steps (hs : Sound n c) (hsteps : Steps c h d) (hn : n + adds h < UInt32.size) :
    Sound (n + adds h) d := by
  induction hsteps generalizing n with
  | refl => exact hs
  | head hstep _ ih =>
    rw [adds_append, ← Nat.add_assoc] at hn ⊢
    exact ih (hs.step hstep (by omega)) hn

end ScriptWorkers.Timers
