import Mathlib.Data.List.Nodup
import ScriptWorkers.Bench.Timers
import ScriptWorkers.Proofs.Timing.Pairs
import ScriptWorkers.Proofs.Trial

/-!
# Numbers of intervals

The number of an interval is what a script knows it by, so it must never come to mean another
interval.  Numbers are given from a counter of 32 bits that starts at one, and an interval is put in
the place of one that has the same number; so all depends on the counter coming round only after 2³²
intervals, the last of which has the number zero.

* `lifetime` is a registry of intervals through operations from outside and ticks, with
  any callbacks.
* `honest_cases` says once and for all what an operation can do; `Kept` is what the diary
  and the intervals have in common, and every change keeps it (`Kept.deal`, `Kept.own`) as
  long as numbers last.
* `Standing` says by the diary alone that an interval has been added and not been removed.  By
  `Kept` these are exactly the intervals that there are.
* `interval_numbers_unique` is what follows for the numbers that are given, for what is added, for
  what has been removed, and for the callbacks that are given back.
-/

namespace ScriptWorkers.Timers

open Trial

/-! ## Trials of intervals with any callbacks -/

/-- The operation fires intervals. -/
def Op.fires : Op → Bool
  | .tick _ | .tickNow => true
  | _ => false

/-- The operation adds an interval. -/
def Op.adds : Op → Bool
  | .add .. => true
  | _ => false

/-- After the operation there is no interval of that number. -/
def Op.drops (id : UInt32) : Op → Bool
  | .remove j => j == id
  | .clear => true
  | _ => false

/-- An operation that a callback may ask for. -/
abbrev Demand := { op : Op // op.fires = false }

/-- Performs what is asked for. -/
def meet (q : Demand) : Run (Bench Setting) Answer := perform [] q.1

/-- What is done to intervals from outside. -/
inductive Turn where
  | ask (q : Demand)
  | tick (time : Float)
  | tickNow

variable {μ : Type}

/-- Takes a turn. -/
def Turn.act (script : Script Demand μ) : Turn → Run (Trial Setting Demand μ) Answer
  | .ask q => serve meet q
  | .tick time => do
    return .count (← Timers.tick (part.within Setting.timersPlace) (callee meet script) time)
  | .tickNow => do
    let now := (← part.read).clock.now
    return .count (← Timers.tick (part.within Setting.timersPlace) (callee meet script) now)

/-- No intervals at first, through a list of turns; the script starts with the memory `m`. -/
def lifetime (script : Script Demand μ) (turns : List Turn) (m : μ) : Trial Setting Demand μ :=
  Trial.run (Turn.act script) turns (Trial.start {} m)

/-- What a tick does to the intervals itself. -/
def Setting.reschedule (now : Float) (s : Setting) : Setting :=
  { s with timers := s.timers.reschedule now }

theorem Setting.pairs_reschedule (now : Float) (s : Setting) :
    (s.reschedule now).timers.pairs = s.timers.pairs :=
  Timers.pairs_reschedule now

/-- A tick has begun. -/
def Rescheduled (s s' : Setting) : Prop := ∃ now, s' = s.reschedule now

theorem meet_steady (q : Demand) (b : Bench Setting) : ∃ a b', meet q b = .ok a b' := by
  obtain ⟨op, hop⟩ := q
  cases op with
  | tick | tickNow => cases hop
  | _ => exact ⟨_, _, rfl⟩

/-- A turn is a story of operations, and of what ticks do themselves. -/
theorem keeps_act (script : Script Demand μ) (turn : Turn) :
    Keeps (told meet Rescheduled) (turn.act script) := by
  have hcallee : (callee meet script).KeepsAll (told meet Rescheduled) :=
    callee_keepsAll meet_steady script
  have htick (now : Float) : Keeps (told meet Rescheduled)
      (Timers.tick (part.within Setting.timersPlace) (callee meet script) now) := by
    intro t
    have hreschedule : Keeps (told meet Rescheduled)
        ((part.within Setting.timersPlace).update
          (·.reschedule now) : Run (Trial Setting Demand μ) Unit) :=
      keeps_own (f := Setting.reschedule now) fun s ↦ ⟨now, rfl⟩
    rw [Timers.tick]
    refine keepsAt_read_bind ((hreschedule t).bind fun _ t₁ _ _ _ ↦ ?_)
    exact keeps_fire hcallee.log (fun u _ s _ ↦ hcallee.call _ _ s) t₁
  intro t
  cases turn with
  | ask q => exact keeps_serve meet_steady q t
  | tick time => exact (htick time t).bind fun _ t₁ _ _ _ ↦ keepsAt_pure _ _ t₁
  | tickNow =>
    exact keepsAt_read_bind ((htick _ t).bind fun _ t₁ _ _ _ ↦ keepsAt_pure _ _ t₁)

/-- The diary of a lifetime tells how the intervals have come about. -/
theorem story_lifetime (script : Script Demand μ) (turns : List Turn) (m : μ) :
    Story meet Rescheduled {} (lifetime script turns m).diary
      (part.get (lifetime script turns m)) :=
  story_run (keeps_act script) turns {} m

/-! ## What an operation does -/

variable {d : Deal Setting Demand} {h : List (Deal Setting Demand)} {ts : Timers} {id : UInt32}
  {cb : Slot}

/-- What an operation does, case by case. -/
theorem honest_cases (hd : Honest meet d) :
    (∃ cb period, d.op.1 = .add cb period ∧ d.answer = .timer d.before.timers.next ∧
      d.after.timers = d.before.timers.add d.before.clock.now cb period) ∨
    (∃ id, d.op.1 = .remove id ∧ d.answer = .slot ((d.before.timers.find? id).map (·.callback)) ∧
      d.after.timers = d.before.timers.remove id) ∨
    (d.op.1 = .clear ∧ d.after.timers = d.before.timers.clear) ∨
    (d.op.1.adds = false ∧ (∀ id, d.op.1.drops id = false) ∧ d.after.timers = d.before.timers) := by
  obtain ⟨before, ⟨op, hop⟩, answer, after⟩ := d
  obtain ⟨b, b', rfl, hrun, rfl⟩ := hd
  cases op with
  | add cb period =>
    cases hrun
    exact .inl ⟨cb, period, rfl, rfl, rfl⟩
  | remove id =>
    cases hrun
    exact .inr (.inl ⟨id, rfl, rfl, rfl⟩)
  | clear =>
    cases hrun
    exact .inr (.inr (.inl ⟨rfl, rfl⟩))
  | contains | advance | set =>
    cases hrun
    exact .inr (.inr (.inr ⟨rfl, fun _ ↦ rfl, rfl⟩))
  | tick | tickNow => cases hop

/-- An operation that adds an interval. -/
theorem after_of_adds (hd : Honest meet d) (hadds : d.op.1.adds = true) : ∃ cb period,
    d.after.timers = d.before.timers.add d.before.clock.now cb period := by
  rcases honest_cases hd with ⟨cb, period, -, -, hafter⟩ | ⟨id, hop, -, -⟩ | ⟨hop, -⟩ |
    ⟨hnone, -, -⟩
  · exact ⟨cb, period, hafter⟩
  · rw [hop] at hadds
    cases hadds
  · rw [hop] at hadds
    cases hadds
  · rw [hnone] at hadds
    cases hadds

/-- The callback of the interval that is removed is given back. -/
theorem after_of_remove {id : UInt32} (hd : Honest meet d) (hop : d.op.1 = .remove id) :
    d.answer = .slot ((d.before.timers.find? id).map (·.callback)) ∧
      d.after.timers = d.before.timers.remove id := by
  rcases honest_cases hd with ⟨cb, period, hop', -, -⟩ | ⟨j, hop', hanswer, hafter⟩ | ⟨hop', -⟩ |
    ⟨-, hnone, -⟩
  · rw [hop] at hop'
    cases hop'
  · rw [hop] at hop'
    cases hop'
    exact ⟨hanswer, hafter⟩
  · rw [hop] at hop'
    cases hop'
  · have hself := hnone id
    rw [hop] at hself
    simp [Op.drops] at hself

/-- The number and the callback of the interval that the operation adds. -/
def gives (d : Deal Setting Demand) : Option (UInt32 × Slot) :=
  match d.op.1, d.answer with
  | .add cb _, .timer id => some (id, cb)
  | _, _ => none

/-- The numbers and the callbacks of all intervals that have been added. -/
def given (h : List (Deal Setting Demand)) : List (UInt32 × Slot) := h.filterMap gives

/-- How many operations add an interval. -/
def additions (h : List (Deal Setting Demand)) : Nat := h.countP (·.op.1.adds)

/-- The interval has been added with this callback, and after that nothing has removed it. -/
def Standing (h : List (Deal Setting Demand)) (id : UInt32) (cb : Slot) : Prop :=
  ∃ h₁ d h₂, h = h₁ ++ d :: h₂ ∧ gives d = some (id, cb) ∧ ∀ e ∈ h₂, e.op.1.drops id = false

theorem gives_of_add {period : Option Float} (hop : d.op.1 = .add cb period)
    (ha : d.answer = .timer id) : gives d = some (id, cb) := by
  rw [gives, hop, ha]

theorem gives_of_not_adds (hop : d.op.1.adds = false) : gives d = none := by
  rw [gives]
  split
  · rename_i heq _
    rw [heq] at hop
    cases hop
  · rfl

/-- An interval stands after an operation that adds it, or if it stood and was not dropped. -/
theorem standing_concat : Standing (h ++ [d]) id cb ↔
    gives d = some (id, cb) ∨ Standing h id cb ∧ d.op.1.drops id = false := by
  constructor
  · rintro ⟨h₁, e, h₂, heq, hgives, hrest⟩
    rcases List.eq_nil_or_concat h₂ with rfl | ⟨h₃, e', rfl⟩
    · obtain ⟨-, rfl⟩ : h = h₁ ∧ d = e := by simpa using List.append_inj' heq rfl
      exact .inl hgives
    · rw [List.concat_eq_append, ← List.cons_append, ← List.append_assoc] at heq
      obtain ⟨rfl, hlast⟩ := List.append_inj' heq rfl
      obtain rfl : d = e' := by simpa using hlast
      refine .inr ⟨⟨h₁, e, h₃, rfl, hgives, fun x hx ↦ hrest x (by simp [hx])⟩, hrest d (by simp)⟩
  · rintro (hgives | ⟨⟨h₁, e, h₂, rfl, hgives, hrest⟩, hd⟩)
    · exact ⟨h, d, [], rfl, hgives, by simp⟩
    · refine ⟨h₁, e, h₂ ++ [d], by simp, hgives, fun x hx ↦ ?_⟩
      rcases List.mem_append.1 hx with hx | hx
      · exact hrest x hx
      · rwa [List.mem_singleton.1 hx]

theorem Standing.mem_given (hs : Standing h id cb) : (id, cb) ∈ given h := by
  obtain ⟨h₁, d, h₂, rfl, hgives, -⟩ := hs
  exact List.mem_filterMap.2 ⟨d, by simp, hgives⟩

/-! ## Numbers as they are given -/

/-- Numbers that are given within one round of the counter are different. -/
theorem ofNat_succ_inj {a b : Nat} (ha : a < UInt32.size) (hb : b < UInt32.size)
    (heq : UInt32.ofNat (a + 1) = UInt32.ofNat (b + 1)) : a = b := by
  have hmod : (a + 1) % UInt32.size = (b + 1) % UInt32.size := by
    simpa using congrArg UInt32.toNat heq
  -- both sums are at most 2³², and of these only the highest comes round
  simp only [UInt32.size] at ha hb hmod
  omega

/-- Up to 2³² numbers, the last of which is zero, are all different. -/
theorem nodup_numbers {n : Nat} (hn : n ≤ UInt32.size) :
    ((List.range n).map fun k ↦ UInt32.ofNat (k + 1)).Nodup := by
  refine List.Nodup.map_on (fun a ha b hb heq ↦ ?_) List.nodup_range
  have ha := List.mem_range.1 ha
  have hb := List.mem_range.1 hb
  exact ofNat_succ_inj (by omega) (by omega) heq

/-- What the diary and the intervals have in common. -/
structure Kept (h : List (Deal Setting Demand)) (ts : Timers) : Prop where
  next : ts.next = UInt32.ofNat (additions h + 1)
  numbers : (given h).map (·.1) = (List.range (additions h)).map fun k ↦ UInt32.ofNat (k + 1)
  distinct : (ts.pairs.map (·.1)).Nodup
  standing : ∀ id cb, (id, cb) ∈ ts.pairs ↔ Standing h id cb

theorem kept_fresh : Kept [] {} where
  next := rfl
  numbers := rfl
  distinct := .nil
  standing id cb := by
    refine ⟨fun hm ↦ absurd hm List.not_mem_nil, ?_⟩
    rintro ⟨h₁, d, h₂, heq, -⟩
    exact absurd heq (by simp)

/-- The next number is that of none of the intervals that have ever been added. -/
theorem Kept.next_fresh (hk : Kept h ts) (hn : additions h < UInt32.size) :
    ts.next ∉ (given h).map (·.1) := by
  rw [hk.numbers, hk.next]
  intro hm
  obtain ⟨k, hmem, heq⟩ := List.mem_map.1 hm
  have hlt := List.mem_range.1 hmem
  have := ofNat_succ_inj (by omega) hn heq
  omega

/-- The next number is not in use. -/
theorem Kept.pairs_ne_next (hk : Kept h ts) (hn : additions h < UInt32.size) :
    ∀ q ∈ ts.pairs, q.1 ≠ ts.next := by
  rintro ⟨id, cb⟩ hq heq
  have hgiven := ((hk.standing id cb).1 hq).mem_given
  exact hk.next_fresh hn (heq ▸ List.mem_map_of_mem hgiven)

/-- What a tick does itself leaves numbers and callbacks alone. -/
theorem Kept.own {s s' : Setting} (hk : Kept h s.timers) (ho : Rescheduled s s') :
    Kept h s'.timers := by
  obtain ⟨now, rfl⟩ := ho
  refine ⟨hk.next, hk.numbers, ?_, fun id cb ↦ ?_⟩
  · rw [Setting.pairs_reschedule]
    exact hk.distinct
  · rw [Setting.pairs_reschedule]
    exact hk.standing id cb

theorem additions_concat (h : List (Deal Setting Demand)) (d : Deal Setting Demand) :
    additions (h ++ [d]) = additions h + if d.op.1.adds then 1 else 0 := by
  rw [additions, List.countP_append, List.countP_singleton]
  rfl

theorem given_concat (h : List (Deal Setting Demand)) (d : Deal Setting Demand) :
    given (h ++ [d]) = given h ++ (gives d).toList := by
  rw [given, List.filterMap_append]
  cases hg : gives d <;> simp [hg, given]

/-- An operation that adds nothing takes away what it drops. -/
theorem Kept.dropped {ts' : Timers} (hk : Kept h ts) (hadds : d.op.1.adds = false)
    (hnext : ts'.next = ts.next) (hsub : ts'.pairs.Sublist ts.pairs)
    (hpairs : ∀ id cb, (id, cb) ∈ ts'.pairs ↔ (id, cb) ∈ ts.pairs ∧ d.op.1.drops id = false) :
    Kept (h ++ [d]) ts' := by
  have hcount : additions (h ++ [d]) = additions h := by
    rw [additions_concat, hadds]
    rfl
  refine ⟨?_, ?_, (hsub.map _).nodup hk.distinct, fun id cb ↦ ?_⟩
  · rw [hcount, hnext, hk.next]
  · rw [hcount, given_concat, gives_of_not_adds hadds, Option.toList_none, List.append_nil,
      hk.numbers]
  · rw [hpairs, hk.standing, standing_concat, gives_of_not_adds hadds]
    simp

/-- An operation that adds an interval adds it to the others. -/
theorem Kept.added {now : Float} {period : Option Float} (hk : Kept h ts)
    (hop : d.op.1 = .add cb period) (hanswer : d.answer = .timer ts.next)
    (hn : additions h < UInt32.size) : Kept (h ++ [d]) (ts.add now cb period) := by
  have hcount : additions (h ++ [d]) = additions h + 1 := by
    rw [additions_concat, hop]
    rfl
  have hgives := gives_of_add hop hanswer
  have hperm : (ts.add now cb period).pairs.Perm ((ts.next, cb) :: ts.pairs) :=
    perm_add (hk.pairs_ne_next hn)
  refine ⟨?_, ?_, ?_, fun id cb' ↦ ?_⟩
  · show ts.next + 1 = _
    rw [hcount, hk.next]
    exact (UInt32.ofNat_add (additions h + 1) 1).symm
  · rw [hcount, given_concat, hgives, List.map_append, hk.numbers, List.range_succ, List.map_append,
      hk.next]
    rfl
  · rw [(hperm.map _).nodup_iff, List.map_cons, List.nodup_cons]
    refine ⟨fun hm ↦ ?_, hk.distinct⟩
    obtain ⟨q, hq, heq⟩ := List.mem_map.1 hm
    exact hk.pairs_ne_next hn q hq heq
  · have hdrops : d.op.1.drops id = false := by
      rw [hop]
      rfl
    rw [hperm.mem_iff, List.mem_cons, hk.standing, standing_concat, hgives, hdrops]
    simp [eq_comm]

/-- Every operation keeps the diary right. -/
theorem Kept.deal (hk : Kept h d.before.timers) (hd : Honest meet d)
    (hn : additions (h ++ [d]) ≤ UInt32.size) : Kept (h ++ [d]) d.after.timers := by
  rcases honest_cases hd with ⟨cb, period, hop, hanswer, hafter⟩ | ⟨id, hop, -, hafter⟩ |
    ⟨hop, hafter⟩ | ⟨hadds, hdrops, hafter⟩
  · rw [hafter]
    refine hk.added hop hanswer ?_
    rw [additions_concat, hop] at hn
    exact hn
  · rw [hafter]
    refine hk.dropped (by rw [hop]; rfl) rfl (pairs_remove ▸ List.filter_sublist) fun j cb ↦ ?_
    rw [pairs_remove, List.mem_filter, hop]
    show _ ∧ (j != id) = true ↔ _ ∧ (id == j) = false
    rw [bne_iff_ne, beq_eq_false_iff_ne, ne_comm]
  · rw [hafter]
    refine hk.dropped (by rw [hop]; rfl) rfl (List.nil_sublist _) fun j cb ↦ ?_
    rw [hop]
    simp [Op.drops, clear, pairs]
  · rw [hafter]
    exact hk.dropped hadds rfl (List.Sublist.refl _) fun j cb ↦ by simp [hdrops j]

/-- As long as numbers last, the diary of a story and the intervals agree. -/
theorem kept_of_story {s : Setting} (hs : Story meet Rescheduled {} h s)
    (hn : additions h ≤ UInt32.size) : Kept h s.timers := by
  induction hs with
  | refl => exact kept_fresh
  | own _ ho ih => exact (ih hn).own ho
  | deal _ hd ih =>
    refine (ih ?_).deal hd hn
    rw [additions_concat] at hn
    omega

/-! ## All lifetimes -/

/-- Of what has been dropped nothing comes back, unless its number is given again. -/
theorem not_contains_of_honest (hd : Honest meet d) (hgives : ∀ cb, gives d ≠ some (id, cb))
    (hc : d.before.timers.contains id = false) : d.after.timers.contains id = false := by
  rw [← Bool.not_eq_true, contains_iff_pairs] at hc ⊢
  rintro ⟨cb, hm⟩
  rcases honest_cases hd with ⟨cb', period, hop, hanswer, hafter⟩ | ⟨j, hop, -, hafter⟩ |
    ⟨hop, hafter⟩ | ⟨-, -, hafter⟩
  · rw [hafter] at hm
    rcases mem_pairs_add hm with heq | hm
    · cases heq
      exact hgives cb (gives_of_add hop hanswer)
    · exact hc ⟨cb, hm⟩
  · rw [hafter, pairs_remove] at hm
    exact hc ⟨cb, (List.mem_filter.1 hm).1⟩
  · rw [hafter] at hm
    cases hm
  · rw [hafter] at hm
    exact hc ⟨cb, hm⟩

/-- What was dropped is there no more. -/
theorem not_contains_of_drops (hd : Honest meet d) (hdrops : d.op.1.drops id = true) :
    d.after.timers.contains id = false := by
  rw [← Bool.not_eq_true, contains_iff_pairs]
  rintro ⟨cb, hm⟩
  rcases honest_cases hd with ⟨cb', period, hop, -, -⟩ | ⟨j, hop, -, hafter⟩ | ⟨hop, hafter⟩ |
    ⟨-, hnone, -⟩
  · rw [hop] at hdrops
    cases hdrops
  · obtain rfl : j = id := by simpa [hop, Op.drops] using hdrops
    rw [hafter, pairs_remove] at hm
    simpa using (List.mem_filter.1 hm).2
  · rw [hafter] at hm
    cases hm
  · rw [hnone] at hdrops
    cases hdrops

/-- An interval that has been dropped is not there in any later state. -/
theorem Kept.gone {h₁ h₂ : List (Deal Setting Demand)} {s : Setting} (hk : Kept h₁ d.before.timers)
    (hc : d.before.timers.contains id = true) (hd : Honest meet d) (hdrops : d.op.1.drops id = true)
    (hs : Story meet Rescheduled d.after h₂ s)
    (hnodup : ((given (h₁ ++ d :: h₂)).map (·.1)).Nodup) :
    ∀ s' ∈ d.after :: seen h₂ s, s'.timers.contains id = false := by
  have hafter := not_contains_of_drops hd hdrops
  obtain ⟨cb, hm⟩ := contains_iff_pairs.1 hc
  have hgiven := ((hk.standing id cb).1 hm).mem_given
  -- its number has been given before, so it is not given again
  have hother (e : Deal Setting Demand) (he : e ∈ h₂) (cb' : Slot) : gives e ≠ some (id, cb') := by
    intro hgives
    rw [given, List.filterMap_append, List.map_append, List.nodup_append] at hnodup
    refine hnodup.2.2 id (List.mem_map_of_mem hgiven) id ?_ rfl
    exact List.mem_map.2 ⟨(id, cb'), List.mem_filterMap.2 ⟨e, List.mem_cons_of_mem d he, hgives⟩,
      rfl⟩
  have hall := (hs.seen (I := fun s ↦ s.timers.contains id = false) (R := fun _ _ ↦ True)
    (fun _ ↦ trivial) (fun _ _ _ _ _ ↦ trivial) (fun {a b} hi ho ↦ ⟨?_, trivial⟩)
    (fun {e} he hi hh ↦ ⟨not_contains_of_honest hh (hother e he) hi, trivial⟩) hafter).1
  · rintro s' (_ | ⟨_, hs'⟩)
    · exact hafter
    · exact hall s' hs'
  · obtain ⟨now, rfl⟩ := ho
    rw [← Bool.not_eq_true, contains_iff_pairs] at hi ⊢
    rwa [Setting.pairs_reschedule]

theorem size_of_added {period : Option Float} {now : Float} (hk : Kept h ts)
    (hn : additions h < UInt32.size) : (ts.add now cb period).size = ts.size + 1 ∧
      ∀ t ∈ ts.entries, t ∈ (ts.add now cb period).entries := by
  have hperm : (ts.add now cb period).entries.Perm
      (⟨ts.next, cb, effective period, now + effective period⟩ :: ts.entries) :=
    perm_insert fun t ht ↦ hk.pairs_ne_next hn (t.id, t.callback) (List.mem_map_of_mem ht)
  exact ⟨hperm.length_eq, fun t ht ↦ hperm.mem_iff.2 (List.mem_cons_of_mem _ ht)⟩

/-- **Numbers of intervals are given once and for all.**  Take any script and any run of operations
and ticks, in which at most 2³² intervals are added, from outside or by callbacks.  Every operation
that adds an interval gives a number, and these numbers are all different.  What is added comes to
what is there already, which stays as it is.  An interval that has been removed is not there in any
later state.  Removing an interval gives back the callback that it was added with if it is still
there, and nothing otherwise, and leaves all others as they are. -/
theorem interval_numbers_unique (script : Script Demand μ) (turns : List Turn) (m : μ)
    (hn : additions (lifetime script turns m).diary ≤ UInt32.size) :
    (given (lifetime script turns m).diary).length = additions (lifetime script turns m).diary ∧
    ((given (lifetime script turns m).diary).map (·.1)).Nodup ∧
    ∀ h₁ d h₂, (lifetime script turns m).diary = h₁ ++ d :: h₂ →
      (d.op.1.adds = true → d.after.timers.size = d.before.timers.size + 1 ∧
        ∀ t ∈ d.before.timers.entries, t ∈ d.after.timers.entries) ∧
      (∀ id, d.op.1.drops id = true → d.before.timers.contains id = true →
        ∀ s ∈ d.after :: seen h₂ (part.get (lifetime script turns m)),
        s.timers.contains id = false) ∧
      (∀ id, d.op.1 = .remove id → ∃ old, d.answer = .slot old ∧
        (∀ cb, old = some cb ↔ Standing h₁ id cb) ∧
        ∀ t, t ∈ d.after.timers.entries ↔ t ∈ d.before.timers.entries ∧ t.id ≠ id) := by
  have hstory := story_lifetime script turns m
  have hkept := kept_of_story hstory hn
  have hnodup : ((given (lifetime script turns m).diary).map (·.1)).Nodup := by
    rw [hkept.numbers]
    exact nodup_numbers hn
  refine ⟨?_, hnodup, fun h₁ d h₂ heq ↦ ?_⟩
  · simpa using congrArg List.length hkept.numbers
  rw [heq] at hstory hn hnodup
  obtain ⟨hbefore, hd, hafter⟩ := hstory.split
  have hn' : additions h₁ + (additions h₂ + if d.op.1.adds then 1 else 0) ≤ UInt32.size := by
    simpa [additions, List.countP_append, List.countP_cons] using hn
  have hk := kept_of_story hbefore (by omega)
  refine ⟨fun hadds ↦ ?_, fun id hdrops hc ↦ hk.gone hc hd hdrops hafter hnodup, fun id hop ↦ ?_⟩
  · rw [if_pos hadds] at hn'
    obtain ⟨cb, period, hadd⟩ := after_of_adds hd hadds
    rw [hadd]
    exact size_of_added hk (by omega)
  · obtain ⟨hanswer, hremove⟩ := after_of_remove hd hop
    refine ⟨_, hanswer, fun cb ↦ ?_, fun t ↦ ?_⟩
    · rw [find?_callback_eq_some_iff hk.distinct, hk.standing]
    · rw [hremove, remove, List.mem_filter, bne_iff_ne]

/-! ## A relay -/

/-- A script whose callback 7 hands over to an interval of its own, removes the first one and fails.
It remembers how often it was called. -/
def baton : Script Demand Nat := fun slot _ calls ↦
  if slot = 7 then
    .ask ⟨.add 8 none, rfl⟩ fun _ ↦ .ask ⟨.remove 1, rfl⟩ fun _ ↦
      .done (calls + 1, .failed (.uncaught "over"))
  else .done (calls + 1, .done)

/-- A tick, and an interval that is added when all others are gone. -/
def batonTurns : List Turn :=
  [.ask ⟨.add 7 (some 1), rfl⟩, .tick 5, .ask ⟨.remove 1, rfl⟩, .ask ⟨.clear, rfl⟩,
    .ask ⟨.add 9 none, rfl⟩]

/-- The three intervals have different numbers.  The first one is removed by its own callback, which
is given back, and is never there again. -/
theorem baton_numbers : given (lifetime baton batonTurns 0).diary = [(1, 7), (2, 8), (3, 9)] ∧
    ((given (lifetime baton batonTurns 0).diary).map (·.1)).Nodup ∧
    ∃ h₁ d h₂, (lifetime baton batonTurns 0).diary = h₁ ++ d :: h₂ ∧ d.op.1 = .remove 1 ∧
      d.answer = .slot (some 7) ∧ Standing h₁ 1 7 ∧
      ∀ s ∈ d.after :: seen h₂ (part.get (lifetime baton batonTurns 0)),
        s.timers.contains 1 = false := by
  obtain ⟨-, hnodup, hall⟩ := interval_numbers_unique baton batonTurns 0 (by decide)
  obtain ⟨h₁, d, h₂, hdiary, hop, hanswer, hc⟩ : ∃ h₁ d h₂,
      (lifetime baton batonTurns 0).diary = h₁ ++ d :: h₂ ∧ d.op.1 = .remove 1 ∧
      d.answer = .slot (some 7) ∧ d.before.timers.contains 1 = true :=
    ⟨[_, _], _, _, rfl, rfl, rfl, rfl⟩
  obtain ⟨-, hgone, hremove⟩ := hall h₁ d h₂ hdiary
  obtain ⟨old, hold, hstanding, -⟩ := hremove 1 hop
  have hdrops : d.op.1.drops 1 = true := by
    rw [hop]
    rfl
  rw [hanswer] at hold
  cases hold
  exact ⟨rfl, hnodup, h₁, d, h₂, hdiary, hop, hanswer, (hstanding 7).1 rfl, hgone 1 hdrops hc⟩

end ScriptWorkers.Timers
