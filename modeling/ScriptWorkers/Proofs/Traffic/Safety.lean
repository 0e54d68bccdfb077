import ScriptWorkers.Proofs.Traffic.Basic

/-!
# What can be relied on, however the threads interleave

Each thing that holds of every interleaving is kept by every single step, for a reason of its own.

* `Move` is what a post can do, seen by itself: `Steps.count` counts its steps, and
  `Course.last_steps` says which are left to it once the mailbox is closed.
* `Doors`: the mailbox is closed after some `close` was called and before any has returned.
* `Ledger`: the messages that have arrived are those that were consumed and those that are there.
* `Turns`: a thread posts one message after the other.

`posts_safe_in_every_interleaving` puts them together.
-/

namespace ScriptWorkers

namespace Traffic

variable {t t' t₁ t₂ : Traffic} {e : Sighting} {h h' : List Sighting} {p q : Post} {x y : Progress}

/-! ## What one post does -/

/-- A step of one post, and how far it gets by it. -/
inductive Move (p : Post) : Progress → Sighting → Progress → Prop
  | called : Move p .ahead (.called p) .looking
  | dropped : Move p .looking (.dropped p) (.leaving false)
  | passed : Move p .looking (.passed p) .reaching
  | waited : Move p .reaching (.waited p) .looking
  | appended : Move p .reaching (.appended p) (.leaving true)
  | returned (kept : Bool) : Move p (.leaving kept) (.returned p) (.finished kept)

/-- Steps of one post, one after the other. -/
inductive Course (p : Post) : Progress → List Sighting → Progress → Prop
  | nil (x : Progress) : Course p x [] x
  | cons {x y z : Progress} {e : Sighting} {w : List Sighting} : Move p x e y → Course p y w z →
    Course p x (e :: w) z

theorem move_set (hp : Move q (t.progress q) e x) (he : e.post = some q) :
    e.post = some p ∧ Move p (t.progress p) e ((t.set q x).progress p) ∨
      e.post ≠ some p ∧ (t.set q x).progress p = t.progress p := by
  by_cases hq : p = q
  · subst hq
    rw [progress_set_self]
    exact .inl ⟨he, hp⟩
  · refine .inr ⟨?_, progress_set_ne hq⟩
    rw [he]
    exact fun h ↦ hq (Option.some.inj h).symm

/-- A step is a step of the post, or the post stays where it is. -/
theorem Step.move (hs : Step t e t') (p : Post) :
    e.post = some p ∧ Move p (t.progress p) e (t'.progress p) ∨
      e.post ≠ some p ∧ t'.progress p = t.progress p := by
  cases hs with
  | called hp => exact move_set (by rw [hp.1]; exact .called) rfl
  | dropped hp => exact move_set (by rw [hp]; exact .dropped) rfl
  | passed hp => exact move_set (by rw [hp]; exact .passed) rfl
  | waited hp => exact move_set (by rw [hp]; exact .waited) rfl
  | @appended q hp => exact move_set (t := t.append q) (by rw [append, hp]; exact .appended) rfl
  | returned hp => exact move_set (by rw [hp]; exact .returned _) rfl
  | locked | taken | stopped | unlocked | listened | closeCalled | closeStored | closeReturned =>
    exact .inr ⟨by simp [Sighting.post], rfl⟩

/-- What is seen of a post is a course of it. -/
theorem Steps.course (hs : Steps t h t') (p : Post) :
    Course p (t.progress p) (steps p h) (t'.progress p) := by
  induction hs with
  | nil => exact .nil _
  | cons hstep _ ih =>
    rw [steps, List.filter_cons]
    rcases hstep.move p with ⟨he, hmove⟩ | ⟨he, hsame⟩
    · rw [if_pos (decide_eq_true he)]
      exact .cons hmove ih
    · rw [if_neg (by simpa using he), ← hsame]
      exact ih

/-- Of the steps of a post, `o` is the one by which `seen` becomes true. -/
structure Marks (p : Post) (o : Sighting) (seen : Progress → Bool) : Prop where
  own : o.post = some p
  start : seen .ahead = false
  move : ∀ {x y : Progress} {e : Sighting}, Move p x e y →
    (seen y).toNat = (seen x).toNat + if e = o then 1 else 0

section Counts

variable {o : Sighting} {seen : Progress → Bool}

/-- By induction on the course. -/
theorem Course.balance {w : List Sighting} (hm : Marks p o seen) (hc : Course p x w y) :
    (seen y).toNat = (seen x).toNat + w.count o := by
  induction hc with
  | nil => rfl
  | cons hmove _ ih =>
    rw [ih, hm.move hmove, List.count_cons]
    simp only [beq_iff_eq]
    omega

/-- How often a step was made can be told from how far the post has got. -/
theorem Steps.count (hs : Steps {} h t) (hm : Marks p o seen) :
    h.count o = (seen (t.progress p)).toNat := by
  have hbalance := (hs.course p).balance hm
  have hahead : (seen (({} : Traffic).progress p)).toNat = 0 := by
    rw [hm.start]
    rfl
  rw [hahead, Nat.zero_add, count_steps hm.own] at hbalance
  exact hbalance.symm

end Counts

theorem marks_called : Marks p (.called p) Progress.called :=
  ⟨rfl, rfl, fun hm ↦ by cases hm <;> simp [Progress.called]⟩

theorem marks_appended : Marks p (.appended p) (Progress.met true) :=
  ⟨rfl, rfl, fun hm ↦ by cases hm <;> simp [Progress.met]⟩

theorem marks_dropped : Marks p (.dropped p) (Progress.met false) :=
  ⟨rfl, rfl, fun hm ↦ by cases hm <;> simp [Progress.met]⟩

theorem marks_returned : Marks p (.returned p) Progress.returned :=
  ⟨rfl, rfl, fun hm ↦ by cases hm <;> simp [Progress.returned]⟩

/-! ## A closed mailbox -/

/-- A closed mailbox stays closed. -/
theorem Step.closed (hs : Step t e t') (hc : t.box.closed = true) : t'.box.closed = true := by
  cases hs with
  | closeStored => rfl
  | called | dropped | passed | waited | appended | returned | locked | taken | stopped | unlocked
  | listened | closeCalled | closeReturned => exact hc

/-- Nobody finds a closed mailbox open. -/
theorem Steps.not_passed (hs : Steps t h t') (hc : t.box.closed = true) : .passed p ∉ h := by
  induction hs with
  | nil => exact List.not_mem_nil
  | cons hstep _ ih =>
    refine List.not_mem_cons_of_ne_of_not_mem ?_ (ih (hstep.closed hc))
    rintro rfl
    cases hstep with
    | passed _ ho =>
      rw [hc] at ho
      cases ho

/-- What a post does when it does not find the mailbox open any more. -/
def lastSteps (p : Post) : Progress → List (List Sighting)
  | .ahead => [[.called p, .dropped p, .returned p]]
  | .looking => [[.dropped p, .returned p]]
  | .reaching => [[.appended p, .returned p], [.waited p, .dropped p, .returned p]]
  | .leaving _ => [[.returned p]]
  | .finished _ => [[]]

/-- By induction on the course. -/
theorem Course.last_steps {w : List Sighting} (hc : Course p x w y) (hw : .passed p ∉ w) :
    ∃ v ∈ lastSteps p x, w <+: v := by
  induction hc with
  | nil x => cases x <;> simp [lastSteps]
  | cons hm _ ih =>
    obtain ⟨v, hv, hprefix⟩ := ih fun h ↦ hw (List.mem_cons_of_mem _ h)
    refine ⟨_ :: v, ?_, List.cons_prefix_cons.2 ⟨rfl, hprefix⟩⟩
    cases hm with
    | passed => exact absurd List.mem_cons_self hw
    | called | dropped | waited | appended | returned => simp_all [lastSteps]

/-- Once the mailbox is closed, a post has few steps left. -/
theorem Steps.last_steps (hs : Steps t h t') (hc : t.box.closed = true) (p : Post) :
    ∃ v ∈ lastSteps p (t.progress p), steps p h <+: v :=
  (hs.course p).last_steps fun hmem ↦ hs.not_passed hc (List.mem_filter.1 hmem).1

/-- Among them is at most one try for the lock. -/
theorem tries_of_lastSteps {v : List Sighting} (hv : v ∈ lastSteps p x) :
    v.count (.waited p) + v.count (.appended p) ≤ 1 ∧ v.length ≤ 3 := by
  cases x <;> simp only [lastSteps, List.mem_cons, List.not_mem_nil, or_false] at hv
  case reaching => rcases hv with rfl | rfl <;> simp
  all_goals subst hv; simp

/-- The flag is set after some `close` was called, and before any has returned. -/
structure Doors (h : List Sighting) (t : Traffic) : Prop where
  called : 0 < t.closing ∨ t.box.closed = true → .closeCalled ∈ h
  stored : 0 < t.shut ∨ .closeReturned ∈ h → t.box.closed = true

theorem Doors.same (hd : Doors h t) (hclosing : t'.closing = t.closing) (hshut : t'.shut = t.shut)
    (hclosed : t'.box.closed = t.box.closed) (he : e ≠ .closeReturned) : Doors (h ++ [e]) t' := by
  constructor
  · intro hc
    rw [hclosing, hclosed] at hc
    exact List.mem_append_left _ (hd.called hc)
  · intro hc
    rw [hshut] at hc
    rw [hclosed]
    exact hd.stored (hc.imp_right fun hmem ↦ by simpa [he.symm] using hmem)

/-- Every step keeps the doors. -/
theorem Doors.step (hd : Doors h t) (hs : Step t e t') : Doors (h ++ [e]) t' := by
  cases hs with
  | closeCalled => exact ⟨fun _ ↦ by simp, fun hc ↦ hd.stored (by simpa using hc)⟩
  | closeStored hn =>
    have hcalled := hd.called (.inl (hn ▸ Nat.succ_pos _))
    exact ⟨fun _ ↦ List.mem_append_left _ hcalled, fun _ ↦ rfl⟩
  | closeReturned hn =>
    have hstored := hd.stored (.inl (hn ▸ Nat.succ_pos _))
    exact ⟨fun hc ↦ List.mem_append_left _ (hd.called hc), fun _ ↦ hstored⟩
  | called | dropped | passed | waited | appended | returned | locked | taken | stopped | unlocked
  | listened => exact hd.same rfl rfl rfl (by simp)

theorem Steps.doors (hs : Steps {} h t) : Doors h t :=
  hs.invariant ⟨by simp, by simp⟩ Doors.step

/-! ## What arrives and what is consumed -/

/-- What has arrived was consumed, or is there.  What a drain has consumed is there until it
ends. -/
structure Ledger (h : List Sighting) (t : Traffic) : Prop where
  holds : Holds t.box t.posts
  flow : ∃ gone, arrivals h = gone ++ t.posts ∧ consumed h = gone ++ t.posts.take t.draining.count

theorem Ledger.same (hl : Ledger h t) (hbox : Holds t'.box t.posts) (hposts : t'.posts = t.posts)
    (hcount : t'.draining.count = t.draining.count) (ha : arrivals [e] = [])
    (hc : consumed [e] = []) : Ledger (h ++ [e]) t' := by
  obtain ⟨gone, harrivals, hconsumed⟩ := hl.flow
  refine ⟨hposts ▸ hbox, gone, ?_, ?_⟩
  · rw [arrivals_append, ha, List.append_nil, hposts, harrivals]
  · rw [consumed_append, hc, List.append_nil, hposts, hcount, hconsumed]

/-- A message arrives at the end. -/
theorem Ledger.arrive (hl : Ledger h t) (p : Post) (hoff : t.draining = .off) :
    Ledger (h ++ [.appended p]) ((t.append p).set p (.leaving true)) := by
  obtain ⟨gone, harrivals, hconsumed⟩ := hl.flow
  refine ⟨⟨?_, hl.holds.waiting⟩, gone, ?_, ?_⟩
  · show t.box.items ++ [p.message] = (t.posts ++ [p]).map (·.message)
    rw [hl.holds.items, List.map_append, List.map_singleton]
  · show arrivals (h ++ [.appended p]) = gone ++ (t.posts ++ [p])
    rw [arrivals_append, harrivals, List.append_assoc]
    rfl
  · show consumed (h ++ [.appended p]) = gone ++ (t.posts ++ [p]).take t.draining.count
    rw [consumed_append, hconsumed, hoff]
    exact List.append_nil _

/-- A message is consumed and stays until the drain ends. -/
theorem Ledger.take {slot : Slot} {n : Nat} (hl : Ledger h t) (hd : t.draining = .walking n)
    (hp : t.posts[n]? = some p) :
    Ledger (h ++ [.taken p slot]) { t with draining := .walking (n + 1) } := by
  obtain ⟨gone, harrivals, hconsumed⟩ := hl.flow
  refine ⟨hl.holds, gone, ?_, ?_⟩
  · rw [arrivals_append, harrivals]
    exact List.append_nil _
  · show consumed (h ++ [.taken p slot]) = gone ++ t.posts.take (n + 1)
    rw [consumed_append, hconsumed, hd, List.take_add_one, hp, List.append_assoc]
    rfl

/-- What the drain has consumed joins what is gone. -/
theorem Ledger.unlock {n : Nat} (hl : Ledger h t) (hd : t.draining = .ending n) :
    Ledger (h ++ [.unlocked])
      { t with box := t.box.settle n, posts := t.posts.drop n, draining := .off } := by
  obtain ⟨gone, harrivals, hconsumed⟩ := hl.flow
  refine ⟨⟨?_, rfl⟩, gone ++ t.posts.take n, ?_, ?_⟩
  · show t.box.items.drop n ++ t.box.waiting = (t.posts.drop n).map (·.message)
    rw [hl.holds.items, hl.holds.waiting, List.append_nil, List.map_drop]
  · show arrivals (h ++ [.unlocked]) = gone ++ t.posts.take n ++ t.posts.drop n
    rw [arrivals_append, harrivals, List.append_assoc gone (t.posts.take n), List.take_append_drop]
    exact List.append_nil _
  · show consumed (h ++ [.unlocked]) = gone ++ t.posts.take n ++ []
    rw [consumed_append, hconsumed, hd]
    rfl

/-- Every step keeps the ledger. -/
theorem Ledger.step (hl : Ledger h t) (hs : Step t e t') : Ledger (h ++ [e]) t' := by
  cases hs with
  | called | dropped | passed | waited | returned | closeCalled | closeReturned =>
    exact hl.same hl.holds rfl rfl rfl rfl
  | appended _ hoff => exact hl.arrive _ hoff
  | locked hd | stopped hd => exact hl.same hl.holds rfl (by rw [hd]; rfl) rfl rfl
  | taken hd hp => exact hl.take hd hp
  | unlocked hd => exact hl.unlock hd
  | listened => exact hl.same ⟨hl.holds.items, hl.holds.waiting⟩ rfl rfl rfl rfl
  | closeStored => exact hl.same ⟨hl.holds.items, rfl⟩ rfl rfl rfl rfl

theorem Steps.ledger (hs : Steps {} h t) : Ledger h t :=
  hs.invariant ⟨⟨rfl, rfl⟩, [], rfl, rfl⟩ Ledger.step

/-- What is then in the mailbox, when nobody drains it. -/
def buffer (h : List Sighting) : List Post := (arrivals h).drop (consumed h).length

theorem Ledger.buffer (hl : Ledger h t) (hoff : t.draining = .off) : buffer h = t.posts := by
  obtain ⟨gone, harrivals, hconsumed⟩ := hl.flow
  have hgone : consumed h = gone := by
    rw [hconsumed, hoff]
    exact List.append_nil _
  rw [Traffic.buffer, harrivals, hgone, List.drop_left]

/-- Messages are consumed in the order in which they arrive. -/
theorem Ledger.consumed_prefix (hl : Ledger h t) : consumed h <+: arrivals h := by
  obtain ⟨gone, harrivals, hconsumed⟩ := hl.flow
  rw [harrivals, hconsumed]
  exact List.prefix_append_right_inj gone |>.2 (List.take_prefix _ _)

/-- As long as a drain keeps the lock, what it consumes comes from what was there at its start. -/
def Batch (ps : List Post) (h : List Sighting) (t : Traffic) : Prop :=
  .unlocked ∉ h → t.draining ≠ .off ∧ t.posts = ps ∧ consumed h = ps.take t.draining.count

/-- Nothing arrives as long as the drain keeps the lock. -/
theorem Batch.step {ps : List Post} (hb : Batch ps h t) (hs : Step t e t') :
    Batch ps (h ++ [e]) t' := by
  intro hnot
  have hnot' : .unlocked ∉ h ∧ .unlocked ≠ e := by simpa using hnot
  obtain ⟨hon, hposts, hconsumed⟩ := hb hnot'.1
  rw [consumed_append, hconsumed]
  cases hs with
  | called | dropped | passed | waited | returned | listened | closeCalled | closeStored
  | closeReturned => exact ⟨hon, hposts, List.append_nil _⟩
  -- nobody gets in while the drain has the lock
  | appended _ hoff | locked hoff => exact absurd hoff hon
  | taken hd hp =>
    refine ⟨by simp, hposts, ?_⟩
    rw [hposts] at hp
    show _ = ps.take (_ + 1)
    rw [hd, List.take_add_one, hp]
    rfl
  | stopped hd =>
    refine ⟨by simp, hposts, ?_⟩
    rw [hd]
    exact List.append_nil _
  | unlocked => exact absurd rfl hnot'.2

theorem Steps.batch (hs : Steps t h t') (hd : t.draining = .walking 0) : Batch t.posts h t' :=
  hs.invariant (fun _ ↦ ⟨by simp [hd], rfl, by rw [hd]; rfl⟩) Batch.step

/-! ## The order in which a thread posts -/

/-- The posts of one thread. -/
def ofThread (thread : Nat) : List Post → List Post := List.filter fun p ↦ p.thread == thread

/-- A thread posts one message after the other: what has arrived from it did so in the order of its
calls, and the post about which nothing is decided is the latest call. -/
structure Turns (h : List Sighting) (t : Traffic) : Prop where
  alone : ∀ p q, p.thread = q.thread → (t.progress p).active = true → (t.progress q).active = true →
    p = q
  sorted : ∀ thread, (ofThread thread (arrivals h)).Sublist (ofThread thread (calls h))
  latest : ∀ p, (t.progress p).undecided = true → ∃ before,
    ofThread p.thread (calls h) = before ++ [p] ∧ (ofThread p.thread (arrivals h)).Sublist before

theorem active_of_undecided (hx : x.undecided = true) : x.active = true := by
  cases x <;> simp_all [Progress.undecided, Progress.active]

theorem ofThread_append_self (ps : List Post) (p : Post) :
    ofThread p.thread (ps ++ [p]) = ofThread p.thread ps ++ [p] := by
  simp [ofThread]

theorem ofThread_append_ne {thread : Nat} (ps : List Post) (hp : p.thread ≠ thread) :
    ofThread thread (ps ++ [p]) = ofThread thread ps := by
  simp [ofThread, hp]

theorem Turns.same (ht : Turns h t)
    (hactive : ∀ p, (t'.progress p).active = true → (t.progress p).active = true)
    (hundecided : ∀ p, (t'.progress p).undecided = true → (t.progress p).undecided = true)
    (hc : calls [e] = []) (ha : arrivals [e] = []) : Turns (h ++ [e]) t' := by
  have hcalls : calls (h ++ [e]) = calls h := by rw [calls_append, hc, List.append_nil]
  have harrivals : arrivals (h ++ [e]) = arrivals h := by rw [arrivals_append, ha, List.append_nil]
  refine ⟨fun p q hpq hp hq ↦ ht.alone p q hpq (hactive p hp) (hactive q hq), ?_, ?_⟩
  · rw [hcalls, harrivals]
    exact ht.sorted
  · rw [hcalls, harrivals]
    exact fun p hp ↦ ht.latest p (hundecided p hp)

/-- A post that is under way takes a step that is neither its call nor the arrival of its
message. -/
theorem Turns.advance (ht : Turns h t) (hactive : x.active = true → (t.progress p).active = true)
    (hundecided : x.undecided = true → (t.progress p).undecided = true)
    (hc : calls [e] = []) (ha : arrivals [e] = []) : Turns (h ++ [e]) (t.set p x) := by
  have hother {P : Progress → Bool} (hP : P x = true → P (t.progress p) = true) (q : Post)
      (hq : P ((t.set p x).progress q) = true) : P (t.progress q) = true := by
    by_cases he : q = p
    · subst he
      rw [progress_set_self] at hq
      exact hP hq
    · rwa [progress_set_ne he] at hq
  exact ht.same (hother hactive) (hother hundecided) hc ha

/-- A thread calls only when its post before has returned. -/
theorem Turns.call (ht : Turns h t) (hp : t.Ready p) :
    Turns (h ++ [.called p]) (t.set p .looking) := by
  have hcalls : calls (h ++ [.called p]) = calls h ++ [p] := calls_append
  have harrivals : arrivals (h ++ [.called p]) = arrivals h := by
    rw [arrivals_append]
    exact List.append_nil _
  have hself (q : Post) (hq : ((t.set p .looking).progress q).active = true)
      (hthread : q.thread = p.thread) : q = p := by
    by_cases he : q = p
    · exact he
    · rw [progress_set_ne he, hp.2 q hthread] at hq
      cases hq
  refine ⟨fun q r hqr hq hr ↦ ?_, fun thread ↦ ?_, fun q hq ↦ ?_⟩
  · by_cases hthread : q.thread = p.thread
    · rw [hself q hq hthread, hself r hr (hqr ▸ hthread)]
    · rw [progress_set_ne (mt (congrArg Post.thread) hthread)] at hq
      rw [progress_set_ne (mt (congrArg Post.thread) (hqr ▸ hthread))] at hr
      exact ht.alone q r hqr hq hr
  · rw [hcalls, harrivals]
    exact (ht.sorted thread).trans ((List.sublist_append_left _ _).filter _)
  · rw [hcalls, harrivals]
    by_cases hthread : q.thread = p.thread
    · obtain rfl := hself q (active_of_undecided hq) hthread
      exact ⟨_, ofThread_append_self _ _, ht.sorted _⟩
    · rw [progress_set_ne (mt (congrArg Post.thread) hthread)] at hq
      rw [ofThread_append_ne _ (Ne.symm hthread)]
      exact ht.latest q hq

/-- The post that is going on is the last one of its thread. -/
theorem Turns.arrive (ht : Turns h t) (hp : t.progress p = .reaching) :
    Turns (h ++ [.appended p]) ((t.append p).set p (.leaving true)) := by
  have hcalls : calls (h ++ [.appended p]) = calls h := by
    rw [calls_append]
    exact List.append_nil _
  have harrivals : arrivals (h ++ [.appended p]) = arrivals h ++ [p] := arrivals_append
  have hactive (q : Post) (hq : (((t.append p).set p (.leaving true)).progress q).active = true) :
      (t.progress q).active = true := by
    by_cases he : q = p
    · rw [he, hp]
      rfl
    · rwa [progress_set_ne he] at hq
  refine ⟨fun q r hqr hq hr ↦ ht.alone q r hqr (hactive q hq) (hactive r hr), fun thread ↦ ?_,
    fun q hq ↦ ?_⟩
  · rw [hcalls, harrivals]
    by_cases hthread : p.thread = thread
    · subst hthread
      obtain ⟨before, hlast, hsub⟩ := ht.latest p (by rw [hp]; rfl)
      rw [ofThread_append_self, hlast]
      exact hsub.append_right [p]
    · rw [ofThread_append_ne _ hthread]
      exact ht.sorted thread
  · -- no other post of that thread is under way, so an undecided one belongs to another thread
    have hne : q ≠ p := by
      rintro rfl
      rw [progress_set_self] at hq
      cases hq
    have hthread : p.thread ≠ q.thread := fun hthread ↦ hne (ht.alone q p hthread.symm
      (hactive q (active_of_undecided hq)) (by rw [hp]; rfl))
    rw [progress_set_ne hne] at hq
    rw [hcalls, harrivals, ofThread_append_ne _ hthread]
    exact ht.latest q hq

/-- Every step keeps the order. -/
theorem Turns.step (ht : Turns h t) (hs : Step t e t') : Turns (h ++ [e]) t' := by
  cases hs with
  | called hp => exact ht.call hp
  | dropped hp | passed hp | waited hp | returned hp =>
    exact ht.advance (by simp [hp, Progress.active]) (by simp [hp, Progress.undecided]) rfl rfl
  | appended hp => exact ht.arrive hp
  | locked | taken | stopped | unlocked | listened | closeCalled | closeStored | closeReturned =>
    exact ht.same (fun _ ↦ id) (fun _ ↦ id) rfl rfl

theorem Steps.turns (hs : Steps {} h t) : Turns h t :=
  hs.invariant ⟨by simp [Progress.active], fun _ ↦ List.Sublist.refl _,
    by simp [Progress.undecided]⟩
    Turns.step

/-! ## Every interleaving -/

/-- A post that has not returned has a next step, whoever holds the lock. -/
theorem exists_step (hp : (t.progress p).active = true) :
    ∃ e t', e.post = some p ∧ Step t e t' := by
  cases hx : t.progress p with
  | ahead | finished => simp [hx, Progress.active] at hp
  | looking =>
    cases hc : t.box.closed with
    | true => exact ⟨_, _, rfl, .dropped hx hc⟩
    | false => exact ⟨_, _, rfl, .passed hx hc⟩
  | reaching => exact ⟨_, _, rfl, .waited hx⟩
  | leaving => exact ⟨_, _, rfl, .returned hx⟩

/-- Once the mailbox is closed, a post can return while nobody else does anything. -/
theorem exists_return (hp : (t.progress p).active = true) (hc : t.box.closed = true) :
    ∃ h t', Steps t h t' ∧ (∀ e ∈ h, e.post = some p) ∧ .returned p ∈ h := by
  have hlooking {t : Traffic} (hx : t.progress p = .looking) (hc : t.box.closed = true) :
      Steps t [.dropped p, .returned p] ((t.set p (.leaving false)).set p (.finished false)) :=
    .cons (.dropped hx hc) (.single (.returned progress_set_self))
  cases hx : t.progress p with
  | ahead | finished => simp [hx, Progress.active] at hp
  | looking => exact ⟨_, _, hlooking hx hc, by simp [Sighting.post], by simp⟩
  | reaching =>
    exact ⟨_, _, .cons (.waited hx) (hlooking progress_set_self hc), by simp [Sighting.post],
      by simp⟩
  | leaving => exact ⟨_, _, .single (.returned hx), by simp [Sighting.post], by simp⟩

/-- What a bystander finds. -/
structure Orderly (h : List Sighting) : Prop where
  /-- A post appends its message once or drops it, never both. -/
  once : ∀ p, h.count (.appended p) + h.count (.dropped p) ≤ 1
  /-- A post that has returned has done one of them. -/
  decided : ∀ p, .returned p ∈ h → h.count (.appended p) + h.count (.dropped p) = 1
  /-- A post that returns before any `close` is called has appended its message. -/
  early : ∀ p h₁ h₂, h = h₁ ++ .returned p :: h₂ → .closeCalled ∉ h₁ → .appended p ∈ h₁
  /-- A post that is called after some `close` has returned drops its message. -/
  late : ∀ p h₁ h₂, h = h₁ ++ .called p :: h₂ → .closeReturned ∈ h₁ →
    .appended p ∉ h ∧ (.returned p ∈ h → .dropped p ∈ h)
  /-- Messages are consumed in the order of their arrival. -/
  fifo : consumed h <+: arrivals h
  /-- Messages of one thread are consumed in the order in which it has posted them. -/
  order : ∀ thread, (ofThread thread (consumed h)).Sublist (ofThread thread (calls h))
  /-- A drain consumes only messages that were there when it got the lock. -/
  batch : ∀ h₁ h₂ h₃, h = h₁ ++ .locked :: (h₂ ++ h₃) → .unlocked ∉ h₂ → consumed h₂ <+: buffer h₁
  /-- Once the flag is set, a post tries for the lock at most once, and has three
  steps left at most. -/
  released : ∀ p h₁ h₂, h = h₁ ++ .closeStored :: h₂ →
    h₂.count (.waited p) + h₂.count (.appended p) ≤ 1 ∧ (steps p h₂).length ≤ 3

section Runs

variable {h₁ h₂ h₃ : List Sighting}

/-- A message is appended or dropped at most once. -/
theorem Steps.once (hs : Steps {} h t) (p : Post) :
    h.count (.appended p) + h.count (.dropped p) ≤ 1 := by
  rw [hs.count marks_appended, hs.count marks_dropped]
  cases t.progress p with
  | leaving kept | finished kept => cases kept <;> decide
  | ahead | looking | reaching => decide

/-- When the post has returned it has been one or the other. -/
theorem Steps.decided (hs : Steps {} h t) (hp : .returned p ∈ h) :
    h.count (.appended p) + h.count (.dropped p) = 1 := by
  have hreturned := List.count_pos_iff.2 hp
  rw [hs.count marks_returned] at hreturned
  rw [hs.count marks_appended, hs.count marks_dropped]
  cases hx : t.progress p with
  | finished kept => cases kept <;> rfl
  | ahead | looking | reaching | leaving => simp [hx, Progress.returned] at hreturned

theorem Steps.active (hs : Steps {} h t) (hcalled : .called p ∈ h) (hreturned : .returned p ∉ h) :
    (t.progress p).active = true := by
  have hbegun := List.count_pos_iff.2 hcalled
  have hgoing := List.count_eq_zero.2 hreturned
  rw [hs.count marks_called] at hbegun
  rw [hs.count marks_returned] at hgoing
  cases hx : t.progress p with
  | looking | reaching | leaving => rfl
  | ahead => simp [hx, Progress.called] at hbegun
  | finished => simp [hx, Progress.returned] at hgoing

theorem Steps.closeCalled_of_dropped (hs : Steps {} h t) (hp : .dropped p ∈ h) :
    .closeCalled ∈ h := by
  obtain ⟨h₁, h₂, rfl⟩ := List.append_of_mem hp
  obtain ⟨t₁, _, hs₁, hstep, _⟩ := hs.split_at
  cases hstep with
  | dropped _ hc => exact List.mem_append_left _ (hs₁.doors.called (.inr hc))

/-- A post that returns before anybody calls `close` has appended its message. -/
theorem Steps.early (hs : Steps {} (h₁ ++ .returned p :: h₂) t) (hopen : .closeCalled ∉ h₁) :
    .appended p ∈ h₁ := by
  obtain ⟨t₁, _, hs₁, hstep, _⟩ := hs.split_at
  cases hstep with
  | @returned _ kept hp =>
    have happended := hs₁.count (marks_appended (p := p))
    have hdropped := hs₁.count (marks_dropped (p := p))
    rw [hp] at happended hdropped
    cases kept with
    | true => exact List.count_pos_iff.1 (by rw [happended]; decide)
    | false =>
      have hmem : .dropped p ∈ h₁ := List.count_pos_iff.1 (by rw [hdropped]; decide)
      exact absurd (hs₁.closeCalled_of_dropped hmem) hopen

theorem Steps.not_appended_late (hs : Steps {} (h₁ ++ .called p :: h₂) t)
    (hclosed : .closeReturned ∈ h₁) : .appended p ∉ h₁ ++ .called p :: h₂ := by
  obtain ⟨t₁, _, hs₁, hstep, hs₂⟩ := hs.split_at
  have hc := hs₁.doors.stored (.inr hclosed)
  cases hstep with
  | called hp =>
    have hbefore : .appended p ∉ h₁ := by
      rw [← List.count_eq_zero, hs₁.count marks_appended, hp.1]
      rfl
    have hafter : .appended p ∉ h₂ := by
      intro hmem
      obtain ⟨v, hv, hprefix⟩ := hs₂.last_steps hc p
      rw [progress_set_self, lastSteps, List.mem_singleton] at hv
      subst hv
      have hstep := hprefix.subset (List.mem_filter.2 ⟨hmem, decide_eq_true rfl⟩)
      simp at hstep
    simp [hbefore, hafter]

/-- A post that is called after a `close` has returned drops its message. -/
theorem Steps.late (hs : Steps {} (h₁ ++ .called p :: h₂) t) (hclosed : .closeReturned ∈ h₁) :
    .appended p ∉ h₁ ++ .called p :: h₂ ∧
      (.returned p ∈ h₁ ++ .called p :: h₂ → .dropped p ∈ h₁ ++ .called p :: h₂) := by
  have happended := hs.not_appended_late hclosed
  refine ⟨happended, fun hreturned ↦ ?_⟩
  have hone := hs.decided hreturned
  rw [List.count_eq_zero.2 happended, Nat.zero_add] at hone
  exact List.count_pos_iff.1 (hone ▸ Nat.one_pos)

/-- A drain consumes what was there when it took the lock. -/
theorem Steps.in_batch (hs : Steps {} (h₁ ++ .locked :: (h₂ ++ h₃)) t) (hlock : .unlocked ∉ h₂) :
    consumed h₂ <+: buffer h₁ := by
  obtain ⟨t₁, _, hs₁, hstep, hrest⟩ := hs.split_at
  obtain ⟨t₃, hs₂, _⟩ := hrest.split
  cases hstep with
  | locked hoff =>
    rw [hs₁.ledger.buffer hoff, (hs₂.batch rfl hlock).2.2]
    exact List.take_prefix _ _

/-- Once the flag is set a post makes at most one more try for the lock. -/
theorem Steps.released (hs : Steps {} (h₁ ++ .closeStored :: h₂) t) (p : Post) :
    h₂.count (.waited p) + h₂.count (.appended p) ≤ 1 ∧ (steps p h₂).length ≤ 3 := by
  obtain ⟨t₁, t₂, _, hstep, hs₂⟩ := hs.split_at
  have hc : t₂.box.closed = true := by
    cases hstep with
    | closeStored => rfl
  obtain ⟨v, hv, hprefix⟩ := hs₂.last_steps hc p
  have hcount {e : Sighting} (he : e.post = some p) : h₂.count e ≤ v.count e := by
    rw [← count_steps he]
    exact hprefix.sublist.count_le e
  have htries := tries_of_lastSteps hv
  have hwaited := hcount (e := .waited p) rfl
  have happended := hcount (e := .appended p) rfl
  exact ⟨by omega, Nat.le_trans hprefix.length_le htries.2⟩

end Runs

end Traffic

open Traffic

/-- **Posting, draining and closing are safe however the threads interleave.**  Any number
of threads post to a mailbox, one drains it, and anybody closes it or replaces its
callback at any time.

* What is seen is then `Orderly`.
* When nobody drains, the mailbox holds the messages that have arrived and were not consumed.
* A post that has not returned can take its next step, whoever holds the lock, and it can return
  without any help once the mailbox is closed.
* A thread that is left alone does what the functions on mailboxes do. -/
theorem posts_safe_in_every_interleaving {h : List Sighting} {t : Traffic} (hs : Steps {} h t) :
    Orderly h ∧
    (t.draining = .off → t.box.items = (buffer h).map (·.message)) ∧
    (∀ p, .called p ∈ h → .returned p ∉ h → (∃ e t', e.post = some p ∧ Step t e t') ∧
      (t.box.closed = true →
        ∃ h' t', Steps t h' t' ∧ (∀ e ∈ h', e.post = some p) ∧ .returned p ∈ h')) ∧
    Faithful t := by
  refine ⟨⟨hs.once, fun p ↦ hs.decided, ?_, ?_, hs.ledger.consumed_prefix, fun thread ↦ ?_, ?_, ?_⟩,
    fun hoff ↦ ?_, fun p hcalled hreturned ↦ ?_, hs.ledger.holds.faithful⟩
  · rintro p h₁ h₂ rfl
    exact hs.early
  · rintro p h₁ h₂ rfl
    exact hs.late
  · exact (hs.ledger.consumed_prefix.sublist.filter _).trans (hs.turns.sorted thread)
  · rintro h₁ h₂ h₃ rfl
    exact hs.in_batch
  · rintro p h₁ h₂ rfl
    exact hs.released p
  · rw [hs.ledger.buffer hoff]
    exact hs.ledger.holds.items
  · have hactive := hs.active hcalled hreturned
    exact ⟨exists_step hactive, exists_return hactive⟩

/-! A rush: the mailbox is closed while one post waits for a drain, and the message gets in
nevertheless; the next post finds the mailbox closed. -/

/-- It is over before the mailbox is closed. -/
def earlyPost : Post := ⟨0, 0, ⟨"1"⟩⟩

/-- It finds the mailbox open, then has to wait. -/
def waitingPost : Post := ⟨1, 0, ⟨"2"⟩⟩

/-- It finds the mailbox closed. -/
def latePost : Post := ⟨0, 1, ⟨"3"⟩⟩

/-- What a bystander sees. -/
def rush : List Sighting :=
  [.called earlyPost, .passed earlyPost, .appended earlyPost, .returned earlyPost,
    .listened (some 7), .locked,
    .called waitingPost, .passed waitingPost, .closeCalled, .waited waitingPost,
    .passed waitingPost, .closeStored,
    .taken earlyPost 7, .stopped, .unlocked, .appended waitingPost, .closeReturned,
    .returned waitingPost, .called latePost, .dropped latePost, .returned latePost]

theorem rush_orderly : ∃ t, Steps {} rush t ∧ Orderly rush ∧ t.box.items = [⟨"2"⟩] := by
  have hwaiting (q : Post) (hq : q.thread = waitingPost.thread) : q ≠ earlyPost := by
    rintro rfl
    cases hq
  have hlate (q : Post) (hq : q.thread = latePost.thread) : q ≠ waitingPost := by
    rintro rfl
    cases hq
  obtain ⟨t, hs, hoff⟩ : ∃ t, Steps {} rush t ∧ t.draining = .off := by
    refine ⟨_, .cons (.called ⟨rfl, fun _ _ ↦ rfl⟩) <| .cons (.passed rfl rfl) <|
      .cons (.appended rfl rfl) <| .cons (.returned rfl) <| .cons (.listened _) <|
        .cons (.locked rfl) <|
      .cons (.called ⟨rfl, fun q hq ↦ ?_⟩) <| .cons (.passed rfl rfl) <| .cons .closeCalled <|
      .cons (.waited rfl) <| .cons (.passed rfl rfl) <| .cons (.closeStored rfl) <|
      .cons (.taken rfl rfl rfl) <| .cons (.stopped rfl (.inl (Nat.le_refl _))) <|
      .cons (.unlocked rfl) <| .cons (.appended rfl rfl) <| .cons (.closeReturned rfl) <|
      .cons (.returned rfl) <| .cons (.called ⟨rfl, fun q hq ↦ ?_⟩) <| .cons (.dropped rfl rfl) <|
      .single (.returned rfl), rfl⟩
    · simp [Traffic.set, Traffic.append, hwaiting q hq, Progress.active]
    · by_cases hearly : q = earlyPost
      · subst hearly
        rfl
      · simp [Traffic.set, Traffic.append, hlate q hq, hearly, Progress.active]
  obtain ⟨horderly, hitems, _⟩ := posts_safe_in_every_interleaving hs
  exact ⟨t, hs, horderly, hitems hoff⟩

end ScriptWorkers
