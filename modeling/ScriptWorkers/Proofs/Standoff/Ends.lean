import Mathlib.Tactic.ByContra
import Mathlib.Tactic.Choose
import ScriptWorkers.Proofs.Standoff.Basic

/-!
# When the two ends of a link block each other

A worker and its owner run at the same time.  The worker drains the inbox of their link and posts to
the outbox, the owner does the opposite.  Here they do nothing else: the threads drain over and
over, and the callbacks post any messages, which may depend on what has been said before.

* `Speech.standoff_of_answers`: if callbacks at both ends post, the threads may come to a standoff.
* `Speech.Kept`: what the locks have to do with what the threads have still to do, at any time.
* `Speech.Kept.comes_to_move`: if the callbacks at one end never post, each thread can move again
  when the other one has made some moves, however they have moved before.
* `ends_never_block_iff_one_is_silent`: both together.
-/

namespace ScriptWorkers

/-! ## Two threads that drain and post -/

/-- Callbacks that do nothing but post: the messages that those at the end of a side post when they
are called in a state, and the state that they leave behind. -/
abbrev Speech (σ : Type) := Side → σ → Slot → List Json → List Message × σ

namespace Speech

variable {σ : Type}

/-- The plan to post messages, from the end of a side to the opposite mailbox, and to end. -/
def utter (s : Side) (r : σ × Ending) : List Message → FreePlan (σ × Ending)
  | [] => .done r
  | m :: rest =>
    match s with
    | .inbox => .ask (.desk (.post m)) fun _ ↦ utter s r rest
    | .outbox => .ask (.postTo 1 m) fun _ ↦ utter s r rest

/-- The engine of the callbacks at the end of a side. -/
def engine (speak : Speech σ) (s : Side) : Engine σ where
  create _ := .error (.context "refused")
  execute c _ _ := .done (c, .done)
  call c slot args := utter s ((speak s c slot args).2, .done) (speak s c slot args).1

/-- The thread at the end of a side: the worker has number one and drains its inbox, its owner is
the root and drains the outbox. -/
def thread : Side → WorkerId
  | .inbox => 1
  | .outbox => 0

/-- The side that a thread drains. -/
def sideOf (i : WorkerId) : Side := if i = 0 then .outbox else .inbox

/-- Both threads drain over and over. -/
def rota (speak : Speech σ) (i : WorkerId) : Duty σ Verdict := do
  let _ ← Duty.drainBox (speak.engine (sideOf i)) i 1 (sideOf i)
  return .again

/-- A worker and its owner, in these states, with this link between them. -/
def opening (l : Link) (state : Side → σ) : Crew σ where
  world :=
    { root := some { kids := [1], context := some (state .outbox) }
      workers := [{ owner := 0, script := "", link := l, phase := .loop,
                    scope := { context := some (state .inbox) } }]
      loader := .shelf {} }
  threads := [.done .again, .done .again]

/-- One of the two threads makes a move. -/
def Step (speak : Speech σ) (c c' : Crew σ) : Prop := ∃ s, c.move speak.rota (thread s) = (true, c')

/-- Any number of moves, of the two threads in any order. -/
abbrev Steps (speak : Speech σ) : Crew σ → Crew σ → Prop := Relation.ReflTransGen speak.Step

/-- The callbacks at the end of a side never post in answer to a message. -/
def SilentAt (speak : Speech σ) (s : Side) : Prop :=
  ∀ a slot (m : Message) v, m.decode = .ok v → (speak s a slot [Message.event v]).1 = []

variable {speak : Speech σ} {s : Side} {c : Crew σ}

@[simp] theorem sideOf_thread (s : Side) : sideOf (thread s) = s := by cases s <;> rfl

theorem call_engine (a : σ) (slot : Slot) (args : List Json) :
    (speak.engine s).call a slot args =
      utter s ((speak s a slot args).2, .done) (speak s a slot args).1 := rfl

theorem thread_other_ne (s : Side) : thread s.other ≠ thread s := by cases s <;> decide

/-! ### Locks that are given back -/

/-- The callbacks at the end of a side post to the opposite mailbox, if they post. -/
theorem civil_engine (s : Side) :
    Duty.Civil (speak.engine s) (thread s) 1 s (¬ speak.SilentAt s) := by
  intro a slot m v hm
  have hcarry (r : σ × Ending) (hr : r.2 = .done) (ms : List Message)
      (hms : ms ≠ [] → ¬ speak.SilentAt s) :
      (Duty.carry (thread s) (utter s r ms) : Duty σ _).Orderly 1 s (¬ speak.SilentAt s)
        (fun r held ↦ r.2 = .done ∧ held = true) true := by
    induction ms with
    | nil => exact ⟨hr, rfl⟩
    | cons m rest ih =>
      have hanswers : ¬ speak.SilentAt s := hms (List.cons_ne_nil m rest)
      have hrest := ih fun _ ↦ hanswers
      cases s with
      | inbox => exact ⟨.inr ⟨hanswers, rfl⟩, fun _ ↦ ⟨_, _, rfl⟩, fun _ ↦ hrest⟩
      | outbox =>
        refine Duty.Orderly.bind (Duty.orderly_now_bind (fun _ ↦ ⟨_, _, rfl⟩) fun w ↦ ?_)
        split
        · exact ⟨.inr ⟨hanswers, rfl⟩, fun _ ↦ ⟨_, _, rfl⟩, fun _ ↦ hrest⟩
        · exact hrest
  exact hcarry _ rfl _ fun hne hsilent ↦ hne (hsilent a slot m v hm)

/-- Both threads are orderly. -/
theorem orderly_rota (s : Side) :
    (speak.rota (thread s)).Orderly 1 s (¬ speak.SilentAt s)
      (fun v held ↦ v = .again ∧ held = false) false := by
  rw [rota, sideOf_thread]
  exact Duty.Orderly.bind
    ((Duty.orderly_drainBox (civil_engine s)).imp fun _ _ hheld ↦ ⟨rfl, hheld⟩)

/-- No thread has locked a mailbox but the one that drains it, and each thread knows whether it
has. -/
structure Kept (speak : Speech σ) (c : Crew σ) : Prop where
  locks : ∀ l ∈ c.locks, ∃ s, l = (thread s, 1, s)
  threads : ∀ s, ∃ d, c.threads[thread s]? = some d ∧
    d.Orderly 1 s (¬ speak.SilentAt s) (fun v held ↦ v = .again ∧ held = false)
      (Crew.isLocked c.locks 1 s)

/-- At first nothing is locked. -/
theorem kept_opening (l : Link) (state : Side → σ) : speak.Kept (opening l state) where
  locks := nofun
  threads s := by cases s <;> exact ⟨_, rfl, rfl, rfl⟩

section Kept

variable {c' : Crew σ} {locks : List (WorkerId × WorkerId × Side)}

theorem isLocked_filter_self (h : ∀ l ∈ locks, ∃ s, l = (thread s, 1, s)) :
    Crew.isLocked (locks.filter (· != (thread s, 1, s))) 1 s = false := by
  rw [Crew.isLocked, List.any_eq_false]
  intro l hl hs
  obtain ⟨hmem, hne⟩ := List.mem_filter.1 hl
  obtain ⟨t, rfl⟩ := h l hmem
  obtain rfl : t = s := by simpa using hs
  simp at hne

theorem isLocked_filter_other :
    Crew.isLocked (locks.filter (· != (thread s, 1, s))) 1 s.other =
      Crew.isLocked locks 1 s.other := by
  rw [Crew.isLocked, Crew.isLocked, List.any_filter]
  congr 1
  funext l
  by_cases hl : l.2 = (1, s.other)
  · have hne : l ≠ (thread s, 1, s) := by
      rintro rfl
      cases s <;> simp [Side.other] at hl
    simp [hne]
  · simp [hl]

/-- A move of a thread concerns this thread and its own mailbox only. -/
theorem Kept.of_move (h : speak.Kept c) (hs : c.move speak.rota (thread s) = (true, c'))
    (hl : ∀ l ∈ c'.locks, ∃ s, l = (thread s, 1, s))
    (hother : Crew.isLocked c'.locks 1 s.other = Crew.isLocked c.locks 1 s.other)
    {d : Duty σ Verdict} (hd : c'.threads[thread s]? = some d)
    (ho : d.Orderly 1 s (¬ speak.SilentAt s) (fun v held ↦ v = .again ∧ held = false)
      (Crew.isLocked c'.locks 1 s)) : speak.Kept c' := by
  refine ⟨hl, fun t ↦ ?_⟩
  rcases s.eq_or_eq_other t with rfl | rfl
  · exact ⟨d, hd, ho⟩
  · obtain ⟨d', hd', ho'⟩ := h.threads s.other
    refine ⟨d', Crew.getElem?_threads_of_move hs (thread_other_ne s) hd', ?_⟩
    rw [hother]
    exact ho'

/-- Every move keeps the locks in order. -/
theorem Kept.step (h : speak.Kept c) (hs : c.move speak.rota (thread s) = (true, c')) :
    speak.Kept c' := by
  obtain ⟨d, hd, ho⟩ := h.threads s
  obtain ⟨hlt, -⟩ := List.getElem?_eq_some_iff.1 hd
  have hset (d' : Duty σ Verdict) : (c.threads.set (thread s) d')[thread s]? = some d' :=
    List.getElem?_set_self hlt
  cases Crew.moves_of_move hs with
  | again hd' =>
    cases hd.symm.trans hd'
    refine h.of_move hs h.locks rfl (hset _) ?_
    rw [ho.2]
    exact orderly_rota s
  | made hd' _ _ =>
    cases hd.symm.trans hd'
    exact h.of_move hs h.locks rfl (Crew.getElem?_staff _ (hset _)) (ho.2.2 _)
  | panicked hd' _ hx =>
    cases hd.symm.trans hd'
    obtain ⟨b, w', hok⟩ := ho.2.1 c.world
    cases hx.symm.trans hok
  | locked hd' hfree =>
    cases hd.symm.trans hd'
    obtain ⟨hmine, -, hnext⟩ := ho
    cases hmine
    refine h.of_move hs ?_ ?_ (hset _) ?_
    · exact List.forall_mem_cons.2 ⟨⟨s, rfl⟩, h.locks⟩
    · cases s <;> rfl
    · simpa [Crew.isLocked] using hnext
  | unlocked hd' =>
    cases hd.symm.trans hd'
    obtain ⟨hmine, -, hnext⟩ := ho
    cases hmine
    have hlocks (l) (hl : l ∈ c.locks.filter (· != (thread s, 1, s))) :=
      h.locks l (List.mem_filter.1 hl).1
    refine h.of_move hs hlocks isLocked_filter_other (hset _) ?_
    rw [isLocked_filter_self h.locks]
    exact hnext

/-- By induction on the moves. -/
theorem kept_of_steps {l : Link} {state : Side → σ} (hs : speak.Steps (opening l state) c) :
    speak.Kept c := by
  induction hs with
  | refl => exact kept_opening l state
  | tail _ hstep ih =>
    obtain ⟨_, hmove⟩ := hstep
    exact ih.step hmove

/-- A thread whose callbacks never post is never about to post. -/
theorem Kept.not_posting (h : speak.Kept c) (hs : speak.SilentAt s) :
    ¬ c.Posting (thread s) 1 s.other := by
  rintro ⟨m, next, hd'⟩
  obtain ⟨d, hd, ho⟩ := h.threads s
  cases hd.symm.trans hd'
  rcases ho.1 with hwait | ⟨hanswers, -⟩
  · cases hwait
  · exact hanswers hs

/-- A thread can move unless it is about to post to a mailbox that is locked. -/
theorem Kept.moves_or_waits (h : speak.Kept c) (s : Side) :
    (∃ c', c.move speak.rota (thread s) = (true, c')) ∨
      ¬ speak.SilentAt s ∧ Crew.isLocked c.locks 1 s.other = true := by
  obtain ⟨d, hd, ho⟩ := h.threads s
  cases d with
  | done v =>
    cases ho.1
    exact .inl ⟨_, Crew.move_of_moves (.again hd)⟩
  | move wait x next =>
    obtain ⟨b, w', hx⟩ := ho.2.1 c.world
    by_cases ha : Crew.allows c.world c.locks wait = true
    · exact .inl ⟨_, Crew.move_of_moves (.made hd ha hx)⟩
    · rcases ho.1 with rfl | ⟨hanswers, rfl⟩
      · exact absurd rfl ha
      · refine .inr ⟨hanswers, ?_⟩
        simp only [Crew.allows, Bool.or_eq_true, not_or] at ha
        simpa using ha.1
  | lock id side next =>
    obtain ⟨hmine, hfree, -⟩ := ho
    cases hmine
    exact .inl ⟨_, Crew.move_of_moves (.locked hd hfree)⟩
  | unlock id side next => exact .inl ⟨_, Crew.move_of_moves (.unlocked hd)⟩

/-- A thread whose callbacks never post gives back its lock by moves of its own. -/
theorem Kept.gives_back (hs : speak.SilentAt s) (d : Duty σ Verdict) : ∀ {c : Crew σ},
    speak.Kept c → c.threads[thread s]? = some d →
    ∃ c', speak.Steps c c' ∧ speak.Kept c' ∧ Crew.isLocked c'.locks 1 s = false := by
  -- the lock is given back further on in `d`, and no move before that has to wait
  induction d with
  | done v =>
    intro c h hd
    obtain ⟨d, hd', ho⟩ := h.threads s
    cases hd'.symm.trans hd
    exact ⟨c, .refl, h, ho.2⟩
  | move wait x next ih =>
    intro c h hd
    obtain ⟨d, hd', ho⟩ := h.threads s
    cases hd'.symm.trans hd
    obtain ⟨hlt, -⟩ := List.getElem?_eq_some_iff.1 hd
    obtain ⟨b, w', hx⟩ := ho.2.1 c.world
    have hwait : wait = .nothing := ho.1.resolve_right fun ⟨hanswers, _⟩ ↦ hanswers hs
    subst hwait
    have hmove : c.move speak.rota (thread s) = (true, _) := Crew.move_of_moves (.made hd rfl hx)
    obtain ⟨c', hsteps, hc'⟩ :=
      ih b (h.step hmove) (Crew.getElem?_staff _ (List.getElem?_set_self hlt))
    exact ⟨c', .head ⟨s, hmove⟩ hsteps, hc'⟩
  | lock id side next =>
    intro c h hd
    obtain ⟨d, hd', ho⟩ := h.threads s
    cases hd'.symm.trans hd
    exact ⟨c, .refl, h, ho.2.1⟩
  | unlock id side next =>
    intro c h hd
    obtain ⟨d, hd', ho⟩ := h.threads s
    cases hd'.symm.trans hd
    cases ho.1
    have hmove : c.move speak.rota (thread s) = (true, _) := Crew.move_of_moves (.unlocked hd)
    exact ⟨_, .single ⟨s, hmove⟩, h.step hmove, isLocked_filter_self h.locks⟩

/-- If the callbacks at one end never post, both threads come to move again. -/
theorem Kept.comes_to_move (h : speak.Kept c) (hs : speak.SilentAt s) (t : Side) :
    ∃ c' c'', speak.Steps c c' ∧ c'.move speak.rota (thread t) = (true, c'') := by
  rcases s.eq_or_eq_other t with rfl | rfl
  · obtain ⟨c', hmove⟩ := (h.moves_or_waits t).resolve_right fun ⟨hanswers, _⟩ ↦ hanswers hs
    exact ⟨c, c', .refl, hmove⟩
  · obtain ⟨d, hd, -⟩ := h.threads s
    obtain ⟨c', hsteps, hkept, hfree⟩ := Kept.gives_back hs d h hd
    obtain ⟨c'', hmove⟩ := (hkept.moves_or_waits s.other).resolve_right fun ⟨_, hlocked⟩ ↦ by
      rw [Side.other_other, hfree] at hlocked
      cases hlocked
    exact ⟨c', c'', hsteps, hmove⟩

end Kept

/-! ### The way to a standoff -/

/-- In this world the owner and the worker are as they have been in that one. -/
def Still (w w' : World σ) : Prop := w'.workers = w.workers ∧ w'.root = w.root

/-- By moves of its own that leave everybody as they are, a thread gets to a post. -/
inductive Heads {α : Type} (side : Side) : World σ → Duty σ α → Prop
  | here {w : World σ} {m : Message} {next : Unit → Duty σ α} :
    Heads side w (.move (.post 1 side) (World.deposit 1 side m) next)
  | move {β : Type} {x : Run (World σ) β} {next : β → Duty σ α} {b : β} {w w' : World σ} :
    x w = .ok b w' → Still w w' → Heads side w' (next b) → Heads side w (.move .nothing x next)

section Heads

variable {α β : Type} {side : Side} {w w' : World σ}

theorem Heads.bind {d : Duty σ α} (h : Heads side w d) (f : α → Duty σ β) :
    Heads side w (d >>= f) := by
  change Heads side w (d.bind f)
  induction h with
  | here => exact .here
  | move hx hs _ ih => exact .move hx hs ih

/-- What leaves everybody as they are may come first. -/
theorem Heads.now {x : Run (World σ) α} {f : α → Duty σ β} {a : α} (hx : x w = .ok a w')
    (hs : Still w w') (h : Heads side w' (f a)) : Heads side w (Duty.now x >>= f) :=
  .move hx hs h

end Heads

/-- The context at the end of a side is in a state, and there is one message for its callback. -/
structure Poised (w : World σ) (s : Side) (a : σ) (slot : Slot) (m : Message) : Prop where
  box : (w.link 1).box s = { items := [m], callback := some slot }
  context : (w.scope (thread s)).context = some a
  owned : w.owner? 1 = some 0

section Poised

variable {w w' : World σ} {a : σ} {slot : Slot} {m p : Message} {ps : List Message}

theorem Poised.still (h : Poised w s a slot m) (hs : Still w w') : Poised w' s a slot m := by
  obtain ⟨root, workers, handles, clock, loader, events, journal⟩ := w
  obtain ⟨root', workers', handles', clock', loader', events', journal'⟩ := w'
  obtain ⟨rfl, rfl⟩ : workers' = workers ∧ root' = root := hs
  exact ⟨h.box, h.context, h.owned⟩

theorem Poised.read_box (h : Poised w s a slot m) :
    (World.boxPlace 1 s).read w = .ok { items := [m], callback := some slot } w := by
  rw [← h.box]
  rfl

theorem Poised.read_context (h : Poised w s a slot m) :
    (World.contextPlace (thread s)).read w = .ok (some a) w := by
  rw [← h.context]
  rfl

/-- The callback is about to post. -/
theorem Poised.heads_utter (h : Poised w s a slot m) (r : σ × Ending) :
    Heads s.other w (Duty.carry (thread s) (utter s r (p :: ps))) := by
  cases s with
  | inbox => exact .here
  | outbox =>
    have hserve : Heads .inbox w (Duty.serve 0 (.postTo 1 p) : Duty σ Unit) := by
      refine Heads.now (x := get) rfl ⟨rfl, rfl⟩ ?_
      rw [if_pos h.owned]
      exact .here
    exact hserve.bind _

/-- A callback that posts gets to its first post. -/
theorem Poised.heads_deliver (h : Poised w s a slot m) {v : Json} (hm : m.decode = .ok v)
    (hp : (speak s a slot [Message.event v]).1 = p :: ps) (cause : Cause) :
    Heads s.other w (Duty.deliver (speak.engine s) (thread s) cause slot m) := by
  have henter {w : World σ} (h : Poised w s a slot m) :
      Heads s.other w (Duty.enter (thread s) ((speak.engine s).call · slot [Message.event v])) := by
    refine Heads.now h.read_context ⟨rfl, rfl⟩ (Heads.bind ?_ _)
    change Heads s.other w
      (Duty.carry (thread s) ((speak.engine s).call a slot [Message.event v]))
    rw [call_engine, hp]
    exact h.heads_utter _
  have hcall : Heads s.other w
      (Duty.call (speak.engine s) (thread s) cause slot [Message.event v]) :=
    Heads.now (x := (World.deskPlace (thread s)).read) rfl ⟨rfl, rfl⟩
      (Heads.now (x := World.record _) rfl ⟨rfl, rfl⟩ (henter (h.still ⟨rfl, rfl⟩)))
  rw [Duty.deliver]
  simp only [hm]
  exact hcall.bind _

/-- A batch gets to the first post of the callback for its first message. -/
theorem Poised.heads_batch (h : Poised w s a slot m) {v : Json} (hm : m.decode = .ok v)
    (hp : (speak s a slot [Message.event v]).1 = p :: ps) :
    Heads s.other w (Duty.batch (speak.engine s) (thread s) 1 s) := by
  have hdrain {w : World σ} (h : Poised w s a slot m) :
      Heads s.other w (Duty.drain (speak.engine s) (thread s) 1 s) := by
    have hwalk : Heads s.other w (Duty.walk (speak.engine s) (thread s) 1 s [m]) :=
      Heads.now h.read_box ⟨rfl, rfl⟩ ((h.heads_deliver hm hp _).bind _)
    exact Heads.now h.read_box ⟨rfl, rfl⟩ (hwalk.bind _)
  refine Heads.now h.read_box ⟨rfl, rfl⟩ (Heads.now (x := World.record _) rfl ⟨rfl, rfl⟩ ?_)
  refine Heads.bind (hdrain ?_) _
  exact h.still ⟨rfl, rfl⟩

end Poised

/-- What a thread has done to get to its post. -/
structure Arrived (c c' : Crew σ) (s : Side) : Prop where
  posting : c'.Posting (thread s) 1 s.other
  still : Still c.world c'.world
  length : c'.threads.length = c.threads.length
  others : ∀ j ≠ thread s, c'.threads[j]? = c.threads[j]?

/-- By induction on the moves to the post. -/
theorem Heads.arrives (speak : Speech σ) {c : Crew σ} {d : Duty σ Verdict}
    (h : Heads s.other c.world d) (hd : c.threads[thread s]? = some d)
    (hl : c.threads.length = c.world.workers.length + 1) :
    ∃ c', speak.Steps c c' ∧ c'.locks = c.locks ∧ Arrived c c' s := by
  obtain ⟨w, threads, locks⟩ := c
  change Heads s.other w d at h
  induction h generalizing threads with
  | here => exact ⟨_, .refl, rfl, ⟨_, _, hd⟩, ⟨rfl, rfl⟩, rfl, fun _ _ ↦ rfl⟩
  | @move β x next b w w' hx hs _ ih =>
    have hl' : (threads.set (thread s) (next b)).length = w'.workers.length + 1 := by
      rw [List.length_set, hs.1]
      exact hl
    obtain ⟨hlt, -⟩ := List.getElem?_eq_some_iff.1 hd
    obtain ⟨c', hsteps, hlocks, harr⟩ :=
      ih (threads.set (thread s) (next b)) (List.getElem?_set_self hlt) hl'
    have hstaff : Crew.staff w' (threads.set (thread s) (next b)) =
        threads.set (thread s) (next b) := by
      simp [Crew.staff, hl']
    have hmove : speak.Step ⟨w, threads, locks⟩ ⟨w', threads.set (thread s) (next b), locks⟩ := by
      refine ⟨s, ?_⟩
      have hmoves : Crew.Moves speak.rota (thread s) ⟨w, threads, locks⟩ _ := .made hd rfl hx
      rw [hstaff] at hmoves
      exact Crew.move_of_moves hmoves
    refine ⟨c', .head hmove hsteps, hlocks, harr.posting, ?_, ?_, ?_⟩
    · exact ⟨harr.still.1.trans hs.1, harr.still.2.trans hs.2⟩
    · exact harr.length.trans List.length_set
    · intro j hj
      rw [harr.others j hj]
      exact List.getElem?_set_ne hj.symm

/-- A thread that starts over locks its mailbox and gets to a post, if its callback posts. -/
theorem Poised.arrives {c : Crew σ} {a : σ} {slot : Slot} {m : Message} {v : Json}
    (h : Poised c.world s a slot m) (hm : m.decode = .ok v)
    (hp : (speak s a slot [Message.event v]).1 ≠ [])
    (hd : c.threads[thread s]? = some (.done .again))
    (hl : c.threads.length = c.world.workers.length + 1)
    (hfree : Crew.isLocked c.locks 1 s = false) :
    ∃ c', speak.Steps c c' ∧ c'.locks = (thread s, 1, s) :: c.locks ∧ Arrived c c' s := by
  obtain ⟨w, threads, locks⟩ := c
  obtain ⟨hlt, -⟩ := List.getElem?_eq_some_iff.1 hd
  have hset (d : Duty σ Verdict) : (threads.set (thread s) d)[thread s]? = some d :=
    List.getElem?_set_self hlt
  let d : Duty σ Verdict := do
    let _ ← Duty.batch (speak.engine s) (thread s) 1 s
    return .again
  have hrota : speak.rota (thread s) = .lock 1 s d := by
    rw [rota, sideOf_thread]
    rfl
  have hagain : speak.Step ⟨w, threads, locks⟩ ⟨w, threads.set (thread s) (.lock 1 s d),
      locks⟩ := by
    rw [← hrota]
    exact ⟨s, Crew.move_of_moves (.again hd)⟩
  have hlock : speak.Step ⟨w, threads.set (thread s) (.lock 1 s d), locks⟩
      ⟨w, threads.set (thread s) d, (thread s, 1, s) :: locks⟩ := by
    have hmoves : Crew.Moves speak.rota (thread s)
      ⟨w, threads.set (thread s) (.lock 1 s d), locks⟩ _ := .locked (hset _) hfree
    rw [List.set_set] at hmoves
    exact ⟨s, Crew.move_of_moves hmoves⟩
  obtain ⟨p, ps, hp⟩ := List.exists_cons_of_ne_nil hp
  have hheads : Heads s.other w d := (h.heads_batch hm hp).bind _
  obtain ⟨c', hsteps, hlocks, harr⟩ :=
    hheads.arrives speak (c := ⟨w, threads.set (thread s) d, (thread s, 1, s) :: locks⟩) (hset d)
      (List.length_set.trans hl)
  refine ⟨c', .head hagain (.head hlock hsteps), hlocks, harr.posting, harr.still, ?_, ?_⟩
  · exact harr.length.trans List.length_set
  · intro j hj
    rw [harr.others j hj]
    exact List.getElem?_set_ne hj.symm

/-- A link with one message in each direction, and callbacks at both ends. -/
def crossing (slot : Side → Slot) (m : Side → Message) : Link where
  id := 1
  inbox := { items := [m .inbox], callback := some (slot .inbox) }
  outbox := { items := [m .outbox], callback := some (slot .outbox) }

/-- A standoff comes about if both threads lock their mailboxes before either of them posts. -/
theorem standoff_of_answers {state : Side → σ} {slot : Side → Slot} {m : Side → Message}
    {v : Side → Json} (hm : ∀ s, (m s).decode = .ok (v s))
    (hp : ∀ s, (speak s (state s) (slot s) [Message.event (v s)]).1 ≠ []) :
    ∃ c, speak.Steps (opening (crossing slot m) state) c ∧ c.Standoff thread 1 := by
  have hpoised (s : Side) : Poised (opening (crossing slot m) state).world s (state s) (slot s)
      (m s) := by
    cases s <;> exact ⟨rfl, rfl, rfl⟩
  -- first the owner runs until it has to wait, then the worker
  obtain ⟨c₁, hsteps₁, hlocks₁, harr₁⟩ :=
    (hpoised .outbox).arrives (hm _) (hp _) rfl rfl rfl
  have hfree : Crew.isLocked c₁.locks 1 .inbox = false := by
    rw [hlocks₁]
    rfl
  have hd₁ : c₁.threads[thread .inbox]? = some (.done .again) := harr₁.others 1 (by decide)
  have hl₁ : c₁.threads.length = c₁.world.workers.length + 1 := by
    rw [harr₁.length, harr₁.still.1]
    rfl
  obtain ⟨c₂, hsteps₂, hlocks₂, harr₂⟩ :=
    ((hpoised .inbox).still harr₁.still).arrives (hm _) (hp _) hd₁ hl₁ hfree
  have howner : c₂.Posting (thread .outbox) 1 .inbox := by
    obtain ⟨p, next, hd⟩ := harr₁.posting
    exact ⟨p, next, (harr₂.others 0 (by decide)).trans hd⟩
  refine ⟨c₂, hsteps₁.trans hsteps₂, fun s ↦ ?_, ?_⟩
  · rw [(((hpoised s).still harr₁.still).still harr₂.still).box]
  · rw [hlocks₂, hlocks₁]
    rintro (_ | _)
    · exact ⟨harr₂.posting, by simp⟩
    · exact ⟨howner, by simp⟩

/-- Two threads in a standoff cannot move. -/
theorem not_step_of_standoff (h : c.Standoff thread 1) (c' : Crew σ) : ¬ speak.Step c c' := by
  rintro ⟨s, hmove⟩
  rw [h.waits s] at hmove
  cases hmove

/-- If neither end is silent, there is a link whose ends block each other. -/
theorem exists_standoff (h : ¬ ∃ s, speak.SilentAt s) :
    ∃ l state c, speak.Steps (opening l state) c ∧ c.Standoff thread 1 := by
  have hanswers (s : Side) : ∃ a slot m v, Message.decode m = .ok v ∧
      (speak s a slot [Message.event v]).1 ≠ [] := by
    by_contra hs
    refine h ⟨s, fun a slot m v hm ↦ ?_⟩
    by_contra hp
    exact hs ⟨a, slot, m, v, hm, hp⟩
  choose state slot m v hm hp using hanswers
  obtain ⟨c, hsteps, hc⟩ := standoff_of_answers hm hp
  exact ⟨_, state, c, hsteps, hc⟩

end Speech

open Speech

/-- **The ends of a link never block each other exactly if the callbacks at one of them never
post.**  Then, whatever is in the mailboxes and in whatever order the threads make their moves, they
come to no standoff, and each thread can move again after some moves of the two.  Otherwise there
are contents and an order of moves by which they come to a standoff.  Neither can move then, but the
one that waits for a mailbox can as soon as the mailbox is closed. -/
theorem ends_never_block_iff_one_is_silent {σ : Type} (speak : Speech σ) :
    ((∀ l state c, speak.Steps (opening l state) c → ¬ c.Standoff thread 1) ↔
      ∃ s, speak.SilentAt s) ∧
    ((∀ l state c, speak.Steps (opening l state) c →
      ∀ s, ∃ c' c'', speak.Steps c c' ∧ c'.move speak.rota (thread s) = (true, c'')) ↔
      ∃ s, speak.SilentAt s) ∧
    ∀ c : Crew σ, c.Standoff thread 1 → (∀ c', ¬ speak.Step c c') ∧
      ∀ s (c' : Crew σ), c'.threads = c.threads → ((c'.world.link 1).box s.other).closed = true →
        (c'.move speak.rota (thread s)).1 = true := by
  refine ⟨⟨fun h ↦ ?_, ?_⟩, ⟨fun h ↦ ?_, ?_⟩,
    fun c hc ↦ ⟨not_step_of_standoff hc, fun s c' ht hclosed ↦ ?_⟩⟩
  · by_contra hsilent
    obtain ⟨l, state, c, hsteps, hc⟩ := exists_standoff hsilent
    exact h l state c hsteps hc
  · rintro ⟨s, hs⟩ l state c hsteps hc
    exact (kept_of_steps hsteps).not_posting hs (hc.2 s).1
  · by_contra hsilent
    obtain ⟨l, state, c, hsteps, hc⟩ := exists_standoff hsilent
    obtain ⟨c', c'', hsteps', hmove⟩ := h l state c hsteps .inbox
    rcases Relation.ReflTransGen.cases_head hsteps' with rfl | ⟨c₁, hstep, -⟩
    · exact not_step_of_standoff hc c'' ⟨.inbox, hmove⟩
    · exact not_step_of_standoff hc c₁ hstep
  · rintro ⟨s, hs⟩ l state c hsteps t
    exact (kept_of_steps hsteps).comes_to_move hs t
  · obtain ⟨m, next, hd⟩ := (hc.2 s).1
    exact Crew.Posting.released ⟨m, next, by rw [ht, hd]⟩ hclosed

/-- Callbacks that answer every message. -/
def echo : Speech Unit := fun _ _ _ _ ↦ ([⟨"null"⟩], ())

/-- A worker and its owner that answer each other come to wait for one another for ever. -/
theorem echoing_ends_block :
    ∃ c, echo.Steps (opening (crossing (fun _ ↦ 0) fun _ ↦ ⟨"null"⟩) fun _ ↦ ()) c ∧
      c.Standoff thread 1 ∧ ∀ c', ¬ echo.Step c c' := by
  have hm (_ : Side) : Message.decode ⟨"null"⟩ = .ok .null := rfl
  have hp (_ : Side) : (echo .inbox () 0 [Message.event .null]).1 ≠ [] := List.cons_ne_nil _ _
  obtain ⟨c, hsteps, hc⟩ := standoff_of_answers hm hp
  exact ⟨c, hsteps, hc, not_step_of_standoff hc⟩

end ScriptWorkers
