import Mathlib.Logic.Relation
import ScriptWorkers.World.Crew

/-!
# Threads that wait for one another

A drain keeps its mailbox locked for the whole batch, callbacks included, and a post waits for the
lock as long as the mailbox is not closed.  So a callback that posts may have to wait for the drain
at the other end of the link, whose callback may have to wait in turn.

* `Crew.Standoff`: each of two threads is about to post to the mailbox that the other
  one has locked.
* `Crew.Standoff.lasts`: neither gets on then, whatever other threads do, as long as nobody closes a
  mailbox of the link.
* `Duty.Orderly`: what is to be known of a thread that only drains one mailbox, whatever
  its callbacks post, to tell when it has to wait; `Duty.orderly_drainBox` says that a
  drain is of this kind.
-/

namespace ScriptWorkers

/-- The mailbox of the opposite direction. -/
def Side.other : Side → Side
  | .inbox => .outbox
  | .outbox => .inbox

@[simp] theorem Side.other_other (s : Side) : s.other.other = s := by cases s <;> rfl

theorem Side.eq_or_eq_other (s t : Side) : t = s ∨ t = s.other := by cases s <;> cases t <;> decide

namespace Crew

variable {κ : Type} {rota : WorkerId → Duty κ Verdict} {c c' : Crew κ} {i j id : WorkerId}
  {thread : Side → WorkerId}

/-! ## What a move can do -/

/-- What it takes for a thread to make a move, and what the move leaves behind. -/
inductive Moves (rota : WorkerId → Duty κ Verdict) (i : WorkerId) (c : Crew κ) : Crew κ → Prop
  | again : c.threads[i]? = some (.done .again) →
    Moves rota i c { c with threads := c.threads.set i (rota i) }
  | made {β : Type} {wait : Wait} {x : Run (World κ) β} {next : β → Duty κ Verdict} {b : β}
    {w : World κ} : c.threads[i]? = some (.move wait x next) → allows c.world c.locks wait = true →
    x c.world = .ok b w → Moves rota i c ⟨w, staff w (c.threads.set i (next b)), c.locks⟩
  | panicked {β : Type} {wait : Wait} {x : Run (World κ) β} {next : β → Duty κ Verdict}
    {w : World κ} : c.threads[i]? = some (.move wait x next) → allows c.world c.locks wait = true →
    x c.world = .error .panic w →
    Moves rota i c
      ⟨w, staff w (c.threads.set i ((Duty.crash i).bind fun _ ↦ .done (.over (.ok ())))),
      c.locks.filter (·.1 != i)⟩
  | locked {id : WorkerId} {side : Side} {next : Duty κ Verdict} :
    c.threads[i]? = some (.lock id side next) → isLocked c.locks id side = false →
    Moves rota i c { c with threads := c.threads.set i next, locks := (i, id, side) :: c.locks }
  | unlocked {id : WorkerId} {side : Side} {next : Duty κ Verdict} :
    c.threads[i]? = some (.unlock id side next) →
    Moves rota i c
      { c with threads := c.threads.set i next, locks := c.locks.filter (· != (i, id, side)) }

/-- A thread that has moved was able to. -/
theorem moves_of_move (h : c.move rota i = (true, c')) : Moves rota i c c' := by
  obtain ⟨w, threads, locks⟩ := c
  rw [move] at h
  split at h
  · simp at h
  · simp at h
  · rename_i hd
    cases h
    exact .again hd
  · rename_i hd
    split at h
    · rename_i ha
      split at h
      · rename_i hx
        cases h
        exact .made hd ha hx
      · rename_i hx
        cases h
        exact .panicked hd ha hx
      · simp at h
    · simp at h
  · rename_i hd
    split at h
    · simp at h
    · rename_i hl
      cases h
      exact .locked hd (Bool.eq_false_iff.2 hl)
  · rename_i hd
    cases h
    exact .unlocked hd

/-- A thread that is able to moves. -/
theorem move_of_moves (h : Moves rota i c c') : c.move rota i = (true, c') := by
  obtain ⟨w, threads, locks⟩ := c
  cases h with
  | again hd => simp only [move, hd]
  | made hd ha hx => simp only [move, hd, ha, hx, if_true]
  | panicked hd ha hx => simp only [move, hd, ha, hx, if_true]
  | locked hd hl => simp only [move, hd, hl, Bool.false_eq_true, if_false]
  | unlocked hd => simp only [move, hd]

/-! ## Standoffs -/

/-- A thread is about to post to a mailbox. -/
def Posting (c : Crew κ) (i id : WorkerId) (side : Side) : Prop :=
  ∃ m next, c.threads[i]? = some (.move (.post id side) (World.deposit id side m) next)

/-- The mailboxes of a link are open. -/
def Open (c : Crew κ) (id : WorkerId) : Prop := ∀ s, ((c.world.link id).box s).closed = false

/-- The thread of each side has locked the mailbox of that side and is about to post to the other
one, and none of the two is closed. -/
def Standoff (c : Crew κ) (thread : Side → WorkerId) (id : WorkerId) : Prop :=
  c.Open id ∧ ∀ s, c.Posting (thread s) id s.other ∧ (thread s, id, s) ∈ c.locks

theorem isLocked_of_mem {locks : List (WorkerId × WorkerId × Side)} {side : Side}
    (h : (i, id, side) ∈ locks) : isLocked locks id side = true :=
  List.any_eq_true.2 ⟨_, h, by simp⟩

/-- A thread that is in a standoff has to wait. -/
theorem Standoff.waits (h : c.Standoff thread id) (s : Side) :
    c.move rota (thread s) = (false, c) := by
  obtain ⟨w, threads, locks⟩ := c
  obtain ⟨⟨m, next, hd⟩, -⟩ := h.2 s
  have hlocked : isLocked locks id s.other = true := isLocked_of_mem (h.2 s.other).2
  have hopen : ((w.link id).box s.other).closed = false := h.1 s.other
  have hwait : allows w locks (.post id s.other) = false := by simp [allows, hlocked, hopen]
  simp only [move, hd, hwait, Bool.false_eq_true, if_false]

theorem getElem?_staff {threads : List (Duty κ Verdict)} {d : Duty κ Verdict} (w : World κ)
    (hd : threads[j]? = some d) : (staff w threads)[j]? = some d := by
  obtain ⟨hlt, -⟩ := List.getElem?_eq_some_iff.1 hd
  rw [staff, List.getElem?_append_left hlt, hd]

/-- What a thread has still to do is changed by its own moves only. -/
theorem getElem?_threads_of_move (h : c.move rota i = (true, c')) (hj : j ≠ i)
    {d : Duty κ Verdict} (hd : c.threads[j]? = some d) : c'.threads[j]? = some d := by
  have hset (d' : Duty κ Verdict) : (c.threads.set i d')[j]? = some d := by
    rw [List.getElem?_set_ne hj.symm, hd]
  cases moves_of_move h with
  | again => exact hset _
  | made => exact getElem?_staff _ (hset _)
  | panicked => exact getElem?_staff _ (hset _)
  | locked => exact hset _
  | unlocked => exact hset _

/-- A thread gives back its own locks only. -/
theorem mem_locks_of_move (h : c.move rota i = (true, c')) (hj : j ≠ i) {side : Side}
    (hl : (j, id, side) ∈ c.locks) : (j, id, side) ∈ c'.locks := by
  cases moves_of_move h with
  | again => exact hl
  | made => exact hl
  | panicked => exact List.mem_filter.2 ⟨hl, by simpa using hj⟩
  | locked => exact List.mem_cons_of_mem _ hl
  | unlocked => exact List.mem_filter.2 ⟨hl, by simp [hj]⟩

/-- The move of another thread leaves the standoff as it is. -/
theorem Standoff.step (h : c.Standoff thread id) (hs : c.move rota i = (true, c'))
    (ho : c'.Open id) : c'.Standoff thread id := by
  have hi (s : Side) : thread s ≠ i := by
    rintro rfl
    rw [h.waits s] at hs
    cases hs
  refine ⟨ho, fun s ↦ ?_⟩
  obtain ⟨⟨m, next, hd⟩, hl⟩ := h.2 s
  exact ⟨⟨m, next, getElem?_threads_of_move hs (hi s) hd⟩, mem_locks_of_move hs (hi s) hl⟩

/-- **A standoff lasts until somebody closes a mailbox of the link**, however many other threads
there are and in whatever order they make their moves. -/
theorem Standoff.lasts (h : c.Standoff thread id)
    (hs : Relation.ReflTransGen (fun c c' ↦ (∃ i, c.move rota i = (true, c')) ∧ c'.Open id) c c') :
    c'.Standoff thread id := by
  induction hs with
  | refl => exact h
  | tail _ hstep ih =>
    obtain ⟨⟨i, hi⟩, ho⟩ := hstep
    exact ih.step hi ho

/-- A thread gets on when the mailbox that it waits for is closed. -/
theorem Posting.released {side : Side} (h : c.Posting i id side)
    (hc : ((c.world.link id).box side).closed = true) : (c.move rota i).1 = true := by
  obtain ⟨w, threads, locks⟩ := c
  obtain ⟨m, next, hd⟩ := h
  have hallowed : allows w locks (.post id side) = true := by
    rw [allows]
    rw [show ((w.link id).box side).closed = true from hc, Bool.or_true]
  have hmade : Moves rota i ⟨w, threads, locks⟩ _ := .made hd hallowed rfl
  rw [move_of_moves hmade]

end Crew

/-! ## Threads that drain one mailbox -/

namespace Duty

variable {κ α β : Type} {me id : WorkerId} {side : Side} {answers : Prop} {held : Bool}

/-- The thread has to do with one link only.  It locks the mailbox of a side and gives it back
before it locks it again, it posts to the opposite mailbox only, and not even there unless it
`answers`, and its moves never fail.  At first it has locked the mailbox or not, as `held` tells;
`post` is what holds of its value, and of whether the mailbox is locked, at last. -/
def Orderly (id : WorkerId) (side : Side) (answers : Prop) (post : α → Bool → Prop) :
    Bool → Duty κ α → Prop
  | held, done a => post a held
  | held, move wait x next =>
    (wait = .nothing ∨ answers ∧ wait = .post id side.other) ∧ (∀ w, ∃ b w', x w = .ok b w') ∧
      ∀ b, Orderly id side answers post held (next b)
  | held, lock id' side' next =>
    (id', side') = (id, side) ∧ held = false ∧ Orderly id side answers post true next
  | held, unlock id' side' next =>
    (id', side') = (id, side) ∧ held = true ∧ Orderly id side answers post false next

/-- One after the other. -/
theorem Orderly.bind {d : Duty κ α} {f : α → Duty κ β} {post : β → Bool → Prop}
    (h : d.Orderly id side answers (fun a held ↦ (f a).Orderly id side answers post held) held) :
    (d >>= f).Orderly id side answers post held := by
  change (d.bind f).Orderly id side answers post held
  induction d generalizing held with
  | done a => exact h
  | move wait x next ih => exact ⟨h.1, h.2.1, fun b ↦ ih b (h.2.2 b)⟩
  | lock id' side' next ih => exact ⟨h.1, h.2.1, ih h.2.2⟩
  | unlock id' side' next ih => exact ⟨h.1, h.2.1, ih h.2.2⟩

theorem Orderly.imp {d : Duty κ α} {post post' : α → Bool → Prop}
    (h : d.Orderly id side answers post held) (hpost : ∀ a held, post a held → post' a held) :
    d.Orderly id side answers post' held := by
  induction d generalizing held with
  | done a => exact hpost a held h
  | move wait x next ih => exact ⟨h.1, h.2.1, fun b ↦ ih b (h.2.2 b)⟩
  | lock id' side' next ih => exact ⟨h.1, h.2.1, ih h.2.2⟩
  | unlock id' side' next ih => exact ⟨h.1, h.2.1, ih h.2.2⟩

/-- What takes no lock and is never broken off may come first. -/
theorem orderly_now_bind {x : Run (World κ) α} {f : α → Duty κ β} {post : β → Bool → Prop}
    (hx : ∀ w, ∃ a w', x w = .ok a w') (hf : ∀ a, (f a).Orderly id side answers post held) :
    (now x >>= f).Orderly id side answers post held :=
  ⟨.inl rfl, hx, hf⟩

/-- Orderly, with the mailbox locked at first and at last. -/
def OrderlyWithin (id : WorkerId) (side : Side) (answers : Prop) (d : Duty κ α) : Prop :=
  d.Orderly id side answers (fun _ held ↦ held = true) true

theorem orderlyWithin_pure (a : α) : (pure a : Duty κ α).OrderlyWithin id side answers := rfl

theorem OrderlyWithin.bind {d : Duty κ α} {f : α → Duty κ β} (hd : d.OrderlyWithin id side answers)
    (hf : ∀ a, (f a).OrderlyWithin id side answers) : (d >>= f).OrderlyWithin id side answers := by
  refine Orderly.bind (hd.imp fun a held hheld ↦ ?_)
  subst hheld
  exact hf a

/-- A move that never fails. -/
theorem orderlyWithin_now {x : Run (World κ) α} (hx : ∀ w, ∃ a w', x w = .ok a w') :
    (now x).OrderlyWithin id side answers :=
  ⟨.inl rfl, hx, fun _ ↦ rfl⟩

section Drains

variable {engine : Engine κ}

/-- A callback that is called with a message is orderly, and ends well. -/
def Civil (engine : Engine κ) (me id : WorkerId) (side : Side) (answers : Prop) : Prop :=
  ∀ c slot (m : Message) v, m.decode = .ok v →
    (carry me (engine.call c slot [Message.event v]) : Duty κ _).Orderly id side answers
      (fun r held ↦ r.2 = .done ∧ held = true) true

/-- A message is delivered under the lock. -/
theorem orderlyWithin_deliver (h : Civil engine me id side answers) (cause : Cause) (slot : Slot)
    (m : Message) : (deliver engine me cause slot m).OrderlyWithin id side answers := by
  have hlog (line : LogLine) : (log me cause line : Duty κ Unit).OrderlyWithin id side answers :=
    (orderlyWithin_now fun _ ↦ ⟨_, _, rfl⟩).bind fun _ ↦ orderlyWithin_now fun _ ↦ ⟨_, _, rfl⟩
  rw [deliver]
  cases hm : m.decode with
  | error e => exact hlog _
  | ok v =>
    have henter :
        (enter me (engine.call · slot [Message.event v])).OrderlyWithin id side answers := by
      refine (orderlyWithin_now fun _ ↦ ⟨_, _, rfl⟩).bind fun c ↦ ?_
      cases c with
      | none => exact orderlyWithin_pure _
      | some c =>
        refine Orderly.bind ((h c slot m v hm).imp ?_)
        rintro ⟨c', ending⟩ held ⟨hending, hheld⟩
        cases hending
        cases hheld
        exact (orderlyWithin_now fun _ ↦ ⟨_, _, rfl⟩).bind fun _ ↦ orderlyWithin_pure _
    have hcall : (call engine me cause slot [Message.event v]).OrderlyWithin id side answers :=
      (orderlyWithin_now fun _ ↦ ⟨_, _, rfl⟩).bind fun _ ↦
        (orderlyWithin_now fun _ ↦ ⟨_, _, rfl⟩).bind fun _ ↦ henter
    refine hcall.bind fun r ↦ ?_
    cases r with
    | ok _ => exact orderlyWithin_pure _
    | error e => exact hlog _

/-- By induction on the messages. -/
theorem orderlyWithin_walk (h : Civil engine me id side answers) :
    ∀ ms : List Message, (walk engine me id side ms).OrderlyWithin id side answers
  | [] => orderlyWithin_pure 0
  | m :: rest => by
    refine (orderlyWithin_now fun _ ↦ ⟨_, _, rfl⟩).bind fun box ↦ ?_
    cases box.callback with
    | none => exact orderlyWithin_pure 0
    | some slot =>
      exact (orderlyWithin_deliver h _ slot m).bind fun _ ↦
        (orderlyWithin_walk h rest).bind fun _ ↦ orderlyWithin_pure _

/-- **A drain gives back the lock**, if the callbacks come to their ends. -/
theorem orderly_drainBox (h : Civil engine me id side answers) :
    (drainBox engine me id side).Orderly id side answers (fun _ held ↦ held = false) false := by
  have hdrain : (drain engine me id side).OrderlyWithin id side answers := by
    refine (orderlyWithin_now fun _ ↦ ⟨_, _, rfl⟩).bind fun box ↦ ?_
    cases box.callback.isNone with
    | true => exact orderlyWithin_pure 0
    | false =>
      exact (orderlyWithin_walk h _).bind fun _ ↦
        (orderlyWithin_now fun _ ↦ ⟨_, _, rfl⟩).bind fun _ ↦ orderlyWithin_pure _
  refine ⟨rfl, rfl, orderly_now_bind (fun _ ↦ ⟨_, _, rfl⟩) fun box ↦ ?_⟩
  refine orderly_now_bind (fun _ ↦ ⟨_, _, rfl⟩) fun _ ↦ ?_
  refine Orderly.bind (hdrain.imp fun n held hheld ↦ ?_)
  exact orderly_now_bind (fun _ ↦ ⟨_, _, rfl⟩) fun _ ↦ ⟨rfl, hheld, rfl⟩

end Drains

end Duty

end ScriptWorkers
