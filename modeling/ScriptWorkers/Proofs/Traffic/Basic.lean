import ScriptWorkers.Proofs.Guarantee

/-!
# Many threads at one mailbox

Any number of threads post to a mailbox, one thread drains it, and anybody may close it or replace
its callback meanwhile.  The messages of a mailbox are under a lock, the flag that says whether it
is closed is not.  A post looks at the flag and then tries for the lock.  If it gets the lock it
appends its message, and if the time for this runs out it looks at the flag again.  So the mailbox
may be closed after a post has found it open and before the message is appended.

`Traffic.Step` is what the threads can do, one small step at a time, and `Traffic.Steps` any
interleaving of such steps, with what a bystander would write down.

* `Traffic.steps_push`: a post that nobody disturbs does what `Mailbox.push` does, and one that
  waits for the end of a drain does what `Mailbox.pushWaiting` does (`Traffic.steps_pushWaiting`).
* `Traffic.steps_drain`: a drain that only its own callbacks disturb does what `Mailbox.drain` does.
* `Traffic.Steps.invariant`: what every step keeps holds after every run.
-/

namespace ScriptWorkers

namespace Traffic

/-- One call of `push`: by which thread, which of its calls, and with which message. -/
structure Post where
  thread : Nat
  number : Nat
  message : Message
deriving Repr, DecidableEq

/-- How far a post has got. -/
inductive Progress where
  /-- It has not been called. -/
  | ahead
  /-- It is about to look whether the mailbox is closed. -/
  | looking
  /-- It has found the mailbox open and is about to try for the lock. -/
  | reaching
  /-- It has done what it does, which was to append the message or not, and is about to return. -/
  | leaving (kept : Bool)
  /-- It has returned. -/
  | finished (kept : Bool)
deriving Repr, DecidableEq

namespace Progress

/-- The post has been called. -/
def called : Progress → Bool
  | ahead => false
  | looking | reaching | leaving _ | finished _ => true

/-- The post has been called and has not returned. -/
def active : Progress → Bool
  | looking | reaching | leaving _ => true
  | ahead | finished _ => false

/-- The post has been called, and has neither appended nor dropped its message. -/
def undecided : Progress → Bool
  | looking | reaching => true
  | ahead | leaving _ | finished _ => false

/-- Whether the post has come to this end: the message is appended, or it is dropped. -/
def met (kept : Bool) : Progress → Bool
  | leaving k | finished k => k == kept
  | ahead | looking | reaching => false

/-- The post has returned. -/
def returned : Progress → Bool
  | finished _ => true
  | ahead | looking | reaching | leaving _ => false

end Progress

/-- How far the thread that drains has got.  The numbers count the messages consumed. -/
inductive Draining where
  /-- It does not hold the lock. -/
  | off
  /-- It holds the lock, and goes on to the next message. -/
  | walking (n : Nat)
  /-- It holds the lock, and has seen that no message or no callback is left. -/
  | ending (n : Nat)
deriving Repr, DecidableEq

/-- How many messages the drain that is going on has consumed. -/
def Draining.count : Draining → Nat
  | off => 0
  | walking n | ending n => n

end Traffic

open Traffic in
/-- A mailbox and the threads around it. -/
structure Traffic where
  box : Mailbox := {}
  /-- The posts whose messages the mailbox holds. -/
  posts : List Post := []
  progress : Post → Progress := fun _ ↦ .ahead
  draining : Draining := .off
  /-- How many calls of `close` have not yet set the flag. -/
  closing : Nat := 0
  /-- How many calls of `close` have set the flag and not yet returned. -/
  shut : Nat := 0

namespace Traffic

/-- What can be seen to happen. -/
inductive Sighting where
  /-- A post is called. -/
  | called (p : Post)
  /-- It finds the mailbox closed, and drops its message. -/
  | dropped (p : Post)
  /-- It finds the mailbox open. -/
  | passed (p : Post)
  /-- It has tried for the lock in vain. -/
  | waited (p : Post)
  /-- It has got the lock, appended its message and given the lock back. -/
  | appended (p : Post)
  /-- It returns. -/
  | returned (p : Post)
  /-- A drain has got the lock. -/
  | locked
  /-- The drain has found this callback registered, and consumes the message of the post. -/
  | taken (p : Post) (slot : Slot)
  /-- The drain has found no further message, or no callback. -/
  | stopped
  /-- The drain removes what it has consumed and gives the lock back. -/
  | unlocked
  /-- The callback is replaced. -/
  | listened (callback : Option Slot)
  /-- `close` is called. -/
  | closeCalled
  /-- It sets the flag. -/
  | closeStored
  /-- It returns. -/
  | closeReturned
deriving Repr, DecidableEq

/-- The post whose step it is. -/
def Sighting.post : Sighting → Option Post
  | called p | dropped p | passed p | waited p | appended p | returned p => some p
  | _ => none

/-- The same with a post that has got elsewhere. -/
def set (t : Traffic) (p : Post) (x : Progress) : Traffic :=
  { t with progress := fun q ↦ if q = p then x else t.progress q }

/-- Adds the message of a post at the end, be the mailbox closed or not. -/
def append (t : Traffic) (p : Post) : Traffic :=
  { t with box := { t.box with items := t.box.items ++ [p.message] }, posts := t.posts ++ [p] }

/-- The post can be called: it has not been, and its thread is not in the middle of another one. -/
def Ready (t : Traffic) (p : Post) : Prop :=
  t.progress p = .ahead ∧ ∀ q : Post, q.thread = p.thread → (t.progress q).active = false

/-- One step of one of the threads.  The time to wait for the lock may run out whoever holds it, and
also when the lock changes hands all the time. -/
inductive Step : Traffic → Sighting → Traffic → Prop
  | called {t : Traffic} {p : Post} : t.Ready p → Step t (.called p) (t.set p .looking)
  | dropped {t : Traffic} {p : Post} : t.progress p = .looking → t.box.closed = true →
    Step t (.dropped p) (t.set p (.leaving false))
  | passed {t : Traffic} {p : Post} : t.progress p = .looking → t.box.closed = false →
    Step t (.passed p) (t.set p .reaching)
  | waited {t : Traffic} {p : Post} : t.progress p = .reaching →
      Step t (.waited p) (t.set p .looking)
  | appended {t : Traffic} {p : Post} : t.progress p = .reaching → t.draining = .off →
    Step t (.appended p) ((t.append p).set p (.leaving true))
  | returned {t : Traffic} {p : Post} {kept : Bool} : t.progress p = .leaving kept →
    Step t (.returned p) (t.set p (.finished kept))
  | locked {t : Traffic} : t.draining = .off → Step t .locked { t with draining := .walking 0 }
  | taken {t : Traffic} {p : Post} {slot : Slot} {n : Nat} : t.draining = .walking n →
    t.posts[n]? = some p → t.box.callback = some slot →
    Step t (.taken p slot) { t with draining := .walking (n + 1) }
  | stopped {t : Traffic} {n : Nat} : t.draining = .walking n →
    (t.posts.length ≤ n ∨ t.box.callback = none) → Step t .stopped { t with draining := .ending n }
  | unlocked {t : Traffic} {n : Nat} : t.draining = .ending n →
    Step t .unlocked { t with box := t.box.settle n, posts := t.posts.drop n, draining := .off }
  | listened {t : Traffic} (callback : Option Slot) :
    Step t (.listened callback) { t with box := t.box.listen callback }
  | closeCalled {t : Traffic} : Step t .closeCalled { t with closing := t.closing + 1 }
  | closeStored {t : Traffic} {n : Nat} : t.closing = n + 1 →
    Step t .closeStored { t with box := t.box.close, closing := n, shut := t.shut + 1 }
  | closeReturned {t : Traffic} {n : Nat} :
      t.shut = n + 1 → Step t .closeReturned { t with shut := n }

/-- Steps of the threads in any order, and what is seen on the way. -/
inductive Steps : Traffic → List Sighting → Traffic → Prop
  | nil (t : Traffic) : Steps t [] t
  | cons {t t₁ t₂ : Traffic} {e : Sighting} {h : List Sighting} : Step t e t₁ → Steps t₁ h t₂ →
    Steps t (e :: h) t₂

variable {t t' t₁ t₂ : Traffic} {e : Sighting} {h h' : List Sighting} {p q : Post} {x : Progress}

namespace Steps

theorem append (h₁ : Steps t h t₁) (h₂ : Steps t₁ h' t₂) : Steps t (h ++ h') t₂ := by
  induction h₁ with
  | nil => exact h₂
  | cons hstep _ ih => exact .cons hstep (ih h₂)

theorem single (hstep : Step t e t') : Steps t [e] t' := .cons hstep (.nil t')

/-- A run can be stopped in between. -/
theorem split (hs : Steps t (h ++ h') t₂) : ∃ t₁, Steps t h t₁ ∧ Steps t₁ h' t₂ := by
  induction h generalizing t with
  | nil => exact ⟨t, .nil t, hs⟩
  | cons e h ih =>
    obtain ⟨⟩ | ⟨hstep, hrest⟩ := hs
    obtain ⟨t₁, h₁, h₂⟩ := ih hrest
    exact ⟨t₁, .cons hstep h₁, h₂⟩

/-- Whatever is seen comes from some step. -/
theorem split_at (hs : Steps t (h ++ e :: h') t') :
    ∃ t₁ t₂, Steps t h t₁ ∧ Step t₁ e t₂ ∧ Steps t₂ h' t' := by
  obtain ⟨t₁, h₁, hrest⟩ := hs.split
  obtain ⟨⟩ | ⟨hstep, h₂⟩ := hrest
  exact ⟨t₁, _, h₁, hstep, h₂⟩

/-- What holds at the start, and is kept by every step, holds after every run. -/
theorem invariant {P : List Sighting → Traffic → Prop} (hs : Steps t h t') (hstart : P [] t)
    (hstep : ∀ {h : List Sighting} {t₁ t₂ : Traffic} {e : Sighting}, P h t₁ → Step t₁ e t₂ →
      P (h ++ [e]) t₂) :
    P h t' := by
  have hgo : ∀ h₀, P h₀ t → P (h₀ ++ h) t' := by
    clear hstart
    induction hs with
    | nil =>
      intro h₀ h₁
      rwa [List.append_nil]
    | @cons _ _ _ e h hs _ ih =>
      intro h₀ h₁
      rw [List.append_cons]
      exact ih _ (hstep h₁ hs)
  exact hgo [] hstart

end Steps

/-! ## What a bystander can count -/

/-- The posts that were called, in the order of the calls. -/
def calls : List Sighting → List Post := List.filterMap fun
  | .called p => some p
  | _ => none

/-- The posts whose messages were appended, in that order. -/
def arrivals : List Sighting → List Post := List.filterMap fun
  | .appended p => some p
  | _ => none

/-- The posts whose messages were consumed, in that order. -/
def consumed : List Sighting → List Post := List.filterMap fun
  | .taken p _ => some p
  | _ => none

/-- The steps of one post. -/
def steps (p : Post) : List Sighting → List Sighting := List.filter fun e ↦ e.post = some p

theorem calls_append : calls (h ++ h') = calls h ++ calls h' := List.filterMap_append

theorem arrivals_append : arrivals (h ++ h') = arrivals h ++ arrivals h' := List.filterMap_append

theorem consumed_append : consumed (h ++ h') = consumed h ++ consumed h' := List.filterMap_append

theorem count_steps (he : e.post = some p) : (steps p h).count e = h.count e :=
  List.count_filter (decide_eq_true he)

/-! ## Threads that nobody disturbs -/

@[simp] theorem progress_set_self : (t.set p x).progress p = x := if_pos rfl

theorem progress_set_ne (h : q ≠ p) : (t.set p x).progress q = t.progress q := if_neg h

/-- **A post that nobody disturbs does what `Mailbox.push` does.** -/
theorem steps_push (hp : t.Ready p) (hlock : t.draining = .off) :
    ∃ h t', Steps t h t' ∧ t'.box = t.box.push p.message ∧ (t'.progress p).returned = true := by
  have hcall : Step t (.called p) (t.set p .looking) := .called hp
  cases hc : t.box.closed with
  | true =>
    exact ⟨_, _, .cons hcall (.cons (.dropped progress_set_self hc)
      (.single (.returned progress_set_self))), (if_pos hc).symm, by simp [Progress.returned]⟩
  | false =>
    exact ⟨_, _, .cons hcall (.cons (.passed progress_set_self hc)
      (.cons (.appended progress_set_self hlock) (.single (.returned progress_set_self)))),
      (if_neg (Bool.eq_false_iff.1 hc)).symm, by simp [Progress.returned]⟩

/-- **A post that comes during a drain does what `Mailbox.pushWaiting` does**, if the drain ends
before the time to wait runs out for the second time. -/
theorem steps_pushWaiting {n : Nat} (hp : t.Ready p) (hlock : t.draining = .ending n)
    (hwaiting : t.box.waiting = []) :
    ∃ h t', Steps t h t' ∧ t'.box = (t.box.pushWaiting p.message).settle n ∧
      (t'.progress p).returned = true := by
  have hcall : Step t (.called p) (t.set p .looking) := .called hp
  cases hc : t.box.closed with
  | true =>
    have hpush : t.box.pushWaiting p.message = t.box := if_pos hc
    rw [hpush]
    exact ⟨_, _, .cons hcall (.cons (.dropped progress_set_self hc)
      (.cons (.returned progress_set_self) (.single (.unlocked hlock)))), rfl,
        by simp [Progress.returned]⟩
  | false =>
    have hpush : t.box.pushWaiting p.message = { t.box with waiting := [p.message] } := by
      rw [Mailbox.pushWaiting, if_neg (Bool.eq_false_iff.1 hc), hwaiting]
      rfl
    refine ⟨_, _,
      .cons hcall (.cons (.passed progress_set_self hc) (.cons (.waited progress_set_self)
      (.cons (.passed progress_set_self hc) (.cons (.unlocked hlock)
        (.cons (.appended progress_set_self rfl) (.single (.returned progress_set_self))))))), ?_,
      by simp [Progress.returned]⟩
    rw [hpush]
    show { t.box with items := t.box.items.drop n ++ t.box.waiting ++ [p.message], waiting := [] } =
      _
    rw [hwaiting, List.append_nil]
    rfl

/-- What a callback may do to the mailbox that it is called from. -/
inductive Meddling where
  | listen (callback : Option Slot)
  | close
deriving Repr, DecidableEq

namespace Meddling

def apply (b : Mailbox) : Meddling → Mailbox
  | listen callback => b.listen callback
  | close => b.close

theorem items_apply (b : Mailbox) (m : Meddling) : (m.apply b).items = b.items := by cases m <;> rfl

theorem waiting_apply {b : Mailbox} (m : Meddling) (hb : b.waiting = []) :
    (m.apply b).waiting = [] := by
  cases m with
  | listen => exact hb
  | close => rfl

end Meddling

/-- A context whose callbacks meddle with the mailbox. -/
def meddler (acts : Slot → List Json → List Meddling) : Callee Mailbox where
  call slot args := do
    modify ((acts slot args).foldl Meddling.apply)
    return .ok ()
  log _ := return ()

/-- A mailbox that holds the messages of these posts. -/
structure Holds (b : Mailbox) (ps : List Post) : Prop where
  items : b.items = ps.map (·.message)
  waiting : b.waiting = []

/-- Meddling callbacks leave the messages where they are. -/
theorem holds_meddle {ps : List Post} : ∀ (ms : List Meddling) {b : Mailbox}, Holds b ps →
    Holds (ms.foldl Meddling.apply b) ps
  | [], _, hb => hb
  | m :: ms, b, hb =>
    holds_meddle ms ⟨(m.items_apply b).trans hb.items, m.waiting_apply hb.waiting⟩

/-- What a callback does is done in steps. -/
theorem steps_meddle : ∀ (ms : List Meddling) (t : Traffic),
    ∃ h, Steps t h { t with box := ms.foldl Meddling.apply t.box } ∧ consumed h = []
  | [], t => ⟨[], .nil t, rfl⟩
  | .listen cb :: ms, t => by
    obtain ⟨h, hs, hc⟩ := steps_meddle ms { t with box := t.box.listen cb }
    exact ⟨_, .cons (.listened cb) hs, hc⟩
  | .close :: ms, t => by
    obtain ⟨h, hs, hc⟩ := steps_meddle ms { t with box := t.box.close }
    exact ⟨_, .cons .closeCalled (.cons (.closeStored rfl) (.cons (.closeReturned rfl) hs)), hc⟩

section Alone

variable {b : Mailbox} {n : Nat} (acts : Slot → List Json → List Meddling)

/-- Whatever comes of a message, its callback has only meddled. -/
theorem run_deliver (slot : Slot) (m : Message) (b : Mailbox) :
    ∃ ms : List Meddling, (meddler acts).deliver slot m b = .ok () (ms.foldl Meddling.apply b) := by
  rw [Callee.deliver]
  cases m.decode with
  | error e => exact ⟨[], rfl⟩
  | ok v => exact ⟨acts slot [Message.event v], rfl⟩

/-- Without a callback a drain stops. -/
theorem run_walk_none {ms : List Message} {m : Message} (hcb : b.callback = none) :
    Mailbox.walk Place.whole (meddler acts) (m :: ms) b = .ok 0 b := by
  have hread : (Place.whole.read : Run Mailbox Mailbox) b = .ok b b := rfl
  rw [Mailbox.walk, run_bind_ok hread, hcb]
  rfl

/-- With one it hands over a message and goes on. -/
theorem run_walk_some {ms : List Message} {m : Message} {slot : Slot} {b₁ b₂ : Mailbox} {k : Nat}
    (hcb : b.callback = some slot) (h₁ : (meddler acts).deliver slot m b = .ok () b₁)
    (h₂ : Mailbox.walk Place.whole (meddler acts) ms b₁ = .ok k b₂) :
    Mailbox.walk Place.whole (meddler acts) (m :: ms) b = .ok (k + 1) b₂ := by
  have hread : (Place.whole.read : Run Mailbox Mailbox) b = .ok b b := rfl
  rw [Mailbox.walk, run_bind_ok hread, hcb]
  show ((meddler acts).deliver slot m >>= fun _ ↦ _ >>= _) b = _
  rw [run_bind_ok h₁, run_bind_ok h₂]
  rfl

/-- A walk comes to an end, and hands over messages by one step after the other. -/
theorem steps_walk : ∀ {ps : List Post} {t : Traffic} {n : Nat}, t.draining = .walking n →
    t.posts.drop n = ps → Holds t.box t.posts → ∃ k b' h,
    Mailbox.walk Place.whole (meddler acts) (ps.map (·.message)) t.box = .ok k b' ∧
      Steps t h { t with box := b', draining := .walking (n + k) } ∧ consumed h = ps.take k ∧
      (t.posts.length ≤ n + k ∨ b'.callback = none)
  | [], t, n, hd, hps, _ => by
    have ht : { t with draining := .walking (n + 0) } = t := by rw [Nat.add_zero, ← hd]
    exact ⟨0, t.box, [], rfl, by rw [ht]; exact .nil t, rfl, .inl (List.drop_eq_nil_iff.1 hps)⟩
  | p :: rest, t, n, hd, hps, hb => by
    cases hcb : t.box.callback with
    | none =>
      have ht : { t with draining := .walking (n + 0) } = t := by rw [Nat.add_zero, ← hd]
      exact ⟨0, t.box, [], run_walk_none acts hcb, by rw [ht]; exact .nil t, rfl, .inr hcb⟩
    | some slot =>
      obtain ⟨ms, hdeliver⟩ := run_deliver acts slot p.message t.box
      have hp : t.posts[n]? = some p := by
        rw [← List.head?_drop, hps]
        rfl
      have hrest : t.posts.drop (n + 1) = rest := by
        rw [← List.drop_drop, hps]
        rfl
      obtain ⟨h₁, hs₁, hnone⟩ := steps_meddle ms { t with draining := .walking (n + 1) }
      obtain ⟨k, b', h₂, hwalk, hs₂, hconsumed, hend⟩ := steps_walk
        (t := { t with box := ms.foldl Meddling.apply t.box, draining := .walking (n + 1) })
        rfl hrest (holds_meddle ms hb)
      have hn : n + 1 + k = n + (k + 1) := by omega
      rw [hn] at hs₂ hend
      refine ⟨k + 1, b', .taken p slot :: (h₁ ++ h₂), run_walk_some acts hcb hdeliver hwalk,
        .cons (.taken hd hp hcb) (hs₁.append hs₂), ?_, hend⟩
      show p :: consumed (h₁ ++ h₂) = _
      rw [consumed_append, hnone, hconsumed]
      rfl

/-- **A drain that only its own callbacks disturb does what `Mailbox.drain` does.** -/
theorem steps_drain (hlock : t.draining = .off) (hb : Holds t.box t.posts) :
    ∃ k b' h t', Mailbox.drain Place.whole (meddler acts) t.box = .ok k b' ∧ Steps t h t' ∧
      t'.box = b' ∧ t'.draining = .off ∧ consumed h = t.posts.take k := by
  have hstart : Step t .locked { t with draining := .walking 0 } := .locked hlock
  cases hcb : t.box.callback with
  | none =>
    refine ⟨0, t.box, _, _, run_drain_none hcb, .cons hstart (.cons (.stopped rfl (.inr hcb))
      (.single (.unlocked rfl))), ?_, rfl, rfl⟩
    show t.box.settle 0 = t.box
    rw [Mailbox.settle, hb.waiting, List.append_nil, List.drop_zero, ← hb.waiting]
  | some slot =>
    obtain ⟨k, b', h, hwalk, hs, hconsumed, hend⟩ := steps_walk acts
      (t := { t with draining := .walking 0 }) rfl rfl hb
    rw [List.drop_zero, ← hb.items] at hwalk
    rw [Nat.zero_add] at hs hend
    refine ⟨k, b'.settle k, .locked :: (h ++ [.stopped, .unlocked]), _, run_drain_ok hcb hwalk,
      .cons hstart (hs.append (.cons (.stopped rfl hend) (.single (.unlocked rfl)))), rfl, rfl, ?_⟩
    show consumed (h ++ _) = _
    rw [consumed_append, hconsumed]
    exact List.append_nil _

/-- From now on, a thread that nobody disturbs does what the functions on mailboxes do. -/
structure Faithful (t : Traffic) : Prop where
  push : ∀ p, t.Ready p → t.draining = .off →
    ∃ h t', Steps t h t' ∧ t'.box = t.box.push p.message ∧ (t'.progress p).returned = true
  pushWaiting : ∀ p n, t.Ready p → t.draining = .ending n →
    ∃ h t', Steps t h t' ∧ t'.box = (t.box.pushWaiting p.message).settle n ∧
      (t'.progress p).returned = true
  drain : ∀ acts, t.draining = .off → ∃ k b' h t',
    Mailbox.drain Place.whole (meddler acts) t.box = .ok k b' ∧ Steps t h t' ∧
      t'.box = b' ∧ t'.draining = .off ∧ consumed h = t.posts.take k

/-- Every traffic that holds its messages is faithful. -/
theorem Holds.faithful (hb : Holds t.box t.posts) : Faithful t where
  push _ hp hlock := steps_push hp hlock
  pushWaiting _ _ hp hlock := steps_pushWaiting hp hlock hb.waiting
  drain acts hlock := steps_drain acts hlock hb

end Alone

end Traffic

end ScriptWorkers
