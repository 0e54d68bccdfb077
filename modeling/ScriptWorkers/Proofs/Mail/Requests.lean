import ScriptWorkers.Proofs.Mail.Basic

/-!
# Requests and the account of the messages

Of all that a context can ask for, only posting concerns the account: the message is entered as
posted in time exactly if the mailbox takes it.  Workers may come, go, be listened to or not,
without any message being lost or doubled.

`items_deposited` and `journal_deposited` say what posting does to the mailbox and to the journal,
and `Sound.deposited` that both agree.  For everything else there is a lemma that it is
`Unconcerned`, and `keeps_serveDesk` and `keeps_serve` go through the requests.
-/

namespace ScriptWorkers

open World

variable {κ : Type}

namespace Mail

variable {w w' : World κ} {id id' me x : WorkerId} {side side' : Side} {engine : Engine κ} {n : Nat}

/-! ## The others -/

/-- Who is not there has drained nothing. -/
theorem rest_of_unknown (hs : Sound w) (hx : ¬ (x = 0 ∨ (w.worker? x).isSome)) : Rest x w := by
  intro id side
  have hbegun : w.begun x id side = 0 := List.countP_eq_zero.2 fun d hd hb ↦
    hx (hs.drains d hd x id side (Deed.drain?_of_begins hb)).1
  have hended : w.ended x id side = 0 := List.countP_eq_zero.2 fun d hd he ↦
    hx (hs.drains d hd x id side (Deed.drain?_of_ends he)).1
  rw [hbegun, hended]

/-- If nobody else has drained anything, the others stay at rest. -/
theorem others_of_own (hw : w.Shape) (hp : w.Passage w') (h : mail.Others me w) (hs : Sound w')
    (ho : ∀ x, x ≠ me → Own x w w') : mail.Others me w' := by
  refine ⟨hs, fun x hx hne ↦ Rest.own ?_ (ho x hne)⟩
  by_cases hk : x = 0 ∨ (w.worker? x).isSome
  · exact h.2 x (hp.under_back hw x hk hx) hne
  · exact rest_of_unknown h.1 hk

theorem keepsAt_of_own {α : Type} {y : Run (World κ) α} {a : α}
    (horder : KeepsAt (Order.quiet me) y w) (hy : y w = .ok a w')
    (hs : (Order.quiet me).inv w → Sound w → Sound w') (ho : ∀ x, Own x w w') :
    KeepsAt (mail.quiet me) y w := by
  refine horder.both_of_ok hy fun hi hj _ hr ↦ ⟨⟨?_, trivial⟩, ho me⟩
  exact others_of_own hi.1 hr.1.toPassage hj.1 (hs hi hj.1.1) fun x _ ↦ ho x

/-- A request that does not concern messages keeps the account. -/
theorem keepsAt_of_unconcerned {α : Type} {y : Run (World κ) α} {a : α}
    (horder : KeepsAt (Order.quiet me) y w) (hy : y w = .ok a w') (hu : Unconcerned w w') :
    KeepsAt (mail.quiet me) y w :=
  keepsAt_of_own horder hy (fun _ ↦ hu.sound) fun _ ↦ hu.own

/-! ## Posting -/

theorem items_setBox {b : Mailbox} (hb : w.worker? id = none → b.items = w.items id side) :
    (w.setLink id ((w.link id).setBox side b)).items id' side' =
      if id' = id ∧ side' = side then b.items else w.items id' side' := by
  by_cases hid : id' = id
  · subst hid
    cases hk : w.worker? id' with
    | none =>
      rw [setLink, updateWorker_eq_self hk, hb hk]
      split
      · rename_i h
        rw [h.2]
      · rfl
    | some k =>
      rw [World.items, link_setLink_self hk]
      by_cases hside : side' = side
      · rw [hside, Link.box_setBox_self, if_pos ⟨rfl, rfl⟩]
      · rw [Link.box_setBox_ne hside, if_neg fun h ↦ hside h.2]
        rfl
  · rw [World.items, link_setLink_ne hid, if_neg fun h ↦ hid h.1]
    rfl

/-- A mailbox takes messages exactly as long as its link is not terminated. -/
theorem closed_eq (hs : w.Shape) (id : WorkerId) (side : Side) :
    ((w.link id).box side).closed = (w.link id).terminated := by
  cases hk : w.worker? id with
  | none =>
    have hl : w.link id = Link.terminate { id } := by simp [link, hk]
    rw [hl]
    cases side <;> rfl
  | some k =>
    rw [link_of_worker? hk]
    exact (hs.workers id k hk).closed side

/-- The journal says whether the message came in time. -/
theorem journal_deposited {m : Message} : (w.deposited id side m).journal.toList =
    w.journal.toList ++ [.posted id side m !(w.link id).terminated] := by
  rw [deposited, boxPlace_modify, setLink, journal_updateWorker, journal_noted]

theorem own_deposited {m : Message} : Own x w (w.deposited id side m) :=
  ⟨_, journal_deposited, fun d hd _ _ he ↦ by simp [List.mem_singleton.1 hd, Deed.drain?] at he⟩

/-- A mailbox takes a message exactly if its link has not been terminated. -/
theorem items_pushed (hs : w.Shape) {m : Message} :
    ((boxPlace id side).modify (·.push m) w).items id' side' =
      w.items id' side' ++ (Deed.posted id side m !(w.link id).terminated).posts id' side' := by
  have hpush : (((w.link id).box side).push m).items =
      if (w.link id).terminated then w.items id side else w.items id side ++ [m] := by
    rw [Mailbox.push, closed_eq hs]
    split <;> rfl
  have hnone (h : w.worker? id = none) : (w.link id).terminated = true := by
    simp [link, h, Link.terminate]
  rw [boxPlace_modify, items_setBox fun h ↦ by rw [hpush, if_pos (hnone h)], hpush]
  by_cases h : id' = id ∧ side' = side
  · obtain ⟨rfl, rfl⟩ := h
    cases ht : (w.link id').terminated <;> simp [Deed.posts]
  · have h' : ¬ (id = id' ∧ side = side') := fun he ↦ h ⟨he.1.symm, he.2.symm⟩
    cases ht : (w.link id).terminated <;> simp [Deed.posts, h, h']

/-- A message that comes in time is the last one of its mailbox. -/
theorem items_deposited (hs : w.Shape) {m : Message} : (w.deposited id side m).items id' side' =
    w.items id' side' ++ (Deed.posted id side m !(w.link id).terminated).posts id' side' := by
  have hsame := same_noted w (.posted id side m !(w.link id).terminated)
  rw [deposited, items_pushed (hsame.shape hs), World.items, link_congr hsame.worker?,
    link_congr hsame.worker?]
  rfl

theorem drain?_posted {m : Message} {b : Bool} :
    ∀ d ∈ [Deed.posted id side m b], d.drain? = none := by
  intro d hd
  rw [List.mem_singleton.1 hd]
  rfl

theorem account_deposited {m : Message} :
    (w.deposited id side m).consumed id' side' = w.consumed id' side' ∧
      (w.deposited id side m).receipts id' side' = w.receipts id' side' :=
  account_eq journal_deposited fun d hd x he ↦ by simp [drain?_posted d hd] at he

/-- The account after a message has been posted. -/
theorem Sound.deposited {m : Message} (hw : w.Shape) (h : Sound w) :
    Sound (w.deposited id side m) := by
  refine h.extend journal_deposited (fun c p hc ↦ owner?_deposited.trans hc) (fun id' side' ↦ ?_)
    (fun d hd x _ _ he ↦ by simp [drain?_posted d hd] at he)
    fun d hd x _ _ he ↦ by simp [drain?_posted d hd] at he
  rw [posts_append journal_deposited, account_deposited.1, items_deposited hw, h.balance,
    List.append_assoc, List.flatMap_singleton]

/-! ## Small changes -/

theorem unconcerned_setScope (s : Scope κ) : Unconcerned w (w.setScope me s) :=
  unconcerned_of_eq (journal_setScope s) (fun _ ↦ owner?_setScope s) fun id side ↦ by
    rw [World.items, World.items, link_setScope]

/-- A note that is neither of a post nor of a drain does not concern messages. -/
theorem unconcerned_noted {d : Deed} (hd : d.drain? = none) (hp : ∀ id side, d.posts id side = []) :
    Unconcerned w (w.noted d) where
  journal := ⟨[d], journal_noted w d, by simpa using ⟨hd, hp⟩⟩
  owner? c p hc := by rwa [owner?_congr (same_noted w d).worker?]
  items id side := by rw [World.items, World.items, link_congr (same_noted w d).worker?]

theorem unconcerned_listen {cb : Option Slot} :
    Unconcerned w ((boxPlace id side).modify (·.listen cb) w) := by
  refine unconcerned_of_eq (journal_updateWorker _) (fun _ ↦ owner?_setLink _) fun id' side' ↦ ?_
  have hb : (((w.link id).box side).listen cb).items = w.items id side := rfl
  rw [boxPlace_modify, items_setBox fun _ ↦ hb, hb]
  split
  · rename_i h
    rw [h.1, h.2]
  · rfl

theorem unconcerned_spawned {script : String} : Unconcerned w (w.spawned me script) := by
  refine Unconcerned.trans ⟨⟨[], by simp [World.grow], by simp⟩, fun c p ↦ owner?_grow,
    fun id side ↦ ?_⟩ (unconcerned_setScope _)
  rw [World.items, World.items, link, link, worker?_grow]
  split
  · rename_i h
    rw [h, worker?_next]
    cases side <;> rfl
  · rfl

section Requests

variable (cb : Option Slot)

theorem keeps_desk {f : Desk → Desk}
    (horder : Keeps (Order.quiet me) ((deskPlace me).update f : Run (World κ) Unit)) :
    Keeps (mail.quiet me) ((deskPlace me).update f : Run (World κ) Unit) :=
  fun w ↦ keepsAt_of_unconcerned (horder w) rfl (unconcerned_setScope _)

theorem keeps_timers (f : Timers → Timers) :
    Keeps (mail.quiet me) ((timersPlace me).update f : Run (World κ) Unit) :=
  fun w ↦ keepsAt_of_unconcerned (Order.keeps_timers f w) rfl (unconcerned_setScope _)

theorem keeps_retain (f : FunctionRef) :
    Keeps (mail.quiet me) (World.retain me f : Run (World κ) Slot) :=
  fun w ↦ keepsAt_of_unconcerned (Order.keeps_retain f w) rfl
    (.trans (unconcerned_noted rfl fun _ _ ↦ rfl) (unconcerned_setScope _))

theorem keeps_addTimer (s : Slot) (p : Option Float) :
    Keeps (mail.quiet me) (World.addTimer me s p : Run (World κ) UInt32) :=
  fun w ↦ keepsAt_of_unconcerned (Order.keeps_addTimer s p w) rfl
    (.trans (unconcerned_noted rfl fun _ _ ↦ rfl) (unconcerned_setScope _))

theorem keeps_removeTimer (i : UInt32) :
    Keeps (mail.quiet me) (World.removeTimer me i : Run (World κ) (Option Slot)) :=
  fun w ↦ keepsAt_of_unconcerned (Order.keeps_removeTimer i w) rfl (unconcerned_setScope _)

theorem keepsAt_exchange
    (horder : KeepsAt (Order.quiet me) (World.exchange (boxPlace id side) cb) w) :
    KeepsAt (mail.quiet me) (World.exchange (boxPlace id side) cb) w :=
  keepsAt_of_unconcerned horder rfl unconcerned_listen

theorem keeps_spawn (script : String) : Keeps (mail.quiet me)
    (World.spawn me script : Run (World κ) (Except CreationError WorkerId)) := by
  intro w
  have hrun := run_spawn w me script
  by_cases h : w.loader.contains script = true
  · rw [if_pos h] at hrun
    exact keepsAt_of_unconcerned (Order.keeps_spawn script w) hrun unconcerned_spawned
  · rw [if_neg h] at hrun
    exact keepsAt_of_unconcerned (Order.keeps_spawn script w) hrun
      (unconcerned_of_eq rfl (fun _ ↦ rfl) fun _ _ ↦ rfl)

/-- Posting keeps the account. -/
theorem keepsAt_deposit (hid : id = me ∨ w.owner? id = some me) (m : Message) :
    KeepsAt (mail.quiet me) (World.deposit id side m) w :=
  keepsAt_of_own (Order.quiet_of_still (Order.keepsAt_deposit hid m)) (run_deposit w id side m)
    (fun hi hs ↦ hs.deposited hi.1) fun _ ↦ own_deposited

theorem keepsAt_dismiss (hfin : mail.regime.Brings (step engine n)) (hid : w.owner? id = some me) :
    KeepsAt (mail.quiet me) (dismiss (step engine n) me id) w :=
  Upkeep.keepsAt_dismiss hfin (fun _ ↦ trivial) (fun _ ↦ adds_of_eq (journal_setScope _)) hid

theorem keeps_terminateKids (hfin : mail.regime.Brings (step engine n)) :
    Keeps (mail.quiet me) (terminateKids (step engine n) me) := by
  intro w hi
  rw [Order.run_terminateKids]
  exact Upkeep.allows_bring_quiet hfin hi (hi.1.1.fits me).kids trivial
    (adds_of_eq (journal_setScope _))

theorem keepsAt_register {src : Source} (f : Handler)
    (h : ∀ id, src = .worker id → w.owner? id = some me) :
    KeepsAt (mail.quiet me) (World.register me src f) w := by
  have hexchange {w : World κ} (h : ∀ id, src = .worker id → w.owner? id = some me)
      (cb : Option Slot) : KeepsAt (mail.quiet me) (World.exchange (handlerPlace me src) cb) w := by
    cases src with
    | owner => exact keepsAt_exchange cb (Order.keeps_exchange_inbox cb w)
    | worker id => exact keepsAt_exchange cb (Order.keepsAt_exchange_kid (h id rfl) cb)
  cases f with
  | invalid => exact Upkeep.controlled_of_mild (Order.keeps_note _ w) (mild_note _)
  | clear =>
    exact (hexchange h none).bind fun old w₁ _ _ _ ↦ keeps_desk (Order.keeps_forget old) w₁
  | function f =>
    refine (keeps_retain f w).bind fun slot w₁ _ _ hr ↦ ?_
    exact (hexchange (fun id hs ↦ hr.1.1.owner? (h id hs)) (some slot)).bind
      fun old w₂ _ _ _ ↦ keeps_desk (Order.keeps_forget old) w₂

theorem keeps_create {finish : WorkerId → Run (World κ) Unit} (script : String) :
    Keeps (mail.quiet me) (serveDesk finish me (.create script)) := by
  intro w
  refine (keeps_spawn script w).bind fun r w₁ h _ _ ↦ ?_
  cases r with
  | error e => exact keepsAt_pure _ _ w₁
  | ok id =>
    have horder := Order.keepsAt_hold (owner?_of_spawn h)
    exact (keepsAt_of_unconcerned horder rfl (unconcerned_setScope _)).bind fun _ w₂ _ _ _ ↦
      keepsAt_pure _ _ w₂

variable (hfin : mail.regime.Brings (step engine n))
include hfin

/-- Retiring a worker leaves its messages where they are. -/
theorem keepsAt_retire (hid : w.owner? id = some me) :
    KeepsAt (mail.quiet me) (do
      (deskPlace me).update (·.letGo id)
      dismiss (step engine n) me id
      let old ← World.exchange (boxPlace id .outbox) none
      (deskPlace me).update (·.forget old)) w := by
  refine KeepsAt.bind (keeps_desk (Order.keeps_desk ?_) w) fun _ w₁ _ _ h₁ ↦ ?_
  · exact fun d c hc ↦ (List.mem_filter.1 hc).1
  have hid₁ := h₁.1.1.owner? hid
  refine (keepsAt_dismiss hfin hid₁).bind fun _ w₂ _ _ h₂ ↦ ?_
  have hid₂ := h₂.1.1.owner? hid₁
  exact (keepsAt_exchange none (Order.keepsAt_exchange_kid hid₂ none)).bind fun old w₃ _ _ _ ↦
    keeps_desk (Order.keeps_forget old) w₃

/-- Case by case over what can be asked for over the desk. -/
theorem keeps_serveDesk (q : DeskRequest) :
    Keeps (mail.quiet me) (serveDesk (step engine n) me q) := by
  intro w
  cases q with
  | note e => exact Upkeep.controlled_of_mild (Order.keeps_note e w) (mild_note e)
  | post m => exact keepsAt_deposit (.inl rfl) m
  | holds id => exact keepsAt_read_bind (keepsAt_pure _ _ w)
  | function slot => exact keepsAt_read_bind (keepsAt_pure _ _ w)
  | handle src f =>
    refine keepsAt_read_bind (keepsAt_ite (fun h hi ↦ ?_) fun _ ↦ keepsAt_pure _ _ w)
    exact keepsAt_register f (fun id hs ↦ Order.owner?_of_holds hi.1 (by subst hs; exact h)) hi
  | handler src =>
    refine keepsAt_read_bind (keepsAt_ite (fun _ ↦ ?_) fun _ ↦ keepsAt_pure _ _ w)
    exact keepsAt_read_bind (keepsAt_pure _ _ w)
  | startInterval f p =>
    exact (keeps_retain f w).bind fun slot w₁ _ _ _ ↦ keeps_addTimer slot p w₁
  | stopInterval i =>
    exact (keeps_removeTimer i w).bind fun old w₁ _ _ _ ↦ keeps_desk (Order.keeps_forget old) w₁
  | create script => exact keeps_create script w
  | send id m =>
    refine keepsAt_read_bind (keepsAt_ite (fun h hi ↦ ?_) fun _ ↦ keepsAt_pure _ _ w)
    exact keepsAt_deposit (.inr (Order.owner?_of_holds hi.1 h)) m hi
  | retire id =>
    refine keepsAt_read_bind (keepsAt_ite (fun h hi ↦ ?_) fun _ ↦ keepsAt_pure _ _ w)
    refine (keepsAt_retire hfin (Order.owner?_of_holds hi.1 h)).bind (fun _ w₁ _ _ _ ↦ ?_) hi
    have horder : KeepsAt (Order.quiet me) (record (.retired me id)) w₁ :=
      Order.quiet_of_still (Order.keepsAt_record (.refl w₁ me))
    exact keepsAt_of_unconcerned horder rfl (unconcerned_noted rfl fun _ _ ↦ rfl)

/-- **Requests keep the account**, whatever a context asks for. -/
theorem keeps_serve (q : Request) : Keeps (mail.quiet me) (serve (step engine n) me q) := by
  intro w
  cases q with
  | desk q => exact keeps_serveDesk hfin q w
  | advance s =>
    exact Upkeep.controlled_of_mild (Order.quiet_of_still (Order.keeps_clock _ w)) (mild_clock _)
  | unload id =>
    refine keepsAt_read_bind (KeepsAt.bind ?_ fun _ w₁ _ _ _ ↦ keepsAt_pure _ _ w₁)
    exact Upkeep.controlled_of_mild (Order.quiet_of_still (Order.keeps_loader _ w)) (mild_loader _)
  | listen cb => exact keepsAt_exchange cb (Order.keeps_exchange_inbox cb w)
  | addTimer s p => exact keeps_addTimer s p w
  | removeTimer i => exact keeps_removeTimer i w
  | spawn script => exact keeps_spawn script w
  | postTo id m =>
    exact keepsAt_get_bind (keepsAt_ite (fun h ↦ keepsAt_deposit (.inr h) m) fun _ ↦
      keepsAt_pure _ _ w)
  | listenTo id cb =>
    exact keepsAt_get_bind (keepsAt_ite (fun h ↦ keepsAt_exchange cb
      (Order.keepsAt_exchange_kid h cb)) fun _ ↦ keepsAt_pure _ _ w)
  | terminate id =>
    exact keepsAt_get_bind (keepsAt_ite (keepsAt_dismiss hfin) fun _ ↦ keepsAt_pure _ _ w)
  | terminateAll => exact keeps_terminateKids hfin w
  | resign =>
    exact Upkeep.controlled_of_mild (Order.quiet_of_still (Order.keepsAt_flag (.inl rfl))) mild_flag

end Requests

end Mail

end ScriptWorkers
