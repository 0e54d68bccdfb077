import ScriptWorkers.Proofs.Mail.Requests

/-!
# Drains and the account of the messages

A drain is the only thing that takes messages out of a mailbox.  It begins, hands over one message
after the other, and ends by removing those that it has handed over.  While it goes on, the
callbacks may do anything: post to the same mailbox, change its callback, terminate its link.  But
nobody else drains the mailbox meanwhile, so the messages that were there at the start stay where
they are (`Mail.items_of_walk`), and what has become of each of them is put down once
(`Mail.receipts_walk`).

## What is here

* `Draining me id side`: the context `me` is in the middle of a drain of that mailbox, and of no
  other.  It lasts as long as `me` neither begins nor ends a drain (`Steady`).
* `delivering`: the guarantee inside a drain, in which what was consumed and what has been told of
  it need not agree yet.
* `Sound.drain`, `receipts_deliver`, `receipts_walk`: one message, then all of them.
* `drain_began`, `drain_ended`, `walk_ended`: how a drain enters and leaves that state; from these
  follows `keepsAt_drainBox`.
-/

namespace ScriptWorkers

open World

variable {κ : Type}

namespace Mail

variable {w w' w'' : World κ} {id me x : WorkerId} {side : Side} {engine : Engine κ} {n : Nat}

/-! ## Ticks -/

section Ticks

variable {c : Callee (World κ)} (hk : c.KeepsAll (mail.call me))
include hk

theorem noting_timer_keeps : (noting c me .timer).KeepsAll (mail.call me) := by
  have hrecord {d : Deed} {w : World κ} (hd : d.about = me) (hn : d.drain? = none)
      (hp : ∀ id side, d.posts id side = []) : KeepsAt (mail.call me) (record d) w :=
    Upkeep.call_of_quiet (keepsAt_of_unconcerned
      (Order.quiet_of_still (Order.keepsAt_record (hd ▸ .refl w _))) rfl (unconcerned_noted hn hp))
  constructor
  · intro slot args w
    exact keepsAt_read_bind ((hrecord (by rfl) (by rfl) fun _ _ ↦ by rfl).bind fun _ w₁ _ _ _ ↦
      hk.call slot args w₁)
  · intro line w
    exact (hrecord (by rfl) (by rfl) fun _ _ ↦ by rfl).bind fun _ w₁ _ _ _ ↦ hk.log line w₁

/-- Ticks drain nothing. -/
theorem keeps_tickTimers : Keeps (mail.call me) (tickTimers c me) := by
  intro w
  have hn := noting_timer_keeps hk
  refine keepsAt_read_bind (keepsAt_read_bind (KeepsAt.bind ?_ fun _ w₁ _ _ _ ↦ ?_))
  · exact Upkeep.call_of_quiet (keeps_timers _ w)
  · exact keeps_fire hn.log (fun t _ w' _ ↦ hn.call t.callback [] w') w₁

end Ticks

/-! ## While a drain goes on -/

/-- In between the context `me` has neither begun nor ended a drain. -/
def Steady (me : WorkerId) : World κ → World κ → Prop :=
  Adds fun d ↦ ∀ id side, d.begins me id side = false ∧ d.ends me id side = false

theorem Own.steady (h : Own me w w') : Steady me w w' := by
  refine h.mono fun d hd id side ↦ ⟨?_, ?_⟩
  · exact Bool.eq_false_iff.2 fun hb ↦ hd id side (Deed.drain?_of_begins hb)
  · exact Bool.eq_false_iff.2 fun he ↦ hd id side (Deed.drain?_of_ends he)

/-- In a steady time the counts of drains stay as they are. -/
theorem Steady.counts (h : Steady me w w') (id : WorkerId) (side : Side) :
    w'.begun me id side = w.begun me id side ∧ w'.ended me id side = w.ended me id side := by
  obtain ⟨ds, hd, hds⟩ := h
  rw [begun_append hd, ended_append hd]
  constructor
  · rw [Nat.add_eq_left, List.countP_eq_zero]
    exact fun d hm hb ↦ by simp [(hds d hm id side).1] at hb
  · rw [Nat.add_eq_left, List.countP_eq_zero]
    exact fun d hm he ↦ by simp [(hds d hm id side).2] at he

/-- The guarantee of what happens inside a drain of the context `me`. -/
def delivering (me : WorkerId) : Guarantee (World κ) :=
  (Order.act me).both (mail.keeping False (mail.Others me) (Steady me)
    (fun _ ↦ adds_of_eq rfl) Adds.trans)

/-- The context `me` is in the middle of a drain of this mailbox, and of no other. -/
def Draining (me id : WorkerId) (side : Side) (w : World κ) : Prop :=
  Order.Drains me id side w ∧ ∀ id' side',
    w.begun me id' side' = w.ended me id' side' + if id = id' ∧ side = side' then 1 else 0

/-- A mailbox that is being drained is not idle. -/
theorem Draining.not_idle (h : Draining me id side w) : ¬ w.Idle id side := by
  intro hi
  have := h.2 id side
  rw [hi me, if_pos ⟨rfl, rfl⟩] at this
  exact Nat.succ_ne_self _ this.symm

theorem Draining.steady (h : Draining me id side w) (hd : Order.Drains me id side w')
    (hs : Steady me w w') : Draining me id side w' := by
  refine ⟨hd, fun id' side' ↦ ?_⟩
  obtain ⟨hb, he⟩ := hs.counts id' side'
  rw [hb, he, h.2]

/-- Whatever callbacks do, the drain goes on. -/
theorem stable_draining :
    (delivering me : Guarantee (World κ)).Stable (Draining me id side) :=
  fun _ h hr ↦ h.steady (h.1.mono hr.1.1.toPassage) hr.2

/-- What a callback keeps may happen inside a drain. -/
theorem delivering_of_call {α : Type} {y : Run (World κ) α} (h : KeepsAt (mail.call me) y w) :
    KeepsAt (delivering me) y w := by
  refine h.mono (fun hi ↦ ⟨hi.1, hi.2, trivial⟩) (fun _ _ hi' hr ↦ ?_) fun e w' _ hb ↦ ?_
  · exact ⟨⟨hi'.1, hi'.2.1⟩, hr.1, hr.2.steady⟩
  · refine ⟨hb.1, ?_⟩
    cases e with
    | panic => exact hb.2.1.elim
    | exhausted => trivial
    | endless p => exact hb.2

theorem own_noted {d : Deed} (hdrain : d.drain? = some (me, id, side)) (hj : w'.journal = w.journal)
    (hx : x ≠ me) : Own x w (w'.noted d) := by
  refine ⟨[d], by rw [journal_noted, hj], fun e he id' side' he' ↦ hx ?_⟩
  rw [List.mem_singleton.1 he, hdrain, Option.some_inj] at he'
  exact (Prod.mk.inj he').1.symm

/-- How the account is continued by what a drain puts down. -/
theorem Sound.drain {d : Deed} (h : Sound w) (hj : w'.journal = w.journal)
    (ho : ∀ c, w'.owner? c = w.owner? c) (hdrain : d.drain? = some (me, id, side))
    (hknown : me = 0 ∨ (w.worker? me).isSome) (hd : Order.Drains me id side w)
    (hitems : ∀ id' side', w.items id' side' = d.consumed id' side' ++ w'.items id' side')
    (htold : (w'.noted d).Idle id side → w.receipts id side ++ d.receipts id side =
      (w.consumed id side ++ d.consumed id side).map Message.receipt) : Sound (w'.noted d) := by
  have hsame := same_noted w' d
  have hj' : (w'.noted d).journal.toList = w.journal.toList ++ [d] := by rw [journal_noted, hj]
  have ho' (c p : WorkerId) (hc : w.owner? c = some p) : (w'.noted d).owner? c = some p := by
    rwa [owner?_congr hsame.worker?, ho]
  have hbox (x id' : WorkerId) (side' : Side) (e : Deed) (he : e ∈ [d])
      (he' : e.drain? = some (x, id', side')) : x = me ∧ id' = id ∧ side' = side := by
    rw [List.mem_singleton.1 he, hdrain, Option.some_inj] at he'
    cases he'
    exact ⟨rfl, rfl, rfl⟩
  refine h.extend hj' ho' (fun id' side' ↦ ?_) (fun e he x id' side' he' ↦ ?_)
    fun e he x id' side' he' hi ↦ ?_
  · have hposts : d.posts id' side' = [] := by
      cases d <;> first | rfl | cases hdrain
    rw [posts_append hj', consumed_append hj', List.flatMap_singleton, List.flatMap_singleton,
      hposts, List.append_nil, h.balance, hitems, List.append_assoc, World.items, World.items,
      link_congr hsame.worker?]
  · obtain ⟨rfl, rfl, rfl⟩ := hbox x id' side' e he he'
    exact ⟨known_of_owner ho' hknown, drains_of_owner ho' hd⟩
  · obtain ⟨rfl, rfl, rfl⟩ := hbox x id' side' e he he'
    rw [receipts_append hj', consumed_append hj', List.flatMap_singleton, List.flatMap_singleton]
    exact htold hi

/-! ## One message -/

section Deeds

variable {d : Deed} (hdrain : d.drain? = some (me, id, side))
  (hsteady : ∀ id side, d.begins me id side = false ∧ d.ends me id side = false)
include hdrain hsteady

theorem consumed_of_steady (id' : WorkerId) (side' : Side) : d.consumed id' side' = [] := by
  cases d with
  | ended x id' side' ms =>
    have hx : x = me := (Prod.mk.inj (Option.some_inj.1 hdrain)).1
    have := (hsteady id' side').2
    simp [Deed.ends, hx] at this
  | _ => rfl

/-- Putting down what has become of a message keeps the account right. -/
theorem Sound.drained (h : Sound w) (hknown : me = 0 ∨ (w.worker? me).isSome)
    (hd : Draining me id side w) : Sound (w.noted d) := by
  refine h.drain rfl (fun _ ↦ rfl) hdrain hknown hd.1 (fun id' side' ↦ ?_) fun hi ↦ ?_
  · rw [consumed_of_steady hdrain hsteady, List.nil_append]
  · -- the drain is not over
    have hst : Steady me w (w.noted d) := adds_noted hsteady
    have hd' : Draining me id side (w.noted d) :=
      hd.steady (drains_of_owner (fun _ _ hc ↦ hc) hd.1) hst
    exact absurd hi hd'.not_idle

theorem keepsAt_record_draining :
    KeepsAt ((delivering me).under (Draining me id side)) (record d) w := by
  refine KeepsAt.under stable_draining fun hd ↦ ?_
  have habout := Deed.about_of_drain? hdrain
  refine KeepsAt.both_of_ok (Order.keepsAt_record_act habout) rfl fun hi hj _ hr ↦ ⟨?_, ?_⟩
  · exact others_of_own hi.1 hr.1.toPassage hj (hj.1.drained hdrain hsteady hi.2.known hd)
      fun x hx ↦ own_noted hdrain rfl hx
  · exact adds_noted hsteady

end Deeds

/-- While a context has control, nothing is put down about a mailbox that it drains. -/
theorem account_of_own (hs : Sound w') (hd : Order.Drains me id side w') (ho : Own me w w') :
    w'.consumed id side = w.consumed id side ∧ w'.receipts id side = w.receipts id side := by
  obtain ⟨ds, hj, hds⟩ := ho
  refine account_eq hj fun d hm x he ↦ ?_
  have hdr := (hs.drains d (by rw [hj]; exact List.mem_append_right _ hm) x id side he).2
  exact hds d hm id side (drains_unique hdr hd ▸ he)

/-- A deed is put down in a drain, and then the context has control. -/
theorem keepsAt_record_call {α : Type} {y : Run (World κ) α} {d : Deed}
    (hy : Keeps (mail.call me) y) (hdrain : d.drain? = some (me, id, side))
    (hsteady : ∀ id side, d.begins me id side = false ∧ d.ends me id side = false) :
    KeepsAt ((delivering me).under (Draining me id side)) (record d >>= fun _ ↦ y) w :=
  (keepsAt_record_draining hdrain hsteady).bind fun _ w₁ _ _ _ ↦
    KeepsAt.under stable_draining fun _ ↦ delivering_of_call (hy w₁)

theorem receipts_record_call {α : Type} {y : Run (World κ) α} {a : α} {d : Deed}
    (hy : Keeps (mail.call me) y) (hdrain : d.drain? = some (me, id, side))
    (hsteady : ∀ id side, d.begins me id side = false ∧ d.ends me id side = false)
    (hi : ((delivering me).under (Draining me id side)).inv w)
    (hx : (record d >>= fun _ ↦ y) w = .ok a w') :
    w'.receipts id side = w.receipts id side ++ d.receipts id side := by
  obtain ⟨_, w₁, h₁, h₂⟩ := of_run_bind_ok hx
  have hi₁ := ((keepsAt_record_draining hdrain hsteady).ok hi h₁).1
  obtain ⟨hi₂, hr₂⟩ := (hy w₁).ok ⟨hi₁.1.1, hi₁.1.2, trivial⟩ h₂
  have hd₂ : Order.Drains me id side w' := hi₁.2.1.mono hr₂.1.1.toPassage
  rw [(account_of_own hi₂.2.1.1 hd₂ hr₂.2).2]
  cases h₁
  exact (receipts_append (journal_noted w d)).trans (by rw [List.flatMap_singleton])

section Deliver

variable {c : Callee (World κ)} (hk : c.KeepsAll (mail.call me)) {slot : Slot}
include hk

theorem keeps_noting_call (args : List Json) : Keeps ((delivering me).under (Draining me id side))
    ((noting c me (.mail id side)).call slot args) :=
  fun _ ↦ keepsAt_read_bind (keepsAt_record_call (hk.call slot args) rfl fun _ _ ↦ ⟨rfl, rfl⟩)

theorem keeps_noting_log (line : LogLine) : Keeps ((delivering me).under (Draining me id side))
    ((noting c me (.mail id side)).log line) :=
  fun _ ↦ keepsAt_record_call (hk.log line) rfl fun _ _ ↦ ⟨rfl, rfl⟩

/-- Delivering one message keeps the drain going. -/
theorem keeps_deliver (m : Message) : Keeps ((delivering me).under (Draining me id side))
    ((noting c me (.mail id side)).deliver slot m) :=
  fun w ↦ keepsAt_deliver (keeps_noting_log hk) (fun args ↦ keeps_noting_call hk args w) m

/-- What becomes of a message is put down, once. -/
theorem receipts_deliver {m : Message} {u : Unit}
    (hi : ((delivering me).under (Draining me id side)).inv w)
    (hx : (noting c me (.mail id side)).deliver slot m w = .ok u w') :
    w'.receipts id side = w.receipts id side ++ [m.receipt] := by
  rw [Callee.deliver] at hx
  rw [Message.receipt]
  cases hm : m.decode with
  | error e =>
    simp only [hm] at hx
    rw [receipts_record_call (hk.log _) rfl (fun _ _ ↦ ⟨rfl, rfl⟩) hi hx]
    exact congrArg _ (if_pos ⟨rfl, rfl⟩)
  | ok v =>
    simp only [hm] at hx
    obtain ⟨r, w₁, h₁, h₂⟩ := of_run_bind_ok hx
    have hcall := receipts_record_call (hk.call slot _) rfl (fun _ _ ↦ ⟨rfl, rfl⟩) hi h₁
    have hi₁ := ((keeps_noting_call hk _ w).ok hi h₁).1
    have hrest : w'.receipts id side = w₁.receipts id side := by
      cases r with
      | ok a =>
        cases h₂
        rfl
      | error e =>
        rw [receipts_record_call (hk.log _) rfl (fun _ _ ↦ ⟨rfl, rfl⟩) hi₁ h₂]
        exact List.append_nil _
    rw [hrest, hcall]
    exact congrArg _ (if_pos ⟨rfl, rfl⟩)

/-- The messages that a drain walks over are handed over in their order, up to some point. -/
theorem receipts_walk : ∀ {ms : List Message} {w : World κ} {n : Nat},
    ((delivering me).under (Draining me id side)).inv w →
    Mailbox.walk (boxPlace id side) (noting c me (.mail id side)) ms w = .ok n w' →
    n ≤ ms.length ∧
      w'.receipts id side = w.receipts id side ++ (ms.take n).map Message.receipt
  | [], w, n, hi, hx => by
    cases hx
    exact ⟨Nat.le_refl _, by simp⟩
  | m :: rest, w, n, hi, hx => by
    rw [Mailbox.walk] at hx
    obtain ⟨b, w₀, h₀, hx⟩ := of_run_bind_ok hx
    cases h₀
    cases hcb : ((boxPlace id side).get w).callback with
    | none =>
      simp only [hcb] at hx
      cases hx
      exact ⟨Nat.zero_le _, by simp⟩
    | some slot =>
      simp only [hcb] at hx
      obtain ⟨_, w₁, h₁, hx⟩ := of_run_bind_ok hx
      obtain ⟨k, w₂, h₂, hx⟩ := of_run_bind_ok hx
      cases hx
      obtain ⟨hle, hrest⟩ := receipts_walk ((keeps_deliver hk m w).ok hi h₁).1 h₂
      refine ⟨Nat.succ_le_succ hle, ?_⟩
      rw [hrest, receipts_deliver hk hi h₁, List.take_succ_cons, List.map_cons, List.append_assoc]
      rfl

end Deliver

/-! ## A whole drain -/

/-- Nobody drains a mailbox if the context that it is meant for is at rest. -/
theorem Sound.idle (hs : Sound w) (hd : Order.Drains me id side w) (hr : Rest me w) :
    w.Idle id side := by
  intro x
  by_cases hx : x = me
  · rw [hx]
    exact hr id side
  · have hnone (d : Deed) (hm : d ∈ w.journal.toList) : d.drain? ≠ some (x, id, side) :=
      fun he ↦ hx (drains_unique (hs.drains d hm x id side he).2 hd)
    have hbegun : w.begun x id side = 0 := List.countP_eq_zero.2 fun d hm hb ↦
      hnone d hm (Deed.drain?_of_begins hb)
    have hended : w.ended x id side = 0 := List.countP_eq_zero.2 fun d hm he ↦
      hnone d hm (Deed.drain?_of_ends he)
    rw [hbegun, hended]

/-- While a drain goes on, no other drain of the mailbox ends. -/
theorem consumed_of_walk (hs : Sound w') (hd : Order.Drains me id side w') (hst : Steady me w w') :
    w'.consumed id side = w.consumed id side := by
  obtain ⟨ds, hj, hds⟩ := hst
  rw [consumed_append hj, List.append_right_eq_self, List.flatMap_eq_nil_iff]
  intro d hm
  cases d with
  | ended x id' side' ms =>
    refine if_neg ?_
    rintro ⟨rfl, rfl⟩
    have hmem : Deed.ended x id' side' ms ∈ w'.journal.toList := by
      rw [hj]
      exact List.mem_append_right _ hm
    have hx : x = me := drains_unique (hs.drains _ hmem x id' side' rfl).2 hd
    have hends := (hds _ hm id' side').2
    simp [Deed.ends, hx] at hends
  | _ => rfl

/-- What is in a mailbox at the start of a drain is still in front when the messages have
been handed over. -/
theorem items_of_walk (h : Sound w) (h' : Sound w') (hd : Order.Drains me id side w')
    (hst : Steady me w w') : w.items id side <+: w'.items id side := by
  have hc := consumed_of_walk h' hd hst
  obtain ⟨ds, hj, -⟩ := hst
  refine ⟨ds.flatMap (·.posts id side), ?_⟩
  have hposts : w.consumed id side ++ (w.items id side ++ ds.flatMap (·.posts id side)) =
      w.consumed id side ++ w'.items id side := by
    rw [← List.append_assoc, ← h.balance, ← posts_append hj, h'.balance, hc]
  exact List.append_cancel_left hposts

/-- At the end of a drain the first `n` messages are taken out of its own mailbox. -/
theorem items_settled (hs : w.Shape) (id : WorkerId) (side : Side) (n : Nat) (id' : WorkerId)
    (side' : Side) : w.items id' side' =
      (if id = id' ∧ side = side' then (w.items id side).take n else []) ++
      ((boxPlace id side).modify (·.settle n) w).items id' side' := by
  have hwaiting : ((w.link id).box side).waiting = [] := by
    cases hk : w.worker? id with
    | none => cases side <;> simp [link, hk, Link.terminate, Link.box, Mailbox.close]
    | some k =>
      rw [link_of_worker? hk]
      exact (hs.workers id k hk).waiting side
  have hsettle : (((w.link id).box side).settle n).items = (w.items id side).drop n := by
    rw [Mailbox.settle, hwaiting, List.append_nil]
    rfl
  have hnone (hk : w.worker? id = none) : w.items id side = [] := by
    cases side <;> simp [World.items, link, hk, Link.terminate, Link.box, Mailbox.close]
  rw [boxPlace_modify, items_setBox fun hk ↦ by rw [hsettle, hnone hk, List.drop_nil], hsettle]
  by_cases h : id = id' ∧ side = side'
  · obtain ⟨rfl, rfl⟩ := h
    rw [if_pos ⟨rfl, rfl⟩, if_pos ⟨rfl, rfl⟩, List.take_append_drop]
  · rw [if_neg h, if_neg fun h' ↦ h ⟨h'.1.symm, h'.2.symm⟩, List.nil_append]

/-- A drain begins: nobody else drains that mailbox, and `me` drains no other. -/
theorem drain_began (hi : (mail.act me).inv w) (hd : Order.Drains me id side w) :
    ((delivering me).under (Draining me id side)).inv (w.noted (.began me id side)) ∧
      (Order.act me).rel w (w.noted (.began me id side)) := by
  have hj := journal_noted w (.began me id side)
  have hrun : record (.began me id side) w = .ok () (w.noted (.began me id side)) := rfl
  obtain ⟨hi₁, hr₁⟩ := KeepsAt.ok (Order.keepsAt_record_act (by rfl)) hi.1 hrun
  have hdraining : Draining me id side (w.noted (.began me id side)) := by
    refine ⟨hd.mono hr₁.1.toPassage, fun id' side' ↦ ?_⟩
    rw [begun_append hj, ended_append hj, hi.2.2 me (.refl w me) id' side']
    simp [Deed.begins, Deed.ends, List.countP_cons]
  refine ⟨⟨⟨hi₁, ?_⟩, hdraining⟩, hr₁⟩
  refine others_of_own hi.1.1 hr₁.1.toPassage hi.2.others ?_ fun x hx ↦ own_noted rfl rfl hx
  exact hi.2.1.drain rfl (fun _ ↦ rfl) rfl hi.1.2.known hd (fun _ _ ↦ rfl) fun hidle ↦
    absurd hidle hdraining.not_idle

/-- A drain ends: what was walked is consumed, and the account is right again. -/
theorem drain_ended {ms : List Message} (hi : ((delivering me).under (Draining me id side)).inv w)
    (horder : (Order.act me).inv w' ∧ (Order.act me).rel w w') (hj : w'.journal = w.journal)
    (ho : ∀ c, w'.owner? c = w.owner? c)
    (hitems : ∀ id' side', w.items id' side' =
      (if id = id' ∧ side = side' then ms else []) ++ w'.items id' side')
    (hreceipts : w.receipts id side = (w.consumed id side ++ ms).map Message.receipt) :
    (mail.act me).inv (w'.noted (.ended me id side ms)) ∧
      (Order.act me).rel w (w'.noted (.ended me id side ms)) := by
  have hj' : (w'.noted (.ended me id side ms)).journal.toList =
      w.journal.toList ++ [.ended me id side ms] := by rw [journal_noted, hj]
  have hrun : record (.ended me id side ms) w' = .ok () (w'.noted (.ended me id side ms)) := rfl
  obtain ⟨hi₁, hr₁⟩ := KeepsAt.ok (Order.keepsAt_record_act (by rfl)) horder.1 hrun
  have hr := (Order.act me).trans hi.1.1 horder.1 horder.2 hr₁
  have hothers : mail.Others me (w'.noted (.ended me id side ms)) := by
    refine others_of_own hi.1.1.1 hr.1.toPassage hi.1.2 ?_ fun x hx ↦ own_noted rfl hj hx
    refine hi.1.2.1.drain hj ho rfl hi.1.1.2.known hi.2.1 hitems fun _ ↦ ?_
    simpa [Deed.receipts, Deed.consumed] using hreceipts
  have hrest : Rest me (w'.noted (.ended me id side ms)) := by
    intro id' side'
    rw [begun_append hj', ended_append hj', hi.2.2 id' side']
    simp [Deed.begins, Deed.ends, List.countP_cons]
  exact ⟨⟨hi₁, .of_rest hothers hrest⟩, hr⟩

/-- When a drain begins, what was consumed so far has been told. -/
theorem told_began (hi : (mail.act me).inv w) (hd : Order.Drains me id side w) :
    (w.noted (.began me id side)).receipts id side =
      ((w.noted (.began me id side)).consumed id side).map Message.receipt := by
  have hj := journal_noted w (.began me id side)
  have htold := hi.2.1.told id side (hi.2.1.idle hd (hi.2.2 me (.refl w me)))
  rw [receipts_append hj, consumed_append hj, List.flatMap_singleton, List.flatMap_singleton, htold]
  simp [Deed.receipts, Deed.consumed]

section DrainBox

variable {c : Callee (World κ)} (hk : c.KeepsAll (mail.call me))
include hk

/-- By induction on the messages. -/
theorem keeps_walk_draining (ms : List Message) :
    Keeps ((delivering me).under (Draining me id side))
    (Mailbox.walk (boxPlace id side) (noting c me (.mail id side)) ms) :=
  keeps_walk (keeps_noting_log hk) (fun w _ args _ ↦ keeps_noting_call hk args w) ms

/-- The end of a drain, after the first messages have been handed over. -/
theorem walk_ended (hi : ((delivering me).under (Draining me id side)).inv w)
    (htold : w.receipts id side = (w.consumed id side).map Message.receipt)
    (hx : Mailbox.walk (boxPlace id side) (noting c me (.mail id side)) (w.items id side) w =
      .ok n w') :
    (mail.act me).inv (((boxPlace id side).modify (·.settle n) w').noted
        (.ended me id side ((w.items id side).take n))) ∧
      (Order.act me).rel w (((boxPlace id side).modify (·.settle n) w').noted
        (.ended me id side ((w.items id side).take n))) := by
  obtain ⟨hi', hr⟩ := (keeps_walk_draining hk _ w).ok hi hx
  obtain ⟨hle, hreceipts⟩ := receipts_walk hk hi hx
  have hc := consumed_of_walk hi'.1.2.1 hi'.2.1 hr.2
  have htake : (w'.items id side).take n = (w.items id side).take n := by
    obtain ⟨rest, hrest⟩ := items_of_walk hi.1.2.1 hi'.1.2.1 hi'.2.1 hr.2
    rw [← hrest, List.take_append_of_le_length hle]
  have horder := (Order.act_of_quiet (Order.keepsAt_settle hi'.2.1 n)).ok hi'.1.1 rfl
  have hitems := items_settled hi'.1.1.1 id side n
  rw [htake] at hitems
  have htold' : w'.receipts id side =
      (w'.consumed id side ++ (w.items id side).take n).map Message.receipt := by
    rw [hreceipts, hc, htold, List.map_append]
  obtain ⟨hinv, hrel⟩ := drain_ended hi' horder (journal_updateWorker _) (fun _ ↦ owner?_setLink _)
    hitems htold'
  exact ⟨hinv, (Order.act me).trans hi.1.1 hi'.1.1 hr.1 hrel⟩

/-- **A drain keeps the account.** -/
theorem keepsAt_drainBox (hd : Order.Drains me id side w) :
    KeepsAt (mail.act me) (drainBox c me id side) w := by
  intro hi
  obtain ⟨hi₁, hr₁⟩ := drain_began hi hd
  have htold := told_began hi hd
  have hitems : ((boxPlace id side).get w).items = (w.noted (.began me id side)).items id side :=
    rfl
  show (mail.act me).Allows w
    ((Mailbox.drain (boxPlace id side) (noting c me (.mail id side)) >>= fun n ↦
      record (.ended me id side (((boxPlace id side).get w).items.take n)) >>= fun _ ↦ pure n)
      (w.noted (.began me id side)))
  rw [hitems]
  generalize w.noted (.began me id side) = w₁ at *
  cases hcb : ((boxPlace id side).get w₁).callback with
  | none =>
    rw [run_bind_ok (run_drain_none hcb)]
    obtain ⟨hinv, hrel⟩ := drain_ended hi₁ ⟨hi₁.1.1, (Order.act me).refl w₁⟩ rfl (fun _ ↦ rfl)
      (fun _ _ ↦ by rw [ite_self, List.nil_append]) (by rw [htold, List.append_nil])
    exact ⟨hinv, (Order.act me).trans hi.1 hi₁.1.1 hr₁ hrel, trivial⟩
  | some slot =>
    cases hwalk : Mailbox.walk (boxPlace id side) (noting c me (.mail id side))
        (w₁.items id side) w₁ with
    | ok n w₂ =>
      rw [run_bind_ok (run_drain_ok hcb hwalk)]
      obtain ⟨hinv, hrel⟩ := walk_ended hk hi₁ htold hwalk
      exact ⟨hinv, (Order.act me).trans hi.1 hi₁.1.1 hr₁ hrel, trivial⟩
    | error e w₂ =>
      rw [run_bind_error (run_drain_error hcb hwalk)]
      have hb := (keeps_walk_draining hk _ w₁).error hi₁ hwalk
      refine ⟨(Order.act me).after hi.1 hi₁.1.1 hr₁ hb.1, ?_⟩
      cases e with
      | panic => exact hb.2.1.elim
      | exhausted => trivial
      | endless p => exact hb.2

end DrainBox

/-- **The account is kept by every step**, if callbacks do not panic. -/
theorem lawful (engine : Engine κ)
    (hcalls : ∀ c slot args, (engine.call c slot args).Ends fun r ↦ r.2 ≠ .panicked) :
    mail.regime.Lawful engine (fun _ ↦ True) :=
  Upkeep.lawful mail (Order.lawful engine).asks
    (fun c slot args ↦ (hcalls c slot args).mono fun _ h hp ↦ h hp)
    (fun _ hfin ↦ keeps_serve hfin _)
    (fun hk w ↦ Upkeep.keepsAt_act_of_call (keeps_tickTimers hk w)) keepsAt_drainBox

end Mail

end ScriptWorkers
