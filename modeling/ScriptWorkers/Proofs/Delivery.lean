import ScriptWorkers.Proofs.Mail.Host

/-!
# Messages are delivered in order, and once

Between two contexts messages go through the mailboxes of a link.  Whatever scripts and hosts do, of
every mailbox at any time:

* what was posted to it in time is what drains have consumed, followed by what is in it
  (`World.posts`, `World.consumed`, `World.items`);
* unless it is being drained, each consumed message has had the callback invoked with it, once and
  in this order, or has been dropped with a warning, if it cannot be read (`World.receipts`);
* only the context that it is meant for has drained it.

This is put together in `messages_delivered_in_order`.

The account behind it is that of `ScriptWorkers.Proofs.Mail.Basic`; `Sound.delivers` reads it off
for one mailbox, and `receives_deposited` says what posting adds.
-/

namespace ScriptWorkers

open World

variable {κ : Type}

namespace World

variable {w w' : World κ} {id id' : WorkerId} {side side' : Side}

/-- The mailbox has delivered its messages in order, and once. -/
structure Delivers (w : World κ) (id : WorkerId) (side : Side) : Prop where
  /-- What was posted in time is what was consumed, followed by what is still there. -/
  order : w.posts id side = w.consumed id side ++ w.items id side
  /-- Unless a drain is going on, the consumed messages have become what they should. -/
  once : w.Idle id side → w.receipts id side = (w.consumed id side).map Message.receipt
  /-- Nobody but the context that it is meant for has drained it. -/
  meant : ∀ d ∈ w.journal.toList, ∀ x, d.drain? = some (x, id, side) → Order.Drains x id side w

/-- Nothing has happened to the mailbox in between, except that these messages were posted to it. -/
structure Receives (w w' : World κ) (id : WorkerId) (side : Side) (new : List Message) : Prop where
  posts : w'.posts id side = w.posts id side ++ new
  items : w'.items id side = w.items id side ++ new
  consumed : w'.consumed id side = w.consumed id side
  receipts : w'.receipts id side = w.receipts id side

/-- A message that is posted is entered for its mailbox only, and only if the link has not been
terminated. -/
theorem receives_deposited (hs : w.Shape) (m : Message) :
    w.Receives (w.deposited id side m) id' side'
    (if id' = id ∧ side' = side ∧ (w.link id).terminated = false then [m] else []) := by
  have hnew : (Deed.posted id side m !(w.link id).terminated).posts id' side' =
      if id' = id ∧ side' = side ∧ (w.link id).terminated = false then [m] else [] := by
    cases (w.link id).terminated <;> simp [Deed.posts, eq_comm]
  refine ⟨?_, ?_, Mail.account_deposited.1, Mail.account_deposited.2⟩
  · rw [posts_append Mail.journal_deposited, List.flatMap_singleton, hnew]
  · rw [Mail.items_deposited hs, hnew]

end World

namespace Mail

variable {w : World κ}

/-- What the account says of one mailbox. -/
theorem Sound.delivers (h : Sound w) (id : WorkerId) (side : Side) : w.Delivers id side where
  order := h.balance id side
  once := h.told id side
  meant d hd x he := (h.drains d hd x id side he).2

/-- Nothing is being drained when everybody is at rest. -/
theorem idle_of_all (hs : w.Shape) (h : mail.All 0 w) (id : WorkerId) (side : Side) :
    w.Idle id side := by
  intro x
  by_cases hx : x = 0 ∨ (w.worker? x).isSome
  · exact h.2 x (hs.under_root_of_known hx) id side
  · exact rest_of_unknown h.1 hx id side

end Mail

/-- **Messages are delivered in order, and once, in all runs.**  Scripts may ask for anything and a
host may do anything, if callbacks do not panic.  Then between operations nothing is being drained;
and both between operations and in the middle of one, every mailbox has delivered its messages in
order, once and to the context that they are meant for: the callback gets an object with the value
as its data, and a message that cannot be read is dropped with a warning.  A message that is posted
is entered for that mailbox only; after the link has been terminated it is not entered at all, and a
payload that cannot be written changes nothing. -/
theorem messages_delivered_in_order (engine : Engine κ) (loader : Loader)
    (hcalls : ∀ c slot args, (engine.call c slot args).Ends fun r ↦ r.2 ≠ .panicked) :
    (∀ m v, Message.decode m = .ok v → m.receipt = .invoked [.obj [("data", v)]]) ∧
    (∀ m e, Message.decode m = .error e →
      m.receipt = .dropped .warn "dropping undecodable message" e) ∧
    (∀ w, Reachable engine loader (fun _ ↦ True) w → ∀ id side, w.Idle id side) ∧
    ∀ w, Reachable engine loader (fun _ ↦ True) w ∨
        (∃ me, Moment engine loader (fun _ ↦ True) me w) →
      (∀ id side, w.Delivers id side) ∧
      (∀ id side m, ∃ w', deposit id side m w = .ok () w' ∧ ∀ id' side', w.Receives w' id' side'
        (if id' = id ∧ side' = side ∧ (w.link id).terminated = false then [m] else [])) ∧
      ∀ id side q e, Message.encode q = .error e →
        postAt id side q w = .ok (.unserializable e) w := by
  have hl := Mail.lawful engine hcalls
  have hdirect {op : HostOp} {unlimited : Bool} {fuel : Nat} (_ : True) (hd : op.direct = true)
      (hdrop : op ≠ .drop) : Keeps Mail.mail.host (perform engine unlimited fuel op) :=
    Mail.keeps_direct hl.brings_stepFully hd hdrop
  have hall {w : World κ} (hw : Reachable engine loader (fun _ ↦ True) w) : Mail.mail.All 0 w :=
    Upkeep.all_of_reachable hl hdirect Mail.all_created hw
  refine ⟨fun m v hm ↦ by rw [Message.receipt, hm], fun m e hm ↦ by rw [Message.receipt, hm],
    fun w hw ↦ Mail.idle_of_all (Order.shape_tended_of_reachable hw).1 (hall hw), fun w hw ↦ ?_⟩
  have hsound : Mail.Sound w ∧ w.Shape := by
    rcases hw with hw | ⟨me, hw⟩
    · exact ⟨(hall hw).1, (Order.shape_tended_of_reachable hw).1⟩
    · exact ⟨(Upkeep.sound_busy_of_moment hl hdirect Mail.all_created hw).1,
        (Order.inv_tended_of_moment hw).1.1⟩
  exact ⟨hsound.1.delivers, fun id side m ↦ ⟨_, run_deposit w id side m, fun _ _ ↦
    receives_deposited hsound.2 m⟩, fun _ _ _ _ he ↦ Order.run_postAt_error he⟩

/-! ## A relay -/

/-- An engine whose scripts listen to their owners.  Whatever calls one of them back, it posts a
text that cannot be read, and then one that can. -/
def relay : Engine Unit where
  create _ := .ok ()
  execute _ _ _ := .ask (.listen (some 1)) fun _ ↦ .done ((), .done)
  call _ _ _ := .ask (.desk (.post ⟨"?"⟩)) fun _ ↦ .ask (.desk (.post ⟨"null"⟩)) fun _ ↦
    .done ((), .done)
  depth := 4

/-- The scripts of the relay. -/
def relayShelf : Loader := .shelf ⟨[("relay", .text "")]⟩

/-- The host before it has a worker. -/
def lonely : World Unit := { root := some { context := some () }, loader := relayShelf }

/-- The operations of a host that posts to a worker and waits for what comes back. -/
def exchangeOps : List HostOp :=
  [.spawn "relay", .listen 1 (some 5), .post 1 (.json (.bool true)), .step 1 2, .tick]

/-- The world after them. -/
def relayed : World Unit := (performAll relay exchangeOps lonely).getD lonely

theorem reachable_relayed : Reachable relay relayShelf (fun _ ↦ True) relayed := by
  have hlonely : Reachable relay relayShelf (fun _ ↦ True) lonely := .created rfl
  exact hlonely.performAll lonely (fun _ _ ↦ trivial) (by decide +kernel)

/-- Of the two texts that have come back, one was dropped and the other one handed over. -/
theorem relay_delivers : relayed.posts 1 .outbox = [⟨"?"⟩, ⟨"null"⟩] ∧
    relayed.items 1 .outbox = [] ∧ relayed.receipts 1 .outbox =
      [.dropped .warn "dropping undecodable message" ⟨"malformed text"⟩,
        .invoked [.obj [("data", .null)]]] := by
  have hcalls (c : Unit) (slot : Slot) (args : List Json) :
      (relay.call c slot args).Ends fun r ↦ r.2 ≠ .panicked := fun _ _ ↦ by simp [Plan.Ends]
  obtain ⟨-, -, hidle, hall⟩ := messages_delivered_in_order relay relayShelf hcalls
  obtain ⟨hdelivers, -⟩ := hall relayed (.inl reachable_relayed)
  have hposts : relayed.posts 1 .outbox = [⟨"?"⟩, ⟨"null"⟩] := by decide +kernel
  have hitems : relayed.items 1 .outbox = [] := by decide +kernel
  have hconsumed : relayed.consumed 1 .outbox = [⟨"?"⟩, ⟨"null"⟩] := by
    have horder := (hdelivers 1 .outbox).order
    rwa [hposts, hitems, List.append_nil, eq_comm] at horder
  refine ⟨hposts, hitems, ?_⟩
  rw [(hdelivers 1 .outbox).once (hidle relayed reachable_relayed 1 .outbox), hconsumed]
  rfl

end ScriptWorkers
