import ScriptWorkers.Proofs.Upkeep.Host

/-!
# The account of the messages

The journal says what was posted to each mailbox, which messages the drains of it have consumed, and
what has become of each of them: a callback was invoked, or the message was dropped because it
cannot be read.  This is the account that is kept:

* `Mail.Sound.balance`: what was posted in time is what was consumed, followed by what
  is still there.
* `Mail.Sound.told`: unless a drain is going on, what has become of the consumed messages is what
  should have, one by one and in the order of posting.
* `Mail.Sound.drains`: a mailbox is drained only by the context that it is meant for.

In the middle of a drain the second does not hold.  A context is at rest if it is not in the middle
of a drain, and while it has control it does not begin one.
-/

namespace ScriptWorkers

open World

variable {κ : Type}

/-! ## What the journal says of a mailbox -/

/-- What has become of a message. -/
inductive Receipt where
  /-- A callback was invoked with these arguments. -/
  | invoked (args : List Json)
  /-- It was dropped, and there was a line in the log that says so in these words. -/
  | dropped (level : Level) (wording : String) (e : SerializationError)

/-- What should become of a message when it is delivered: the callback gets an object with the value
as its data, and a message that cannot be read is dropped with a warning. -/
def Message.receipt (m : Message) : Receipt :=
  match m.decode with
  | .ok v => .invoked [.obj [("data", v)]]
  | .error e => .dropped .warn "dropping undecodable message" e

namespace Deed

variable {d : Deed} {id x : WorkerId} {side : Side}

/-- The message that was posted to the mailbox in time. -/
def posts (id : WorkerId) (side : Side) : Deed → List Message
  | .posted id' side' m true => if id' = id ∧ side' = side then [m] else []
  | _ => []

/-- The messages of the mailbox that a drain has consumed. -/
def consumed (id : WorkerId) (side : Side) : Deed → List Message
  | .ended _ id' side' ms => if id' = id ∧ side' = side then ms else []
  | _ => []

/-- What has become of a message of the mailbox. -/
def receipts (id : WorkerId) (side : Side) : Deed → List Receipt
  | .called _ (.mail id' side') _ _ args => if id' = id ∧ side' = side then [.invoked args] else []
  | .logged _ (.mail id' side') (.undecodable e) =>
    if id' = id ∧ side' = side then
      [.dropped (LogLine.undecodable e).level (LogLine.undecodable e).message e]
    else []
  | _ => []

/-- The context `x` began to drain the mailbox. -/
def begins (x id : WorkerId) (side : Side) : Deed → Bool
  | .began x' id' side' => x' = x ∧ id' = id ∧ side' = side
  | _ => false

/-- The context `x` has drained the mailbox. -/
def ends (x id : WorkerId) (side : Side) : Deed → Bool
  | .ended x' id' side' _ => x' = x ∧ id' = id ∧ side' = side
  | _ => false

/-- Who has drained which mailbox when this was done. -/
def drain? : Deed → Option (WorkerId × WorkerId × Side)
  | .began x id side | .ended x id side _ | .called x (.mail id side) .. | .logged x
      (.mail id side) _ =>
    some (x, id, side)
  | _ => none

/-- A drain is put down by the one who drains. -/
theorem about_of_drain? (h : d.drain? = some (x, id, side)) : d.about = x := by
  cases d with
  | posted | retained | timed | retired => cases h
  | began | ended => exact (Prod.mk.inj (Option.some_inj.1 h)).1
  | called _ cause | logged _ cause =>
    cases cause with
    | timer => cases h
    | mail => exact (Prod.mk.inj (Option.some_inj.1 h)).1

theorem drain?_of_begins (h : d.begins x id side = true) : d.drain? = some (x, id, side) := by
  cases d <;> simp_all [begins, drain?]

theorem drain?_of_ends (h : d.ends x id side = true) : d.drain? = some (x, id, side) := by
  cases d <;> simp_all [ends, drain?]

/-- Messages are consumed by drains only. -/
theorem consumed_eq_nil (h : ∀ x, d.drain? ≠ some (x, id, side)) : d.consumed id side = [] := by
  cases d with
  | ended x id' side' ms =>
    refine if_neg ?_
    rintro ⟨rfl, rfl⟩
    exact h x rfl
  | _ => rfl

theorem receipts_eq_nil (h : ∀ x, d.drain? ≠ some (x, id, side)) : d.receipts id side = [] := by
  cases d with
  | called x cause slot f args =>
    cases cause with
    | timer => rfl
    | mail id' side' =>
      refine if_neg ?_
      rintro ⟨rfl, rfl⟩
      exact h x rfl
  | logged x cause line =>
    cases cause with
    | timer => rfl
    | mail id' side' =>
      cases line with
      | undecodable e =>
        refine if_neg ?_
        rintro ⟨rfl, rfl⟩
        exact h x rfl
      | _ => rfl
  | _ => rfl

end Deed

namespace World

variable {w w' w'' : World κ} {id me x : WorkerId} {side : Side} {ds : List Deed}

/-- The messages that were posted to the mailbox while its link was not terminated. -/
def posts (w : World κ) (id : WorkerId) (side : Side) : List Message :=
  w.journal.toList.flatMap (·.posts id side)

/-- The messages of the mailbox that drains have consumed. -/
def consumed (w : World κ) (id : WorkerId) (side : Side) : List Message :=
  w.journal.toList.flatMap (·.consumed id side)

/-- What has become of the messages of the mailbox that were delivered. -/
def receipts (w : World κ) (id : WorkerId) (side : Side) : List Receipt :=
  w.journal.toList.flatMap (·.receipts id side)

/-- How many drains of the mailbox the context `x` has begun. -/
def begun (w : World κ) (x id : WorkerId) (side : Side) : Nat :=
  w.journal.toList.countP (·.begins x id side)

/-- How many drains of the mailbox the context `x` has brought to an end. -/
def ended (w : World κ) (x id : WorkerId) (side : Side) : Nat :=
  w.journal.toList.countP (·.ends x id side)

/-- No drain of the mailbox is going on. -/
def Idle (w : World κ) (id : WorkerId) (side : Side) : Prop :=
  ∀ x, w.begun x id side = w.ended x id side

/-- The messages that are in the mailbox. -/
def items (w : World κ) (id : WorkerId) (side : Side) : List Message := ((w.link id).box side).items

section Append

variable (h : w'.journal.toList = w.journal.toList ++ ds)
include h

/-- What was posted is counted in the journal. -/
theorem posts_append : w'.posts id side = w.posts id side ++ ds.flatMap (·.posts id side) := by
  rw [posts, h, List.flatMap_append, posts]

theorem consumed_append :
    w'.consumed id side = w.consumed id side ++ ds.flatMap (·.consumed id side) := by
  rw [consumed, h, List.flatMap_append, consumed]

theorem receipts_append :
    w'.receipts id side = w.receipts id side ++ ds.flatMap (·.receipts id side) := by
  rw [receipts, h, List.flatMap_append, receipts]

theorem begun_append : w'.begun x id side = w.begun x id side + ds.countP (·.begins x id side) := by
  rw [begun, h, List.countP_append, begun]

theorem ended_append : w'.ended x id side = w.ended x id side + ds.countP (·.ends x id side) := by
  rw [ended, h, List.countP_append, ended]

/-- Deeds that are not about the mailbox leave the account of it as it is. -/
theorem account_eq (hds : ∀ d ∈ ds, ∀ x, d.drain? ≠ some (x, id, side)) :
    w'.consumed id side = w.consumed id side ∧ w'.receipts id side = w.receipts id side := by
  rw [consumed_append h, receipts_append h]
  constructor
  · rw [List.append_right_eq_self, List.flatMap_eq_nil_iff]
    exact fun d hd ↦ Deed.consumed_eq_nil (hds d hd)
  · rw [List.append_right_eq_self, List.flatMap_eq_nil_iff]
    exact fun d hd ↦ Deed.receipts_eq_nil (hds d hd)

/-- Who does not drain does not begin or end a drain. -/
theorem counts_eq (hds : ∀ d ∈ ds, d.drain? ≠ some (x, id, side)) :
    w'.begun x id side = w.begun x id side ∧ w'.ended x id side = w.ended x id side := by
  rw [begun_append h, ended_append h]
  constructor
  · rw [Nat.add_eq_left, List.countP_eq_zero]
    exact fun d hd hb ↦ hds d hd (Deed.drain?_of_begins hb)
  · rw [Nat.add_eq_left, List.countP_eq_zero]
    exact fun d hd hb ↦ hds d hd (Deed.drain?_of_ends hb)

end Append

end World

/-! ## What is kept -/

namespace Mail

variable {w w' w'' : World κ} {id me x : WorkerId} {side : Side} {ds : List Deed}

/-- The account of the messages is right. -/
structure Sound (w : World κ) : Prop where
  balance : ∀ id side, w.posts id side = w.consumed id side ++ w.items id side
  drains : ∀ d ∈ w.journal.toList, ∀ x id side, d.drain? = some (x, id, side) →
    (x = 0 ∨ (w.worker? x).isSome) ∧ Order.Drains x id side w
  told : ∀ id side, w.Idle id side →
    w.receipts id side = (w.consumed id side).map Message.receipt

/-- The context `x` is not in the middle of a drain. -/
def Rest (x : WorkerId) (w : World κ) : Prop :=
  ∀ id side, w.begun x id side = w.ended x id side

/-- In between the context `me` has not drained anything. -/
def Own (me : WorkerId) : World κ → World κ → Prop :=
  Adds fun d ↦ ∀ id side, d.drain? ≠ some (me, id, side)

/-- Who has drained nothing is at rest as before. -/
theorem Rest.own (h : Rest me w) (ho : Own me w w') : Rest me w' := by
  obtain ⟨ds, hd, hds⟩ := ho
  intro id side
  obtain ⟨hb, he⟩ := counts_eq hd fun d hm ↦ hds d hm id side
  rw [hb, he, h id side]

/-- Of whom nothing is put down has drained nothing. -/
theorem own_of_unmentioned (h : Unmentioned me w w') : Own me w w' :=
  h.mono fun _ hd _ _ he ↦ hd (Deed.about_of_drain? he)

/-- Nobody but the context that the mailbox is meant for drains it. -/
theorem drains_unique {y : WorkerId} (h : Order.Drains x id side w)
    (h' : Order.Drains y id side w) : x = y := by
  rcases h with ⟨rfl, rfl⟩ | ⟨ho, rfl⟩
  · rcases h' with ⟨rfl, -⟩ | ⟨-, h⟩
    · rfl
    · cases h
  · rcases h' with ⟨-, h⟩ | ⟨ho', -⟩
    · cases h
    · rw [ho, Option.some_inj] at ho'
      exact ho'

/-- The account of mailboxes that are not drained in between. -/
theorem Sound.told_of (h : Sound w) (hj : w'.journal.toList = w.journal.toList ++ ds)
    (hds : ∀ d ∈ ds, ∀ x, d.drain? ≠ some (x, id, side)) (hi : w'.Idle id side) :
    w'.receipts id side = (w'.consumed id side).map Message.receipt := by
  obtain ⟨hc, hr⟩ := account_eq hj hds
  rw [hc, hr]
  refine h.told id side fun x ↦ ?_
  obtain ⟨hb, he⟩ := counts_eq hj fun d hm ↦ hds d hm x
  rw [← hb, ← he, hi x]

/-- Who may drain a mailbox may do so when the tree has grown. -/
theorem drains_of_owner (ho : ∀ c p, w.owner? c = some p → w'.owner? c = some p)
    (h : Order.Drains x id side w) : Order.Drains x id side w' :=
  h.imp_right fun h' ↦ ⟨ho _ _ h'.1, h'.2⟩

theorem known_of_owner (ho : ∀ c p, w.owner? c = some p → w'.owner? c = some p)
    (h : x = 0 ∨ (w.worker? x).isSome) : x = 0 ∨ (w'.worker? x).isSome := by
  refine h.imp_right fun hx ↦ ?_
  obtain ⟨k, hk⟩ := Option.isSome_iff_exists.1 hx
  obtain ⟨k', hk', -⟩ := owner?_eq_some_iff.1 (ho _ _ (owner?_of_worker? hk))
  rw [hk']
  rfl

/-- How the account is continued. -/
theorem Sound.extend (h : Sound w) (hj : w'.journal.toList = w.journal.toList ++ ds)
    (ho : ∀ c p, w.owner? c = some p → w'.owner? c = some p)
    (hbalance : ∀ id side, w'.posts id side = w'.consumed id side ++ w'.items id side)
    (hdrains : ∀ d ∈ ds, ∀ x id side, d.drain? = some (x, id, side) →
      (x = 0 ∨ (w'.worker? x).isSome) ∧ Order.Drains x id side w')
    (htold : ∀ d ∈ ds, ∀ x id side, d.drain? = some (x, id, side) → w'.Idle id side →
      w'.receipts id side = (w'.consumed id side).map Message.receipt) : Sound w' := by
  refine ⟨hbalance, fun d hm x id side hd ↦ ?_, fun id side hi ↦ ?_⟩
  · rw [hj, List.mem_append] at hm
    rcases hm with hm | hm
    · obtain ⟨hx, hdr⟩ := h.drains d hm x id side hd
      exact ⟨known_of_owner ho hx, drains_of_owner ho hdr⟩
    · exact hdrains d hm x id side hd
  · by_cases hds : ∃ d ∈ ds, ∃ x, d.drain? = some (x, id, side)
    · obtain ⟨d, hm, x, hd⟩ := hds
      exact htold d hm x id side hd hi
    · exact h.told_of hj (fun d hm x hd ↦ hds ⟨d, hm, x, hd⟩) hi

/-! ## Changes that do not concern messages -/

/-- Nothing that the account is about has changed, except that there may be new workers. -/
structure Unconcerned (w w' : World κ) : Prop where
  journal : Adds (fun d ↦ d.drain? = none ∧ ∀ id side, d.posts id side = []) w w'
  owner? : ∀ c p, w.owner? c = some p → w'.owner? c = some p
  items : ∀ id side, w'.items id side = w.items id side

theorem Unconcerned.trans (h : Unconcerned w w') (h' : Unconcerned w' w'') : Unconcerned w w'' where
  journal := h.journal.trans h'.journal
  owner? c p hc := h'.owner? c p (h.owner? c p hc)
  items id side := (h'.items id side).trans (h.items id side)

theorem Unconcerned.own (h : Unconcerned w w') : Own me w w' :=
  h.journal.mono fun _ hd _ _ he ↦ by simp [hd.1] at he

/-- What does not concern messages leaves the account right. -/
theorem Unconcerned.sound (h : Unconcerned w w') (hs : Sound w) : Sound w' := by
  obtain ⟨ds, hd, hds⟩ := h.journal
  refine hs.extend hd h.owner? (fun id side ↦ ?_) (fun d hm x id side he ↦ ?_)
    fun d hm x id side he ↦ ?_
  · have hnone : ∀ d ∈ ds, ∀ x, d.drain? ≠ some (x, id, side) :=
      fun d hm x he ↦ by simp [(hds d hm).1] at he
    have hposts : ds.flatMap (·.posts id side) = [] :=
      List.flatMap_eq_nil_iff.2 fun d hm ↦ (hds d hm).2 id side
    rw [posts_append hd, hposts, List.append_nil, (account_eq hd hnone).1, h.items]
    exact hs.balance id side
  · simp [(hds d hm).1] at he
  · simp [(hds d hm).1] at he

/-- Changes outside the journal and the mailboxes do not concern messages. -/
theorem unconcerned_of_eq (hj : w'.journal = w.journal) (ho : ∀ x, w'.owner? x = w.owner? x)
    (hl : ∀ id side, w'.items id side = w.items id side) : Unconcerned w w' where
  journal := adds_of_eq hj
  owner? c p hc := by rwa [ho]
  items := hl

/-- The upkeep of the account. -/
def mail : Upkeep κ where
  sound := Sound
  busy _ _ := True
  rest := Rest
  own := Own
  panics := False
  own_refl _ _ := adds_of_eq rfl
  own_trans := Adds.trans
  busy_of_rest _ := trivial
  rest_of_own h _ ho := h.own ho
  ended h hu _ := h.own (own_of_unmentioned hu)
  alike_sound h hs := (unconcerned_of_eq h.journal h.owner? h.items).sound hs
  alike_busy _ _ := trivial
  alike_rest h hr := hr.own (adds_of_eq h.journal)
  alike_own h := adds_of_eq h.journal
  besides_sound h hs := by
    refine (unconcerned_of_eq h.journal h.owner? fun id side ↦ ?_).sound hs
    rw [World.items, World.items, h.link]
  besides_rest h _ hr := hr.own (adds_of_eq h.journal)
  apart_busy _ _ := trivial
  apart_rest h hr := hr.own (own_of_unmentioned h.unmentioned)
  apart_own h := own_of_unmentioned h.unmentioned

end Mail

end ScriptWorkers
