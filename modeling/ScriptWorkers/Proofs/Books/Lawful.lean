import Mathlib.Data.List.Nodup
import ScriptWorkers.Proofs.Books.Workers

/-!
# The books are kept by every step

Each request that goes over the desk leaves the books of the context in order, because every
slot that it takes in hand ends up registered or returned.  Drains and ticks put nothing into
the books and take nothing out; but they invoke callbacks, and the books say that there is a
function behind each of them.

`keeps_serveDesk` goes through the requests, each of which is a few entries in a row
(`Working.register`, `Working.startInterval`, `Working.stopInterval`).  `mem_slots_of_callback` and
`mem_slots_of_timer` are what drains and ticks rely on, and `lawful` puts the rules together.
-/

namespace ScriptWorkers

open World

variable {κ : Type}

namespace Books

variable {w w' : World κ} {id me x : WorkerId} {hand : List Slot} {free : List WorkerId}
  {engine : Engine κ} {n : Nat}

/-! ## Requests -/

/-- A request keeps the books if nothing is in hand at its end. -/
theorem keepsAt_of_working {α : Type} {y : Run (World κ) α} {a : α}
    (horder : KeepsAt (Order.quiet me) y w) (hy : y w = .ok a w')
    (h : Working [] [] me w → Working [] [] me w' ∧ Own me w w') :
    KeepsAt (books.quiet me) y w := by
  refine horder.both_of_ok hy fun hi hj _ _ ↦ ?_
  obtain ⟨hw, ho⟩ := h (working_of_quiet ⟨hi, hj⟩)
  exact ⟨⟨hw.others, fun _ ↦ hw.kept⟩, ho⟩

/-- What the books do not show may be done in between. -/
theorem Working.untouched (h : Working hand free me w) (horder : (Order.quiet me).inv w')
    (hs : Sound w') (howner : ∀ c, w'.owner? c = w.owner? c) (hu : ∀ x, Untouched x w w') :
    Working hand free me w' ∧ Own me w w' :=
  ⟨⟨horder, others_of_untouched h.others hs howner fun x _ ↦ hu x, h.kept.untouched (hu me)⟩,
    (hu me).own⟩

theorem untouched_deposited {side : Side} {m : Message} : Untouched x w (w.deposited id side m) :=
  (untouched_noted rfl rfl).trans (untouched_box fun _ ↦ Mailbox.callback_push)

theorem Sound.deposited {side : Side} {m : Message} (h : Sound w)
    (hid : id = 0 ∨ (w.worker? id).isSome) : Sound (w.deposited id side m) := by
  have hnoted : Sound (w.noted (.posted id side m !(w.link id).terminated)) :=
    h.noted hid (by simp)
  exact hnoted.of_eq (journal_updateWorker _) fun _ ↦ owner?_setLink _

theorem Working.deposit {side : Side} {m : Message} {u : Unit} (h : Working hand free me w)
    (hid : id = me ∨ w.owner? id = some me) (hx : World.deposit id side m w = .ok u w') :
    Working hand free me w' ∧ Own me w w' := by
  have horder := ((Order.quiet_of_still (Order.keepsAt_deposit hid m)).ok h.order hx).1
  rw [run_deposit] at hx
  cases hx
  refine h.untouched horder (h.others.1.deposited ?_) (fun _ ↦ owner?_deposited) fun _ ↦
    untouched_deposited
  rcases hid with rfl | hid
  · exact h.order.2.known
  · exact .inr (worker?_isSome_of_owner? hid)

theorem mayHandle_retain {f : FunctionRef} {s : Slot} {src : Source} (ha : w.Awake me)
    (hx : World.retain me f w = .ok s w') :
    mayHandle me (w'.scope me).desk src = mayHandle me (w.scope me).desk src := by
  rw [run_retain] at hx
  cases hx
  rw [scope_setScope_self ((same_noted w _).awake.2 ha).hasScope]
  rfl

/-- A handler: kept, registered, and the one before it forgotten. -/
theorem Working.register {src : Source} {f : Handler} {u : Unit} (h : Working [] [] me w)
    (hsrc : mayHandle me (w.scope me).desk src = true) (hx : World.register me src f w = .ok u w') :
    Working [] [] me w' ∧ Own me w w' := by
  cases f with
  | invalid =>
    have horder := ((Order.keeps_note _ w).ok h.order hx).1
    cases hx
    exact h.untouched horder (h.others.1.of_eq rfl fun _ ↦ rfl) (fun _ ↦ rfl) fun x ↦
      untouched_of_alike (alike_of_same ⟨rfl, rfl, rfl⟩ rfl)
  | clear =>
    obtain ⟨old, w₁, h₁, h₂⟩ := of_run_bind_ok hx
    have h' : Working ((none : Option Slot).toList ++ []) [] me w := h
    obtain ⟨hw₁, ho₁⟩ := h'.exchange hsrc h₁
    obtain ⟨hw₂, ho₂⟩ := hw₁.forget h₂
    exact ⟨hw₂, ho₁.trans ho₂⟩
  | function f =>
    obtain ⟨s, w₁, h₁, hx⟩ := of_run_bind_ok hx
    obtain ⟨hw₁, ho₁⟩ : Working ((some s).toList ++ []) [] me w₁ ∧ Own me w w₁ := h.retain h₁
    obtain ⟨old, w₂, h₂, h₃⟩ := of_run_bind_ok hx
    rw [← mayHandle_retain h.order.2 h₁] at hsrc
    obtain ⟨hw₂, ho₂⟩ := hw₁.exchange hsrc h₂
    obtain ⟨hw₃, ho₃⟩ := hw₂.forget h₃
    exact ⟨hw₃, (ho₁.trans ho₂).trans ho₃⟩

/-- An interval: its function is kept, then it is added. -/
theorem Working.startInterval {f : FunctionRef} {p : Option Float} {i : UInt32}
    (h : Working [] [] me w)
    (hx : (do let slot ← World.retain me f; World.addTimer me slot p) w = .ok i w') :
    Working [] [] me w' ∧ Own me w w' := by
  obtain ⟨s, w₁, h₁, h₂⟩ := of_run_bind_ok hx
  obtain ⟨hw₁, ho₁⟩ := h.retain h₁
  obtain ⟨hw₂, ho₂⟩ := hw₁.addTimer h₂
  exact ⟨hw₂, ho₁.trans ho₂⟩

/-- An interval that is stopped: it is removed, then its function is forgotten. -/
theorem Working.stopInterval {i : UInt32} {u : Unit} (h : Working [] [] me w)
    (hx : (do let old ← World.removeTimer me i; (deskPlace me).update (·.forget old)) w =
      .ok u w') :
    Working [] [] me w' ∧ Own me w w' := by
  obtain ⟨old, w₁, h₁, h₂⟩ := of_run_bind_ok hx
  obtain ⟨hw₁, ho₁⟩ := h.removeTimer h₁
  obtain ⟨hw₂, ho₂⟩ := hw₁.forget h₂
  exact ⟨hw₂, ho₁.trans ho₂⟩

theorem keepsAt_record_quiet {d : Deed} (hd : d.about = me) (hs : d.givesSlot me = false)
    (hi : d.givesInterval me = false)
    (hcalled : Kept [] [] me w → ∀ x cause slot f args, d = .called x cause slot f args →
      w.InRange x → f.isSome) : KeepsAt (books.quiet me) (record d) w := by
  have horder : KeepsAt (Order.quiet me) (record d) w :=
    Order.quiet_of_still (Order.keepsAt_record (hd ▸ .refl w _))
  refine keepsAt_of_working horder rfl fun h ↦ ?_
  have hu : Untouched me w (w.noted d) := untouched_noted hs hi
  exact ⟨⟨(horder.ok h.order rfl).1, others_noted h.others h.order.2 hd (hcalled h.kept),
    h.kept.untouched hu⟩, hu.own⟩

/-- **Requests keep the books**, if they go over the desk. -/
theorem keeps_serveDesk (hfin : books.regime.Brings (step engine n)) (q : DeskRequest) :
    Keeps (books.quiet me) (serveDesk (step engine n) me q) := by
  intro w
  have horder : KeepsAt (Order.quiet me) (serveDesk (step engine n) me q) w :=
    Order.keeps_serveDesk ((Order.lawful engine).brings_step n) q w
  cases q with
  | note e => exact Upkeep.controlled_of_mild horder (mild_note e)
  | post m =>
    exact keepsAt_of_working horder rfl fun h ↦ h.deposit (.inl rfl) rfl
  | holds id => exact keepsAt_read_bind (keepsAt_pure _ _ w)
  | function slot => exact keepsAt_read_bind (keepsAt_pure _ _ w)
  | handle src f =>
    refine keepsAt_read_bind (keepsAt_ite (fun hsrc hi ↦ ?_) fun _ ↦ keepsAt_pure _ _ w)
    have horder : KeepsAt (Order.quiet me) (World.register me src f) w :=
      Order.keepsAt_register f fun id hs ↦ Order.owner?_of_holds hi.1 (by subst hs; exact hsrc)
    obtain ⟨u, w', hx⟩ : ∃ u w', World.register me src f w = .ok u w' := by
      cases f <;> exact ⟨_, _, rfl⟩
    exact keepsAt_of_working horder hx (fun h ↦ h.register hsrc hx) hi
  | handler src =>
    refine keepsAt_read_bind (keepsAt_ite (fun _ ↦ ?_) fun _ ↦ keepsAt_pure _ _ w)
    exact keepsAt_read_bind (keepsAt_pure _ _ w)
  | startInterval f p => exact keepsAt_of_working horder rfl fun h ↦ h.startInterval rfl
  | stopInterval i => exact keepsAt_of_working horder rfl fun h ↦ h.stopInterval rfl
  | create script =>
    intro hi
    obtain ⟨r, w', hx⟩ : ∃ r w', serveDesk (step engine n) me (.create script) w = .ok r w' := by
      rw [run_create _ hi.1.2]
      split <;> exact ⟨_, _, rfl⟩
    exact keepsAt_of_working horder hx (fun h ↦ h.create hx) hi
  | send id m =>
    refine keepsAt_read_bind (keepsAt_ite (fun hid hi ↦ ?_) fun _ ↦ keepsAt_pure _ _ w)
    have howner := Order.owner?_of_holds hi.1 hid
    have horder : KeepsAt (Order.quiet me) (World.deposit id .inbox m) w :=
      Order.quiet_of_still (Order.keepsAt_deposit (.inr howner) m)
    exact keepsAt_of_working horder rfl (fun h ↦ h.deposit (.inr howner) rfl) hi
  | retire id =>
    refine keepsAt_read_bind (keepsAt_ite (fun hid hi ↦ ?_) fun _ ↦ keepsAt_pure _ _ w)
    have hid' : id ∈ (w.scope me).desk.workers := List.contains_iff_mem.1 hid
    refine (keepsAt_retire hfin (working_of_quiet hi) hid').bind (fun _ w₁ _ _ _ ↦ ?_) hi
    exact keepsAt_record_quiet rfl rfl rfl (by simp)

/-! ## Drains -/

section Callbacks

variable {c : Callee (World κ)} (hk : c.KeepsAll (books.call me)) {cause : Cause} {slot : Slot}
  {side : Side}

theorem keepsAt_record {d : Deed} (hd : d.about = me) (hs : d.givesSlot me = false)
    (hi : d.givesInterval me = false)
    (hcalled : Kept [] [] me w → ∀ x cause slot f args, d = .called x cause slot f args →
      w.InRange x → f.isSome) : KeepsAt (books.call me) (record d) w :=
  Upkeep.call_of_quiet (keepsAt_record_quiet hd hs hi hcalled)

include hk

/-- A callback may be invoked if its slot is on the desk. -/
theorem keepsAt_noting_call
    (hslot : Kept [] [] me w → w.InRange me → slot ∈ (w.scope me).desk.slots)
    (args : List Json) : KeepsAt (books.call me) ((noting c me cause).call slot args) w := by
  refine keepsAt_read_bind (KeepsAt.bind (keepsAt_record (by rfl) (by rfl) (by rfl) ?_)
    fun _ w' _ _ _ ↦ hk.call slot args w')
  rintro hkept x cause slot f args ⟨⟩ hr
  exact Desk.isSome_function?_iff.2 (hslot hkept hr)

theorem keeps_noting_log (line : LogLine) :
    Keeps (books.call me) ((noting c me cause).log line) := by
  intro w
  exact KeepsAt.bind (keepsAt_record (by rfl) (by rfl) (by rfl) (by simp)) fun _ w' _ _ _ ↦
    hk.log line w'

omit hk

/-- The callback of a mailbox that `me` drains is one of its slots. -/
theorem mem_slots_of_callback (h : Kept [] [] me w) (hd : Order.Drains me id side w)
    (hcb : ((w.link id).box side).callback = some slot) (hr : w.InRange me) :
    slot ∈ (w.scope me).desk.slots := by
  rw [(h.exact hr).slots.mem_iff]
  refine List.mem_append_right _ (List.mem_append_left _ ?_)
  rw [World.listening, List.mem_append]
  rcases hd with ⟨rfl, rfl⟩ | ⟨ho, rfl⟩
  · exact .inl (Option.mem_toList.2 hcb)
  · refine .inr (List.mem_filterMap.2 ⟨id, ?_, hcb⟩)
    by_cases hm : id ∈ (w.scope me).desk.workers
    · exact hm
    · have hnone : ((w.link id).box .outbox).callback = none := h.unheld id ho hm (by simp)
      rw [hnone] at hcb
      cases hcb

theorem stable_drains : (books.call me : Guarantee (World κ)).Stable (Order.Drains me id side) :=
  fun _ h hr ↦ h.mono hr.1.1.toPassage

theorem keepsAt_settle (hd : Order.Drains me id side w) (n : Nat) :
    KeepsAt (books.call me) ((boxPlace id side).update (·.settle n)) w := by
  have horder := Order.keepsAt_settle hd n
  refine Upkeep.call_of_quiet (keepsAt_of_working horder rfl fun h ↦ ?_)
  refine h.untouched (horder.ok h.order rfl).1
    (h.others.1.of_eq (journal_updateWorker _) fun c ↦ ?_)
    (fun c ↦ ?_) fun x ↦ untouched_box fun _ ↦ rfl
  · exact owner?_setLink _
  · exact owner?_setLink _

include hk

/-- A drain reads the callback anew for each message, and it is on the desk each time. -/
theorem keepsAt_drainBox (hd : Order.Drains me id side w) :
    KeepsAt (books.call me) (drainBox c me id side) w := by
  have hdrain : Keeps ((books.call me).under (Order.Drains me id side))
      (Mailbox.drain (boxPlace id side) (noting c me (.mail id side))) := by
    refine keeps_drain (fun line w ↦ KeepsAt.under stable_drains fun _ ↦ keeps_noting_log hk line w)
      (fun w slot args hcb ↦ KeepsAt.under stable_drains fun hd ↦ ?_)
      fun n w ↦ KeepsAt.under stable_drains fun hd ↦ keepsAt_settle hd n
    exact keepsAt_noting_call hk (fun h ↦ mem_slots_of_callback h hd hcb) args
  rw [drainBox]
  refine keepsAt_read_bind (KeepsAt.bind (keepsAt_record (by rfl) (by rfl) (by rfl) (by simp))
    fun _ w₁ _ hi hr ↦ ?_)
  refine ((hdrain w₁).of_under (stable_drains hi hd hr)).bind fun n w₂ _ _ _ ↦ ?_
  exact KeepsAt.bind (keepsAt_record (by rfl) (by rfl) (by rfl) (by simp)) fun _ w₃ _ _ _ ↦
    keepsAt_pure _ _ w₃

/-! ## Ticks -/

omit hk

/-- Nothing is lost of what `me` had put down, and the intervals that it has are old or new. -/
def Since (me : WorkerId) (w w' : World κ) : Prop :=
  Own me w w' ∧ ∃ ds, w'.journal.toList = w.journal.toList ++ ds

/-- Numbers of intervals are never used twice, so an old number means an old interval. -/
theorem stable_since : (books.call me).Stable (Since me w) := by
  rintro w₁ w₂ - ⟨ho, ds, hd⟩ hr
  obtain ⟨ds', hd', -⟩ := hr.1.1.journal
  exact ⟨ho.trans hr.2, ds ++ ds', by rw [hd', hd, List.append_assoc]⟩

/-- An interval that was there before, and is there, has kept its callback, which is one of the
slots. -/
theorem mem_slots_of_timer {t : Timer} (h : Kept [] [] me w) (h' : Kept [] [] me w')
    (hw : Since me w w') (ht : (t.id, t.callback) ∈ (w.scope me).timers.pairs)
    (hc : (w'.scope me).timers.contains t.id = true) (hr : w'.InRange me) :
    t.callback ∈ (w'.scope me).desk.slots := by
  obtain ⟨⟨hle, hown⟩, ds, hd⟩ := hw
  have he := h.exact (hr.back hd)
  obtain ⟨v, hv, hid⟩ : ∃ v ∈ (w'.scope me).timers.entries, v.id = t.id := by
    simpa [Timers.contains] using hc
  have hmem : (v.id, v.callback) ∈ (w'.scope me).timers.pairs := List.mem_map_of_mem hv
  have hold : (v.id, v.callback) ∈ (w.scope me).timers.pairs := by
    rcases hown hr.2 _ hmem with hold | hnew
    · exact hold
    · -- numbers that have been given out before are not given out again
      have := he.started _ ht
      rw [hid] at hnew
      exact absurd hnew (Nat.not_lt_of_le this)
  have hsame : (v.id, v.callback) = (t.id, t.callback) :=
    List.inj_on_of_nodup_map he.distinct hold ht hid
  rw [(h'.exact hr).slots.mem_iff]
  refine List.mem_append_right _ (List.mem_append_right _ ?_)
  rw [← (Prod.mk.inj hsame).2]
  exact List.mem_map_of_mem hv

theorem keeps_reschedule (now : Float) :
    Keeps (books.call me) ((timersPlace me).update (·.reschedule now) : Run (World κ) Unit) := by
  intro w
  have horder : KeepsAt (Order.quiet me) ((timersPlace me).update (·.reschedule now)) w :=
    Order.keeps_timers _ w
  refine Upkeep.call_of_quiet (keepsAt_of_working horder rfl fun h ↦ ?_)
  have hu (x : WorkerId) :
      Untouched x w ((timersPlace me).modify (·.reschedule now) w) := by
    by_cases hx : x = me
    · subst hx
      exact untouched_setScope h.order.2 rfl rfl rfl (Timers.pairs_reschedule now)
    · exact untouched_of_besides (besides_setScope _) hx
  refine h.untouched (horder.ok h.order rfl).1 (h.others.1.of_eq (journal_setScope _) fun c ↦ ?_)
    (fun c ↦ ?_) hu
  · exact owner?_setScope _
  · exact owner?_setScope _

include hk

/-- An interval that is still there when its turn comes has its slot on the desk. -/
theorem keeps_tickTimers : Keeps (books.call me) (tickTimers c me) := by
  intro w
  refine keepsAt_read_bind (keepsAt_read_bind ((keeps_reschedule _ w).bind fun _ w₁ h₁ hi hr ↦ ?_))
  intro hi₁
  have hkept₁ := hi₁.2.2 hi₁.1.2
  refine ((keeps_fire ?_ fun t ht w₂ hc ↦ ?_) w₁).of_under (P := Since me w₁) ?_ hi₁
  · exact fun line w ↦ KeepsAt.under stable_since fun _ ↦ keeps_noting_log hk line w
  · refine KeepsAt.under stable_since fun hs ↦ keepsAt_noting_call hk (fun h hr ↦ ?_) []
    refine mem_slots_of_timer hkept₁ h hs ?_ hc hr
    cases h₁
    rw [timersPlace_modify, scope_setScope_self hi.1.2.hasScope]
    show _ ∈ ((w.scope me).timers.reschedule _).pairs
    rw [Timers.pairs_reschedule]
    exact List.mem_map_of_mem (List.mem_of_mem_filter ht)
  · exact ⟨.refl me w₁, [], by simp⟩

end Callbacks

/-! ## Steps -/

/-- **The books are kept by every step.** -/
theorem lawful (e : DeskEngine κ) : books.regime.Lawful e.engine Request.OverDesk := by
  refine Upkeep.lawful books e.asks
    (fun _ _ _ ↦ Plan.ends_of_forall (fun _ _ ↦ trivial) _) ?_
    (fun hk w ↦ Upkeep.keepsAt_act_of_call (keeps_tickTimers hk w))
    fun hk hd ↦ Upkeep.keepsAt_act_of_call (keepsAt_drainBox hk hd)
  rintro n me q ⟨q, rfl⟩ hfin
  exact keeps_serveDesk hfin q

end Books

end ScriptWorkers
