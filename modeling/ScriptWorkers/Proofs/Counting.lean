import ScriptWorkers.Proofs.Register.Pump

/-!
# What a tick counts

A tick of the root adds up the intervals that it fires and the messages that it hands over.
A message that cannot be read takes its turn and is counted as well, but no callback is
invoked for it.

* `Deed.isCallTo` and `Deed.takenBy` say what the journal tells of a context: the callbacks that
  have been invoked in it, and the messages that drains have taken out of mailboxes for it.
* Callbacks of the root cannot make the root tick or pump again.  So whatever they do, all that is
  put down meanwhile is `Uncounted` (`Counting.rootCallee_keeps`).
* `Counted calls lost` is the account of a stretch of the journal.  Intervals, drains and pumps add
  up (`counted_fire`, `Drained.counted`, `Visits.counted`).
-/

namespace ScriptWorkers

variable {κ : Type}

/-! ## What the journal tells of a context -/

/-- A callback of the context `me` has been invoked. -/
def Deed.isCallTo (me : WorkerId) : Deed → Bool
  | .called x .. => x = me
  | _ => false

/-- The messages that have been taken out of a mailbox for the context `me`. -/
def Deed.takenBy (me : WorkerId) : Deed → List Message
  | .ended x _ _ consumed => if x = me then consumed else []
  | _ => []

/-- Whether a message can be decoded. -/
def Message.isReadable (m : Message) : Bool := m.decode.isOk

theorem Message.isReadable_iff {m : Message} : m.isReadable = true ↔ ∃ v, m.decode = .ok v := by
  rw [isReadable]
  cases m.decode with
  | ok v => exact ⟨fun _ ↦ ⟨v, rfl⟩, fun _ ↦ rfl⟩
  | error e => exact ⟨fun h ↦ absurd h Bool.false_ne_true, fun ⟨_, h⟩ ↦ nomatch h⟩

theorem Message.isReadable_ofJson (v : Json) :
    (ofJson v).isReadable = (Json.read v.write).isOk := by
  have htext : (ofJson v).text.toList = v.write := String.toList_ofList
  rw [isReadable, decode, Json.parse, htext]
  cases Json.read v.write <;> rfl

/-- The deed is neither an invocation in the root context nor the end of one of its drains. -/
def Deed.Uncounted (d : Deed) : Prop := d.isCallTo 0 = false ∧ d.takenBy 0 = []

open World Mailbox

namespace Counting

variable {w w' : World κ} {id me : WorkerId} {α : Type}

/-! ## What is not counted -/

/-- Nothing is put down that counts, whichever way a computation ends. -/
def uncounted : Guarantee (World κ) where
  inv _ := True
  rel := Adds Deed.Uncounted
  broken _ := Adds Deed.Uncounted
  refl _ := adds_of_eq rfl
  trans _ _ := .trans
  after _ _ := .trans

/-- What puts nothing down does not count. -/
theorem keepsAt_of_journal {y : Run (World κ) α} {a : α} (hy : y w = .ok a w')
    (hj : w'.journal = w.journal) : KeepsAt uncounted y w := by
  intro _
  rw [hy]
  exact ⟨trivial, adds_of_eq hj⟩

theorem keeps_record {d : Deed} (hd : d.Uncounted) :
    Keeps uncounted (record d : Run (World κ) Unit) :=
  fun _ _ ↦ ⟨trivial, adds_noted hd⟩

theorem keeps_note (e : Event) : Keeps uncounted (note me e : Run (World κ) Unit) :=
  fun _ ↦ keepsAt_of_journal rfl rfl

theorem keeps_box (id : WorkerId) (side : Side) (f : Mailbox → Mailbox) :
    Keeps uncounted ((boxPlace id side).update f : Run (World κ) Unit) :=
  fun _ ↦ keepsAt_of_journal rfl (journal_updateWorker _)

theorem keeps_flag : Keeps uncounted (flag id : Run (World κ) Bool) :=
  fun _ ↦ keepsAt_of_journal rfl (journal_updateWorker _)

theorem keeps_timers (f : Timers → Timers) :
    Keeps uncounted ((timersPlace me).update f : Run (World κ) Unit) :=
  fun _ ↦ keepsAt_of_journal rfl (journal_setScope _)

theorem keeps_kids (f : List WorkerId → List WorkerId) :
    Keeps uncounted ((kidsPlace me).update f : Run (World κ) Unit) :=
  fun _ ↦ keepsAt_of_journal rfl (journal_setScope _)

theorem keeps_deposit (side : Side) (m : Message) :
    Keeps uncounted (deposit id side m : Run (World κ) Unit) :=
  fun w ↦ keepsAt_read_bind (((keeps_record ⟨rfl, rfl⟩).bind fun _ ↦ keeps_box id side _) w)

theorem keeps_spawn (script : String) :
    Keeps uncounted (spawn me script : Run (World κ) (Except CreationError WorkerId)) := by
  intro w
  by_cases h : w.loader.contains script = true
  · exact keepsAt_of_journal ((run_spawn w me script).trans (if_pos h)) (journal_setScope _)
  · exact keepsAt_of_journal ((run_spawn w me script).trans (if_neg h)) rfl

theorem staffing (me : WorkerId) : (uncounted : Guarantee (World κ)).Staffing me where
  note := keeps_note
  retained _ := keeps_record ⟨rfl, rfl⟩
  timed _ := keeps_record ⟨rfl, rfl⟩
  clock _ _ := keepsAt_of_journal rfl rfl
  loader _ _ := keepsAt_of_journal rfl rfl
  desk _ _ := keepsAt_of_journal rfl (journal_setScope _)
  timers := keeps_timers
  exchange id side _ w := keepsAt_read_bind (((keeps_box id side _).bind fun _ ↦ keeps_pure _ _) w)
  post := keeps_deposit .outbox
  send _ := keeps_deposit .inbox
  resign := keeps_flag
  kids := keeps_kids
  flag _ := keeps_flag
  spawn := keeps_spawn
  retired _ := keeps_record ⟨rfl, rfl⟩

section Core

variable {k : Callee (World κ)} (hme : me ≠ 0) (hk : k.KeepsAll uncounted)
include hme hk

/-- Invocations in other contexts do not count. -/
theorem noting_keeps (cause : Cause) : (noting k me cause).KeepsAll uncounted :=
  noting_keeps_of_parts hk (fun _ _ _ ↦ keeps_record ⟨decide_eq_false hme, rfl⟩)
    fun _ ↦ keeps_record ⟨rfl, rfl⟩

/-- Drains of other contexts do not count. -/
theorem keeps_drainBox (side : Side) : Keeps uncounted (drainBox k me id side) := by
  have hn := noting_keeps hme hk (.mail id side)
  exact keeps_drainBox_of_drain (keeps_record ⟨rfl, rfl⟩)
    (keeps_drain hn.log (fun w slot args _ ↦ hn.call slot args w) fun _ ↦ keeps_box id side _)
    fun _ ↦ keeps_record ⟨rfl, if_neg hme⟩

end Core

/-- Nothing that a worker does counts. -/
theorem throughout (engine : Engine κ) : uncounted.Throughout engine fun _ ↦ True where
  asks := (Order.lawful engine).asks
  broken := ⟨fun h ↦ ⟨trivial, h⟩, fun h ↦ h.2⟩
  note _ := keeps_note
  context _ _ _ := keepsAt_of_journal rfl (journal_setScope _)
  timers _ := keeps_timers
  kids _ := keeps_kids
  flag _ := keeps_flag
  phase _ _ _ := keepsAt_of_journal rfl (journal_updateWorker _)
  crashed _ _ := keepsAt_of_journal rfl (journal_updateWorker _)
  serve hfin me q _ := (staffing me).keeps_serve hfin q
  tick hme hk := keeps_tickTimers_of_noting (noting_keeps hme hk .timer) keeps_timers
  inbox hme hk := keeps_drainBox hme hk .inbox
  pump hme hk :=
    keeps_pump_of_pumpOne fun _ ↦ keeps_pumpOne_of_drainBox (keeps_drainBox hme hk .outbox)

/-- **Whatever callbacks of the root do, nothing is put down that counts.** -/
theorem rootCallee_keeps (engine : Engine κ) : (rootCallee engine).KeepsAll uncounted :=
  (throughout engine).callee_keeps fun id ↦ (throughout engine).keeps_step engine.depth id

end Counting

/-! ## Accounts -/

/-- In between so many callbacks of the root have been invoked, and so many of the messages that
have been taken for it cannot be read. -/
def Counted (calls lost : Nat) (w w' : World κ) : Prop :=
  ∃ ds, w'.journal.toList = w.journal.toList ++ ds ∧ ds.countP (·.isCallTo 0) = calls ∧
    (ds.flatMap (·.takenBy 0)).countP (!·.isReadable) = lost

namespace Counted

variable {w w' w'' : World κ} {a b a' b' : Nat}

theorem refl (w : World κ) : Counted 0 0 w w := ⟨[], by simp, rfl, rfl⟩

/-- Accounts add up. -/
theorem trans (h : Counted a b w w') (h' : Counted a' b' w' w'') :
    Counted (a + a') (b + b') w w'' := by
  obtain ⟨ds, hd, rfl, rfl⟩ := h
  obtain ⟨ds', hd', rfl, rfl⟩ := h'
  exact ⟨ds ++ ds', by rw [hd', hd, List.append_assoc], List.countP_append,
    by rw [List.flatMap_append, List.countP_append]⟩

theorem noted (d : Deed) : Counted (bif d.isCallTo 0 then 1 else 0)
    ((d.takenBy 0).countP (!·.isReadable)) w (w.noted d) :=
  ⟨[d], journal_noted w d, by cases h : d.isCallTo 0 <;> simp [h], by simp⟩

/-- What is uncounted adds nothing. -/
theorem of_adds (h : Adds Deed.Uncounted w w') : Counted 0 0 w w' := by
  obtain ⟨ds, hd, hds⟩ := h
  refine ⟨ds, hd, List.countP_eq_zero.2 fun d hm ↦ ?_, ?_⟩
  · rw [(hds d hm).1]
    exact Bool.false_ne_true
  · rw [List.flatMap_eq_nil_iff.2 fun d hm ↦ (hds d hm).2]
    rfl

end Counted

section Runs

variable {c : Callee (World κ)} {w w' : World κ} {id : WorkerId} {cause : Cause} {n : Nat}
  (hc : c.KeepsAll Counting.uncounted)
include hc

theorem Counted.log {line : LogLine} {u : Unit} (h : (noting c 0 cause).log line w = .ok u w') :
    Counted 0 0 w w' :=
  (Counted.noted (.logged 0 cause line)).trans (.of_adds ((hc.log line _).ok trivial h).2)

theorem Counted.call {slot : Slot} {args : List Json} {r : Except ScriptError Unit}
    (h : (noting c 0 cause).call slot args w = .ok r w') : Counted 1 0 w w' :=
  (Counted.noted (.called 0 cause slot ((w.scope 0).desk.function? slot) args)).trans
    (.of_adds ((hc.call slot args _).ok trivial h).2)

/-- An invocation is one, also if it fails. -/
theorem counted_invoked {origin : Origin} {slot : Slot} {args : List Json}
    (h : (noting c 0 cause).Invoked origin slot args w w') : Counted 1 0 w w' := by
  cases h with
  | returned hcall => exact .call hc hcall
  | failed hcall hlog => exact (Counted.call hc hcall).trans (.log hc hlog)

/-- By induction on the intervals that are due: each that fires is one call. -/
theorem counted_fire : ∀ {due : List Timer} {n : Nat} {w : World κ},
    Timers.fire (timersPlace 0) (noting c 0 .timer) due w = .ok n w' → Counted n 0 w w'
  | [], n, w, h => by
    cases h
    exact .refl _
  | t :: rest, n, w, h => by
    rw [Timers.fire, run_read_bind] at h
    split at h
    · obtain ⟨_, w₁, hinvoke, h⟩ := of_run_bind_ok h
      obtain ⟨k, w₂, hrest, h⟩ := of_run_bind_ok h
      cases h
      have hfirst := counted_invoked hc (Callee.invoked_of_run hinvoke)
      rw [Nat.add_comm]
      exact hfirst.trans (counted_fire hrest)
    · exact counted_fire h

/-- Intervals are counted one by one. -/
theorem counted_tickTimers (h : tickTimers c 0 w = .ok n w') : Counted n 0 w w' := by
  rw [tickTimers, run_read_bind, Timers.tick, run_read_bind] at h
  obtain ⟨_, w₁, hupdate, hfire⟩ := of_run_bind_ok h
  have hfirst : Counted 0 0 w w₁ := .of_adds ((Counting.keeps_timers _ w).ok trivial hupdate).2
  have hall := hfirst.trans (counted_fire hc hfire)
  rwa [Nat.zero_add] at hall

/-- The callbacks get the messages that can be read, and no others. -/
theorem counted_handed {given : List (Handover (World κ))}
    (h : Handed (boxPlace id .outbox) (noting c 0 cause) w given w') :
    Counted ((given.map (·.message)).countP (·.isReadable)) 0 w w' := by
  induction h with
  | done w => exact .refl w
  | @delivered w w₁ _ slot m v rest _ hm hinvoked _ ih =>
    have hreads : m.isReadable = true := Message.isReadable_iff.2 ⟨v, hm⟩
    rw [List.map_cons, List.countP_cons_of_pos hreads, Nat.add_comm]
    exact (counted_invoked hc hinvoked).trans ih
  | @dropped w w₁ _ slot m e rest _ hm hlogged _ ih =>
    have hreads : ¬ m.isReadable = true := by
      rw [Message.isReadable, hm]
      exact Bool.false_ne_true
    rw [List.map_cons, List.countP_cons_of_neg hreads]
    have hall := (Counted.log hc hlogged).trans ih
    rwa [Nat.zero_add] at hall

/-- A drain counts the callbacks that it invokes and the messages that it loses. -/
theorem Drained.counted {given : List (Handover (World κ))} (h : Drained c 0 id w given w') :
    ∃ calls lost, Counted calls lost w w' ∧ given.length = calls + lost := by
  have hbegan : Counted 0 0 w (w.noted (.began 0 id .outbox)) := .noted _
  cases h with
  | unheard callback =>
    exact ⟨0, 0, hbegan.trans (.noted (.ended 0 id .outbox [])), rfl⟩
  | @heard _ w₁ callback handed messages stopped =>
    have hsettle : Counted 0 0 w₁ ((boxPlace id .outbox).modify (·.settle given.length) w₁) :=
      .of_adds (adds_of_eq (journal_updateWorker _))
    have hended := (hbegan.trans (counted_handed hc handed)).trans
      (hsettle.trans (.noted (.ended 0 id .outbox (given.map (·.message)))))
    rw [messages] at hended
    refine ⟨_, _, hended, ?_⟩
    have hlength := List.length_eq_countP_add_countP Message.isReadable (l := given.map (·.message))
    rw [messages] at hlength
    simpa [Deed.isCallTo, Deed.takenBy, ← messages] using hlength

/-- Of the messages that are handed over, those that can be read are calls. -/
theorem Visits.counted {visits : List (Visit κ)} (h : Visits c 0 w visits w') :
    ∃ calls lost, Counted calls lost w w' ∧ handedOver visits = calls + lost := by
  induction h with
  | done w => exact ⟨0, 0, .refl w, rfl⟩
  | passed _ _ ih =>
    obtain ⟨calls, lost, hrest, hsum⟩ := ih
    exact ⟨calls, lost, hrest, (Nat.zero_add _).trans hsum⟩
  | served _ drained _ ih =>
    obtain ⟨calls, lost, hfirst, hlength⟩ := drained.counted hc
    obtain ⟨calls', lost', hrest, hsum⟩ := ih
    refine ⟨calls + calls', lost + lost', hfirst.trans hrest, ?_⟩
    rw [handedOver, hlength, hsum]
    omega

end Runs

section Ticks

variable {engine : Engine κ} {w w' : World κ} {n : Nat}

/-- A tick counts the callbacks that it invokes and the messages that it loses. -/
theorem counted_tickRoot (h : tickRoot engine w = .ok n w') :
    ∃ calls lost, Counted calls lost w w' ∧ n = calls + lost := by
  have hc := Counting.rootCallee_keeps engine
  obtain ⟨fired, w₁, htick, h⟩ := of_run_bind_ok h
  obtain ⟨pumped, w₂, hpump, h⟩ := of_run_bind_ok h
  cases h
  obtain ⟨visits, hvisits, -, rfl⟩ := visits_of_pumpAll hpump
  obtain ⟨calls, lost, hrest, hsum⟩ := hvisits.counted hc
  refine ⟨fired + calls, 0 + lost, (counted_tickTimers hc htick).trans hrest, ?_⟩
  rw [hsum]
  omega

/-- A tick can only be broken off by a callback. -/
theorem keeps_tickRoot_unlessCall (engine : Engine κ) :
    Keeps (unlessCall (rootCallee engine)) (tickRoot engine) := by
  have hn := noting_unlessCall engine (stepFully engine) 0 .timer
  have htick := keeps_tickTimers_of_noting hn fun _ ↦ unlessCall_of_ok fun _ ↦ ⟨_, _, rfl⟩
  have hpump : Keeps (unlessCall (rootCallee engine)) (pump (rootCallee engine) 0) :=
    keeps_pump_of_pumpOne fun id ↦ keeps_pumpOne_of_drainBox (keeps_drainBox_unlessCall id)
  exact htick.bind fun _ ↦ hpump.bind fun _ ↦ keeps_pure _ _

end Ticks

/-- **A tick returns the number of callbacks that it invokes, plus the messages that it loses.**
Take the root context in any world, with callbacks that may ask for whatever they like: add and
remove intervals, spawn and terminate workers, change handlers, fail.  Unless the context is broken
off in a callback, the tick returns a number.  By what is put down meanwhile, it is the number of
callbacks invoked in the root context plus the number of messages taken for it that cannot be read.
So it is the number of callbacks if and only if all these messages can be read. -/
theorem tick_counts_callbacks_iff (engine : Engine κ) (w : World κ) :
    (∃ n w' since, tickRoot engine w = .ok n w' ∧ w'.journal.toList = w.journal.toList ++ since ∧
      n = since.countP (·.isCallTo 0) + (since.flatMap (·.takenBy 0)).countP (!·.isReadable) ∧
      (n = since.countP (·.isCallTo 0) ↔
        ∀ m ∈ since.flatMap (·.takenBy 0), ∃ v, m.decode = .ok v)) ∨
    ∃ e w' slot args w₁, tickRoot engine w = .error e w' ∧
      (rootCallee engine).call slot args w₁ = .error e w' := by
  cases htick : tickRoot engine w with
  | error e w' =>
    obtain ⟨slot, args, w₁, hcall⟩ := (keeps_tickRoot_unlessCall engine w).error trivial htick
    exact .inr ⟨e, w', slot, args, w₁, rfl, hcall⟩
  | ok n w' =>
    obtain ⟨_, _, ⟨since, hsince, rfl, rfl⟩, hn⟩ := counted_tickRoot htick
    refine .inl ⟨n, w', since, rfl, hsince, hn, ?_⟩
    rw [hn, Nat.add_eq_left, List.countP_eq_zero]
    refine forall₂_congr fun m _ ↦ ?_
    rw [← Message.isReadable_iff]
    simp

/-- In the kitchen all messages can be read, and the tick returns the number of calls. -/
theorem kitchen_ticked : ∃ w' since, tickRoot chef kitchen = .ok 4 w' ∧
    w'.journal.toList = kitchen.journal.toList ++ since ∧ since.countP (·.isCallTo 0) = 4 ∧
    ∀ m ∈ since.flatMap (·.takenBy 0), ∃ v, m.decode = .ok v := by
  obtain ⟨w₁, hrun, hcalls⟩ : ∃ w₁, tickRoot chef kitchen = .ok 4 w₁ ∧
      w₁.journal.toList.countP (·.isCallTo 0) = 4 := ⟨_, rfl, rfl⟩
  rcases tick_counts_callbacks_iff chef kitchen with
    ⟨n, w', since, htick, hsince, -, hiff⟩ | ⟨e, w', _, _, _, htick, -⟩
  · obtain ⟨rfl, rfl⟩ := EStateM.Result.ok.inj (hrun.symm.trans htick)
    have hcount : since.countP (·.isCallTo 0) = 4 := by
      rw [hsince] at hcalls
      exact hcalls
    exact ⟨w₁, since, hrun, hsince, hcount, hiff.1 hcount.symm⟩
  · rw [hrun] at htick
    cases htick

/-- The host has spawned a worker and listens to it, and the worker has posted a message. -/
def scullery (m : Message) : World Unit where
  root := some { context := some (), kids := [1] }
  workers := [cook 1 [m] 7]
  handles := [1]
  loader := kitchen.loader
  journal := #[.posted 1 .outbox m true]

theorem reachable_scullery (v : Json) :
    Reachable chef kitchen.loader (fun _ ↦ True) (scullery (.ofJson v)) := by
  let start : World Unit := { root := some { context := some () }, loader := kitchen.loader }
  have hmade : create chef kitchen.loader = .ok start := rfl
  have hops : World.performAll chef
      [.spawn "dish", .listen 1 (some 7), .linkPost 1 .outbox (.json v)] start =
        some (scullery (.ofJson v)) := rfl
  have hreached := Reachable.performAll kitchen (.created hmade) (fun _ _ ↦ trivial)
    (Option.isSome_of_eq_some hops)
  rwa [hops] at hreached

/-- A message that cannot be read is taken out of the mailbox, and no callback is invoked. -/
theorem tick_scullery {m : Message} (hm : m.isReadable = false) :
    ∃ w', tickRoot chef (scullery m) = .ok 1 w' ∧ w'.journal.toList.countP (·.isCallTo 0) = 0 := by
  let c : Callee (World Unit) := noting (rootCallee chef) 0 (.mail 1 .outbox)
  let w : World Unit := (scullery m).noted (.began 0 1 .outbox)
  cases hdecode : m.decode with
  | ok v =>
    rw [Message.isReadable_iff.2 ⟨v, hdecode⟩] at hm
    cases hm
  | error e =>
    have hdeliver : c.deliver 7 m w = c.log (.undecodable e) w := by rw [Callee.deliver, hdecode]
    have hwalk : walk (boxPlace 1 .outbox) c [m] w = .ok 1 _ := run_bind_ok hdeliver
    have hslot : (w.link 1).outbox.callback = some 7 := rfl
    have hdrain : drain (boxPlace 1 .outbox) c w = .ok 1 _ := run_drain_ok hslot hwalk
    have hone : pumpOne (rootCallee chef) 0 1 (scullery m) = .ok 1 _ :=
      (run_bind_ok hdrain : (drain (boxPlace 1 .outbox) c >>= fun n ↦
        record (.ended 0 1 .outbox ([m].take n)) >>= fun _ ↦ pure n) w = _)
    have hpump : pump (rootCallee chef) 0 (scullery m) = .ok 1 _ := run_bind_ok hone
    have htimers : tickTimers (rootCallee chef) 0 (scullery m) = .ok 0 (scullery m) := rfl
    refine ⟨_, (run_bind_ok htimers).trans (run_bind_ok hpump), ?_⟩
    rfl

/-- The worker has posted arrays that are nested too deep to be read.  A tick returns one, although
no callback has ever been invoked. -/
theorem deep_post_is_counted : ∃ w w', Reachable chef kitchen.loader (fun _ ↦ True) w ∧
    tickRoot chef w = .ok 1 w' ∧ w'.journal.toList.countP (·.isCallTo 0) = 0 := by
  let deep : Json := Json.wrapped (fun v ↦ .arr [v]) .null 128
  have hread : (Json.read deep.write).isOk = false := by decide +kernel
  have hdeep : (Message.ofJson deep).isReadable = false := by
    rw [Message.isReadable_ofJson, hread]
  obtain ⟨w', htick, hcalls⟩ := tick_scullery hdeep
  exact ⟨_, w', reachable_scullery deep, htick, hcalls⟩

end ScriptWorkers
