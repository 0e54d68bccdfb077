import ScriptWorkers.Proofs.Silence.Basic
import ScriptWorkers.Proofs.Throughout

/-!
# Silence is kept

Everything that contexts ask for over their desks, everything that the core does for them and
everything that a host does keeps silence, also where it is broken off.  So silence holds in all
worlds that a host can bring about, and in the middle of all operations.

## What is here

* `letGo_of_layOff`: when a worker is retired it is let go of before its thread is brought to its
  end, and its callback is gone by then.
* `keeps_serveDesk`: case by case over the requests, of which `keepsAt_register` needs that the
  worker is still held.
* `keepsAt_noting_call`: the callback that is invoked for a message is the one in the mailbox.
* `keeps_step`: a step of a worker, by `Throughout`; `keeps_perform`: an operation of the host.
* `sound_reachable` and `sound_moment`: between operations and in the middle of them.
-/

namespace ScriptWorkers

open World

variable {κ : Type}

namespace Silence

variable {w w' : World κ} {c id me x : WorkerId} {finish : WorkerId → Run (World κ) Unit}

/-! ## Terminating workers -/

section Terminating

variable (hfin : ∀ id, Keeps silence (finish id))
include hfin

theorem keeps_terminateKid : Keeps silence (terminateKid finish me id) :=
  keeps_terminateKid_of_parts keeps_note keeps_kids (fun _ ↦ keeps_flag) hfin

theorem keeps_terminateKids : Keeps silence (terminateKids finish me) :=
  keeps_terminateKids_of_parts keeps_note keeps_kids (fun _ ↦ keeps_flag) hfin

theorem keeps_dismiss : Keeps silence (dismiss finish me id) :=
  keeps_dismiss_of_parts keeps_note keeps_kids (fun _ ↦ keeps_flag) hfin

end Terminating

/-! ## Retiring a worker -/

/-- A worker that is taken from the desk is let go of. -/
theorem letGo_of_holds (hw : Sound w) (hid : id ∈ (w.scope me).desk.workers) :
    ((deskPlace me).modify (·.letGo id) w).LetGo me id := by
  obtain ⟨hown, hhandles⟩ := hw.held me id hid
  have hs : w.HasScope me := by
    refine Classical.not_not.1 fun hn ↦ ?_
    rw [scope_of_not_hasScope hn] at hid
    cases hid
  rw [deskPlace_modify]
  refine ⟨by rw [owner?_setScope, hown], ?_, by rwa [handles_setScope]⟩
  rw [scope_setScope_self hs]
  simp [Desk.letGo]

theorem eases_unlisten : Eases w ((boxPlace id .outbox).modify (·.listen none) w) :=
  eases_setLink fun _ _ _ ↦ rfl

/-- Nobody listens to a mailbox without callback. -/
theorem unheard_of_unlisten (h : w.LetGo me id) :
    ((boxPlace id .outbox).modify (·.listen none) w).Unheard id := by
  obtain ⟨k, hk, -⟩ := owner?_eq_some_iff.1 h.owner
  rw [boxPlace_modify, Unheard, link_setLink_self hk]
  rfl

section Retiring

variable (hfin : ∀ id, Keeps silence (finish id))
include hfin

theorem keeps_layOff : Keeps silence (layOff finish me id) := by
  have hdesk (d : Desk) (c : WorkerId) (hc : c ∈ (d.letGo id).workers) : c ∈ d.workers :=
    (List.mem_filter.1 hc).1
  refine (keeps_desk hdesk).bind fun _ ↦ (keeps_dismiss hfin).bind fun _ ↦ ?_
  exact Keeps.bind (fun w ↦ keepsAt_exchange (keeps_unlisten w)) fun old ↦ keeps_forget old

/-- Once a worker has been laid off, its context has let go of it, and nobody is called back for
it. -/
theorem letGo_of_layOff (hw : Sound w) (hid : id ∈ (w.scope me).desk.workers)
    (h : layOff finish me id w = .ok () w') : w'.LetGo me id ∧ w'.Unheard id := by
  have hletGo := letGo_of_holds hw hid
  have hdesk (d : Desk) (c : WorkerId) (hc : c ∈ (d.letGo id).workers) : c ∈ d.workers :=
    (List.mem_filter.1 hc).1
  rw [layOff] at h
  obtain ⟨_, w₁, h₁, h⟩ := of_run_bind_ok h
  obtain ⟨hw₁, -⟩ := (keeps_desk hdesk w).ok hw h₁
  cases h₁
  -- whatever goes on while the worker comes to its end, nobody gets a hold of it
  obtain ⟨_, w₂, h₂, h⟩ := of_run_bind_ok h
  have hletGo₂ := ((keeps_dismiss hfin _).ok hw₁ h₂).2.letGo me id hletGo
  obtain ⟨old, w₃, h₃, h⟩ := of_run_bind_ok h
  have hw₃ : w₃ = (boxPlace id .outbox).modify (·.listen none) w₂ := by
    cases h₃
    rfl
  have hletGo₃ : w₃.LetGo me id := hw₃ ▸ eases_unlisten.letGo hletGo₂
  have hunheard₃ : w₃.Unheard id := hw₃ ▸ unheard_of_unlisten hletGo₂
  have hforget : Eases w₃ ((deskPlace me).modify (·.forget old) w₃) := by
    refine eases_setScope fun c hc ↦ ?_
    cases old <;> exact hc
  cases h
  exact ⟨hforget.letGo hletGo₃, hforget.unheard me id hletGo₃ hunheard₃⟩

/-- The retirement is entered in the journal when the worker has been let go of. -/
theorem keepsAt_retire (hid : id ∈ (w.scope me).desk.workers) :
    KeepsAt silence (layOff finish me id >>= fun _ ↦ record (.retired me id)) w := by
  refine (keeps_layOff hfin w).bind fun _ w₁ h₁ hw _ ↦ ?_
  have hdone := letGo_of_layOff hfin hw hid h₁
  refine keepsAt_record (fun _ hc ↦ by cases hc) fun _ _ hr ↦ ?_
  cases hr
  exact hdone

end Retiring

/-! ## What contexts ask for -/

/-- Who may set a handler of a worker has a hold of it. -/
theorem hasHold_of_mayHandle (h : mayHandle me (w.scope me).desk (.worker id) = true) :
    HasHold w id := by
  refine .inr ⟨me, ?_⟩
  simpa [mayHandle, Desk.holds] using h

theorem keepsAt_exchange_handler {s : Source} (cb : Option Slot)
    (h : ∀ id, s = .worker id → HasHold w id) :
    KeepsAt silence (exchange (handlerPlace me s) cb) w := by
  cases s with
  | owner => exact keepsAt_exchange (keeps_listen_inbox cb w)
  | worker id => exact keepsAt_exchange (keepsAt_listen cb (h id rfl))

theorem workers_deskPlace_modify {f : Desk → Desk} (hf : ∀ d, (f d).workers = d.workers) :
    (((deskPlace me).modify f w).scope x).desk.workers = (w.scope x).desk.workers := by
  rw [deskPlace_modify]
  rcases scope_setScope_or w me { w.scope me with desk := f (w.scope me).desk } x with h | ⟨rfl, h⟩
  · rw [h]
  · rw [h]
    exact hf _

theorem hasHold_of_retain {f : FunctionRef} {slot : Slot} (h : HasHold w id)
    (hr : retain me f w = .ok slot w') : HasHold w' id := by
  cases hr
  refine h.imp (fun h ↦ ?_) fun ⟨x, h⟩ ↦ ⟨x, ?_⟩
  · rw [deskPlace_modify, handles_setScope]
    exact h
  · have hf (d : Desk) : (d.retain f).workers = d.workers := rfl
    have hsame := (same_noted w (.retained me ((deskPlace me).get w).next)).scope (p := x)
    rw [workers_deskPlace_modify hf]
    rwa [← hsame] at h

/-- A handler is set for a worker that is held. -/
theorem keepsAt_register {s : Source} (f : Handler) (h : ∀ id, s = .worker id → HasHold w id) :
    KeepsAt silence (register me s f) w := by
  cases f with
  | invalid => exact keeps_note _ w
  | clear => exact (keepsAt_exchange_handler none h).bind fun old w₁ _ _ _ ↦ keeps_forget old w₁
  | function f =>
    refine (keeps_retain f w).bind fun slot w₁ hr _ _ ↦ ?_
    have h₁ (id : WorkerId) (hs : s = .worker id) := hasHold_of_retain (h id hs) hr
    exact (keepsAt_exchange_handler _ h₁).bind fun old w₂ _ _ _ ↦ keeps_forget old w₂

/-- Creating a worker takes one step, and does nothing if the script cannot be loaded. -/
theorem run_create (w : World κ) (me : WorkerId) (script : String) :
    serveDesk finish me (.create script) w = if w.loader.contains script then
      .ok (.ok (w.workers.length + 1)) (w.created me script)
    else .ok (.error (.scriptNotFound script)) w := by
  have hrun := run_spawn w me script
  rw [serveDesk]
  by_cases h : w.loader.contains script = true
  · rw [if_pos h] at hrun
    rw [run_bind_ok hrun, if_pos h]
    rfl
  · rw [if_neg h] at hrun
    rw [run_bind_ok hrun, if_neg h]
    rfl

section Serve

variable (hfin : ∀ id, Keeps silence (finish id))
include hfin

/-- Case by case over what can be asked for over the desk. -/
theorem keeps_serveDesk (q : DeskRequest) : Keeps silence (serveDesk finish me q) := by
  intro w
  cases q with
  | note e => exact keeps_note e w
  | post m => exact keeps_deposit m w
  | holds id => exact keepsAt_read_bind (keepsAt_pure _ _ w)
  | function slot => exact keepsAt_read_bind (keepsAt_pure _ _ w)
  | handle s f =>
    refine keepsAt_read_bind (keepsAt_ite (fun h ↦ keepsAt_register f fun id hs ↦ ?_) fun _ ↦
      keepsAt_pure _ _ w)
    subst hs
    exact hasHold_of_mayHandle h
  | handler s =>
    refine keepsAt_read_bind (keepsAt_ite (fun _ ↦ ?_) fun _ ↦ keepsAt_pure _ _ w)
    exact keepsAt_read_bind (keepsAt_pure _ _ w)
  | startInterval f period =>
    exact (keeps_retain f w).bind fun slot w₁ _ _ _ ↦ keeps_addTimer slot period w₁
  | stopInterval id =>
    exact (keeps_removeTimer id w).bind fun old w₁ _ _ _ ↦ keeps_forget old w₁
  | create script =>
    by_cases h : w.loader.contains script = true
    · exact keepsAt_of_gains ((run_create w me script).trans (if_pos h)) gains_created
    · intro hw
      rw [run_create, if_neg h]
      exact ⟨hw, .refl w⟩
  | send id m =>
    exact keepsAt_read_bind (keepsAt_ite (fun _ ↦ keeps_deposit m w) fun _ ↦ keepsAt_pure _ _ w)
  | retire id =>
    refine keepsAt_read_bind (keepsAt_ite (fun h ↦ keepsAt_retire hfin ?_) fun _ ↦
      keepsAt_pure _ _ w)
    exact List.contains_iff_mem.1 h

end Serve

/-! ## What the core does -/

section Core

variable {k : Callee (World κ)} (hk : k.KeepsAll silence)
include hk

/-- A callback for a message is invoked only as long as it is registered. -/
theorem keepsAt_noting_call {side : Side} {slot : Slot} (args : List Json)
    (h : ((boxPlace id side).get w).callback = some slot) :
    KeepsAt silence ((noting k me (.mail id side)).call slot args) w :=
  keepsAt_read_bind ((keepsAt_record_called h).bind fun _ w₁ _ _ _ ↦ hk.call slot args w₁)

theorem noting_timer_keeps : (noting k me .timer).KeepsAll silence :=
  noting_keeps_of_parts hk (fun _ _ _ ↦ keeps_record ⟨fun _ ↦ rfl, by simp⟩)
    fun _ ↦ keeps_record ⟨fun _ ↦ rfl, by simp⟩

theorem keeps_noting_log (cause : Cause) (line : LogLine) :
    Keeps silence ((noting k me cause).log line) :=
  (keeps_record ⟨fun _ ↦ rfl, by simp⟩).bind fun _ ↦ hk.log line

/-- A drain invokes the callback that is in the mailbox. -/
theorem keeps_drainBox {side : Side} : Keeps silence (drainBox k me id side) :=
  keeps_drainBox_of_drain (keeps_record ⟨fun _ ↦ rfl, by simp⟩)
    (keeps_drain (keeps_noting_log hk _) (fun w slot args h ↦ keepsAt_noting_call hk args h)
      fun n ↦ keeps_box fun _ ↦ rfl)
    fun _ ↦ keeps_record ⟨fun _ ↦ rfl, by simp⟩

theorem keeps_pump : Keeps silence (pump k me) :=
  keeps_pump_of_pumpOne fun _ ↦ keeps_pumpOne_of_drainBox (keeps_drainBox hk)

theorem keeps_tickTimers : Keeps silence (tickTimers k me) :=
  keeps_tickTimers_of_noting (noting_timer_keeps hk) keeps_timers

end Core

/-- Silence is kept in the middle of everything, if contexts go over their desks. -/
theorem throughout {engine : Engine κ} (he : engine.Asks Request.OverDesk) :
    silence.Throughout engine Request.OverDesk where
  asks := he
  broken := Iff.rfl
  note _ := keeps_note
  context _ := keeps_context
  timers _ := keeps_timers
  kids _ := keeps_kids
  flag _ := keeps_flag
  phase _ := keeps_setPhase
  crashed _ := keeps_crashed
  serve hfin _ _ := by
    rintro ⟨q, rfl⟩
    exact keeps_serveDesk hfin q
  tick _ := keeps_tickTimers
  inbox _ hk := keeps_drainBox hk
  pump _ := keeps_pump

/-- **Steps keep silence**, of whichever worker and however deep they go. -/
theorem keeps_step {engine : Engine κ} (he : engine.Asks Request.OverDesk) (n : Nat) :
    ∀ id, Keeps silence (step engine n id) :=
  (throughout he).keeps_step n

/-! ## What a host does -/

section Hosts

variable {engine : Engine κ} (he : engine.Asks Request.OverDesk)
include he

theorem keeps_await_step : Keeps silence (await (stepFully engine) id) :=
  keeps_await_of_finish (keeps_step he engine.depth id)

theorem keeps_stepEach : ∀ ids, Keeps silence (stepEach engine ids)
  | [] => keeps_pure _ _
  | _ :: rest => (keeps_await_step he).bind fun _ ↦ keeps_stepEach rest

theorem keeps_stepTimes : ∀ n, Keeps silence (stepTimes engine id n)
  | 0 => keeps_pure _ _
  | n + 1 => by
    intro w
    rw [stepTimes]
    refine keepsAt_get_bind ((keeps_await_step he w).bind fun _ w₁ _ _ _ ↦ ?_)
    refine keepsAt_ite (fun _ ↦ ?_) fun _ ↦ keeps_stepTimes n w₁
    exact keepsAt_get_bind (keepsAt_pure _ _ w₁)

theorem rootCallee_keeps : (rootCallee engine).KeepsAll silence :=
  (throughout he).callee_keeps (keeps_step he engine.depth)

theorem keeps_tickRoot : Keeps silence (tickRoot engine) :=
  (keeps_tickTimers (rootCallee_keeps he)).bind fun _ ↦
    (keeps_pump (rootCallee_keeps he)).bind fun _ ↦ keeps_pure _ _

theorem keeps_eval (code : Code) (name : String) : Keeps silence (eval engine code name) :=
  (throughout he).keeps_enter (keeps_step he engine.depth) fun c ↦ he.execute c code name

/-- By induction on the rounds. -/
theorem keeps_drive (dt : Float) (expired : Nat → Bool) : ∀ fuel rounds,
    Keeps silence (drive engine dt expired rounds fuel)
  | 0, _ => keeps_pure _ _
  | fuel + 1, rounds => by
    intro w
    rw [drive]
    refine keepsAt_get_bind ((keeps_stepEach he _ w).bind fun _ w₁ _ _ _ ↦ ?_)
    refine (keeps_clock _ w₁).bind fun _ w₂ _ _ _ ↦ (keeps_tickRoot he w₂).bind fun _ w₃ _ _ _ ↦ ?_
    refine keepsAt_get_bind (keepsAt_ite (fun _ ↦ keepsAt_pure _ _ w₃) fun _ ↦ ?_)
    refine keepsAt_ite (fun _ ↦ ?_) fun _ ↦ keeps_drive dt expired fuel (rounds + 1) w₃
    exact (keeps_note _ w₃).bind fun _ w₄ _ _ _ ↦ keepsAt_pure _ _ w₄

theorem keeps_runScript (script : String) (dt : Float) (expired : Nat → Bool) (fuel : Nat) :
    Keeps silence (runScript engine script dt expired fuel) := by
  intro w
  rw [runScript]
  refine keepsAt_read_bind ?_
  split
  · exact keepsAt_pure _ _ w
  · refine (keeps_eval he _ script w).bind fun a w₁ _ _ _ ↦ ?_
    cases a with
    | error e => exact keepsAt_pure _ _ w₁
    | ok u => exact (keeps_drive he dt expired fuel 0 w₁).bind fun _ w₂ _ _ _ ↦ keepsAt_pure _ _ w₂

/-- The root is given up. -/
theorem keeps_drop : Keeps silence (drop engine) :=
  (keeps_terminateKids (keeps_step he engine.depth)).bind
    fun _ _ ↦ keepsAt_of_eases rfl eases_dropped

omit he in
theorem keeps_postAt {side : Side} (q : Payload) :
    Keeps silence (postAt id side q : Run (World κ) Answer) := by
  rw [postAt]
  split
  · exact (keeps_deposit _).bind fun _ ↦ keeps_pure _ _
  · exact keeps_pure _ _

omit he in
theorem keeps_employ (script : String) : Keeps silence (employ script : Run (World κ) Answer) := by
  intro w
  by_cases h : w.loader.contains script = true
  · exact keepsAt_of_gains ((Order.run_employ w script).trans (if_pos h)) gains_employed
  · intro hw
    rw [Order.run_employ, if_neg h]
    exact ⟨hw, .refl w⟩

omit he in
theorem recorder_keeps : (recorder : Callee (World κ)).KeepsAll silence :=
  ⟨fun _ _ ↦ (keeps_note _).bind fun _ ↦ keeps_pure _ _, fun _ ↦ keeps_note _⟩

/-- **Silence is kept by everything that a host does.** -/
theorem keeps_perform (unlimited : Bool) (fuel : Nat) (op : HostOp) :
    Keeps silence (perform engine unlimited fuel op) := by
  have hfin := keeps_step he engine.depth
  have hend {α : Type} {y : Run (World κ) α} {f : α → Answer} (hy : Keeps silence y) :
      Keeps silence (y >>= fun a ↦ pure (f a)) := hy.bind fun _ ↦ keeps_pure _ _
  intro w
  cases op with
  | eval code name => exact Regime.Hosts.keepsAt_withRoot fun _ ↦ hend (keeps_eval he code name) w
  | tick => exact Regime.Hosts.keepsAt_withRoot fun _ ↦ hend (keeps_tickRoot he) w
  | step id times => exact hend (keeps_stepTimes he times) w
  | stepAll => exact keepsAt_get_bind (hend (keeps_stepEach he _) w)
  | spawn script => exact Regime.Hosts.keepsAt_withRoot fun _ ↦ keeps_employ script w
  | post id q => exact Regime.Hosts.keepsAt_withHandle fun _ ↦ keeps_postAt q w
  | listen id cb =>
    refine Regime.Hosts.keepsAt_withHandle fun hid ↦ ?_
    exact (keepsAt_exchange (keepsAt_listen cb (.inl hid))).bind fun _ w₁ _ _ _ ↦
      keepsAt_pure _ _ w₁
  | handler id =>
    exact Regime.Hosts.keepsAt_withHandle fun _ ↦ keepsAt_read_bind (keepsAt_pure _ _ w)
  | isTerminated id =>
    exact Regime.Hosts.keepsAt_withHandle fun _ ↦ keepsAt_read_bind (keepsAt_pure _ _ w)
  | number id => exact Regime.Hosts.keepsAt_withHandle fun _ ↦ keepsAt_pure _ _ w
  | terminate id => exact Regime.Hosts.keepsAt_withHandle fun _ ↦ hend (keeps_dismiss hfin) w
  | linkPost id side q => exact Regime.Hosts.keepsAt_withWorker fun _ ↦ keeps_postAt q w
  | linkTerminate id =>
    refine Regime.Hosts.keepsAt_withWorker fun _ ↦ (keeps_flag w).bind fun _ w₁ _ _ _ ↦ ?_
    exact hend (keeps_await_step he) w₁
  | linkCallbacks id =>
    exact Regime.Hosts.keepsAt_withWorker fun _ ↦ keepsAt_read_bind (keepsAt_pure _ _ w)
  | kidTerminate id =>
    exact Regime.Hosts.keepsAt_withRoot fun _ ↦ Regime.Hosts.keepsAt_withWorker fun _ ↦
      hend (keeps_terminateKid hfin) w
  | kidContains id =>
    exact Regime.Hosts.keepsAt_withRoot fun _ ↦ Regime.Hosts.keepsAt_withWorker fun _ ↦
      keepsAt_read_bind (keepsAt_pure _ _ w)
  | kidNumber id =>
    exact Regime.Hosts.keepsAt_withRoot fun _ ↦ Regime.Hosts.keepsAt_withWorker fun _ ↦
      keepsAt_read_bind (keepsAt_pure _ _ w)
  | kidsText => exact Regime.Hosts.keepsAt_withRoot fun _ ↦ keepsAt_read_bind (keepsAt_pure _ _ w)
  | terminateAll => exact Regime.Hosts.keepsAt_withRoot fun _ ↦ hend (keeps_terminateKids hfin) w
  | pumpRecord => exact Regime.Hosts.keepsAt_withRoot fun _ ↦ hend (keeps_pump recorder_keeps) w
  | timerAdd cb period =>
    exact Regime.Hosts.keepsAt_withRoot fun _ ↦ hend (keeps_addTimer cb period) w
  | timerRemove id => exact Regime.Hosts.keepsAt_withRoot fun _ ↦ hend (keeps_removeTimer id) w
  | timerClear =>
    exact Regime.Hosts.keepsAt_withRoot fun _ ↦ keepsAt_read_bind (hend (keeps_timers _) w)
  | call cb args =>
    exact Regime.Hosts.keepsAt_withRoot fun _ ↦ hend ((rootCallee_keeps he).call cb args) w
  | advance s => exact hend (keeps_clock _) w
  | setClock s => exact hend (keeps_clock _) w
  | now => exact keepsAt_read_bind (keepsAt_pure _ _ w)
  | insert id code => exact hend (keeps_loader _) w
  | unload id => exact keepsAt_read_bind (hend (keeps_loader _) w)
  | idle => exact Regime.Hosts.keepsAt_withRoot fun _ ↦ keepsAt_get_bind (keepsAt_pure _ _ w)
  | runLoop dt => exact Regime.Hosts.keepsAt_withRoot fun _ ↦ hend (keeps_drive he dt _ fuel 0) w
  | runScript id dt =>
    exact Regime.Hosts.keepsAt_withRoot fun _ ↦ hend (keeps_runScript he id dt _ fuel) w
  | drop => exact hend (keeps_drop he) w

end Hosts

/-! ## All runs -/

section Worlds

variable {engine : Engine κ} {loader : Loader} {allowed : HostOp → Prop}

/-- In a new world there is nobody to be silent. -/
theorem sound_created (h : create engine loader = .ok w) : Sound w := by
  rw [create] at h
  cases hc : engine.create 0 with
  | error e =>
    rw [hc] at h
    cases h
  | ok c =>
    rw [hc] at h
    cases h
    refine ⟨fun me id hid ↦ ?_, by simp, by simp, by simp⟩
    cases me <;> cases hid

theorem eases_cleared : Eases w { w with events := #[] } := by
  have hsame : Same w { w with events := #[] } := ⟨rfl, rfl, rfl⟩
  exact (alike_of_same hsame rfl).eases

theorem sound_reachable (he : engine.Asks Request.OverDesk)
    (h : Reachable engine loader allowed w) : Sound w := by
  induction h with
  | created h => exact sound_created h
  | performed _ _ h ih => exact ((keeps_perform he _ _ _ _).ok (ih.eases eases_cleared) h).1
  | panicked _ _ h ih => exact ((keeps_perform he _ _ _ _).error (ih.eases eases_cleared) h).1

theorem sound_moment (he : engine.Asks Request.OverDesk) (h : Moment engine loader allowed me w) :
    Sound w := by
  obtain ⟨w₀, unlimited, fuel, op, hw₀, -, h⟩ := h
  exact ((keeps_perform he _ _ _ _).error ((sound_reachable he hw₀).eases eases_cleared) h).1

end Worlds

end Silence

end ScriptWorkers
