import Mathlib.Data.List.Forall2
import ScriptWorkers.Proofs.Likeness.Steps
import ScriptWorkers.World.Host

/-!
# Operations of the host in worlds alike

Where every worker counts, an operation of the host has the same answer in worlds alike and leaves
worlds alike, and so has a list of operations.  Left aside are the operations by which the host
itself enters the root context (`HostOp.enters`): what it is told there is up to the script.

`meets_perform` goes through the operations, those that make rounds by induction on their number
(`meets_stepEach`, `meets_stepTimes`, `meets_drive`).  `forall₂_trace` is the same for lists, with
what the host is told in each operation.
-/

namespace ScriptWorkers

/-- The host enters the root context and is told how the script ends. -/
def HostOp.enters : HostOp → Bool
  | .eval .. | .call .. | .runScript .. => true
  | _ => false

namespace Likeness

variable {κ₁ κ₂ : Type} {L : Likeness κ₁ κ₂} {e₁ : Engine κ₁} {e₂ : Engine κ₂}

open World

section Host

variable (hall : ∀ id, L.inside id) (he : L.Engines e₁ e₂)
include hall

/-! ## Simple operations -/

omit hall in
theorem Worlds.live {w₁ : World κ₁} {w₂ : World κ₂} (h : L.Worlds w₁ w₂)
    (hall : ∀ id, L.inside id) : w₁.live = w₂.live := by
  have hl : w₁.isLive = w₂.isLive := funext fun id ↦ h.isLive (hall id)
  rw [World.live, World.live, h.count, hl]

/-- What needs the root finds it on both sides or on neither. -/
theorem meets_withRoot {R : Answer → Answer → Prop} (hR : R .dropped .dropped)
    {x₁ : Run (World κ₁) Answer} {x₂ : Run (World κ₂) Answer} (h : L.Meets R x₁ x₂) :
    L.Meets R (withRoot x₁) (withRoot x₂) := by
  refine meets_get_bind fun w₁ w₂ hw ↦ meets_ite ?_ (fun _ ↦ h) fun _ ↦ meets_pure hR
  rw [isSome_of_rel (hw.root (hall 0))]

theorem meets_withHandle {x₁ : Run (World κ₁) Answer} {x₂ : Run (World κ₂) Answer} (id : WorkerId)
    (h : L.Meets Eq x₁ x₂) : L.Meets Eq (withHandle id x₁) (withHandle id x₂) :=
  meets_get_bind fun w₁ w₂ hw ↦ meets_ite (by rw [hw.handles (hall 0)]) (fun _ ↦ h) fun _ ↦
    meets_pure rfl

theorem meets_withWorker {x₁ : Run (World κ₁) Answer} {x₂ : Run (World κ₂) Answer} (id : WorkerId)
    (h : L.Meets Eq x₁ x₂) : L.Meets Eq (withWorker id x₁) (withWorker id x₂) := by
  refine meets_get_bind fun w₁ w₂ hw ↦ meets_ite ?_ (fun _ ↦ h) fun _ ↦ meets_pure rfl
  rw [isSome_of_rel (hw.workers id (hall id))]

/-- The host posts the same on both sides. -/
theorem meets_postAt (id : WorkerId) (side : Side) (p : Payload) :
    L.Meets Eq (postAt id side p) (postAt id side p) := by
  rw [postAt, postAt]
  cases Message.encode p with
  | ok m => exact (meets_deposit (hall id) side m).next fun _ ↦ meets_pure rfl
  | error e => exact meets_pure rfl

/-- The host spawns a worker of the same number. -/
theorem meets_employ (script : String) : L.Meets Eq (employ script) (employ script) := by
  refine (meets_spawn_eq (hall 0) script).next fun r ↦ ?_
  cases r with
  | error e => exact meets_pure rfl
  | ok id =>
    refine Meets.next (meets_modify fun w₁ w₂ hw ↦ ?_) fun _ ↦ meets_pure rfl
    exact { hw with handles := fun h0 ↦ congrArg (· ++ [id]) (hw.handles h0) }

theorem meets_kids {R : Answer → Answer → Prop} {f : List WorkerId → Answer}
    (hf : ∀ kids, R (f kids) (f kids)) :
    L.Meets R (do return f (← (kidsPlace 0).read)) (do return f (← (kidsPlace 0).read)) := by
  refine (meets_read_kids (hall 0)).bind ?_
  rintro kids _ ⟨rfl, -⟩
  exact meets_pure (hf kids)

theorem callees_recorder (cause : Cause) :
    L.Callees (noting recorder 0 cause) (noting recorder 0 cause) := by
  have hcall (slot : Slot) (args : List Json) :
      L.Meets Eq ((noting recorder 0 cause).call slot args)
      ((noting recorder 0 cause).call slot args) :=
    meets_noting_call (hall 0) ((meets_note (hall 0) _).next fun _ ↦ meets_pure rfl) cause
  have hlog (line : LogLine) : L.Meets Eq ((noting recorder 0 cause).log line)
      ((noting recorder 0 cause).log line) :=
    meets_noting_log (hall 0) (meets_note (hall 0) _) cause
  exact ⟨fun slot v ↦ meets_invoke (hcall slot _) hlog, fun slot ↦ meets_invoke (hcall slot _) hlog,
    hlog⟩

/-! ## Rounds -/

include he

omit hall in
theorem ends_stepFully : L.Ends (stepFully e₁) (stepFully e₂) := by
  intro id hid
  rw [stepFully, stepFully, ← he.depth]
  exact ends_step he _ id hid

theorem meets_tickRoot : L.Meets Eq (tickRoot e₁) (tickRoot e₂) := by
  have hc := he.callee (ends_stepFully he) (hall 0)
  exact (meets_tickTimers hc (hall 0)).next fun _ ↦ (meets_pump hc (hall 0)).next fun _ ↦
    meets_pure rfl

theorem meets_stepEach : ∀ ids, L.Meets Eq (stepEach e₁ ids) (stepEach e₂ ids)
  | [] => meets_pure rfl
  | id :: rest => (meets_await (ends_stepFully he) (hall id)).next fun _ ↦ meets_stepEach rest

theorem meets_stepTimes (id : WorkerId) :
    ∀ n, L.Meets Eq (stepTimes e₁ id n) (stepTimes e₂ id n)
  | 0 => meets_pure rfl
  | n + 1 => by
    refine meets_get_bind fun w₁ w₂ hw ↦ ?_
    simp only [hw.isLive (hall id)]
    refine (meets_await (ends_stepFully he) (hall id)).next fun _ ↦ ?_
    refine meets_ite Iff.rfl (fun _ ↦ ?_) fun _ ↦ meets_stepTimes id n
    refine meets_get_bind fun v₁ v₂ hv ↦ ?_
    rw [hv.phase (hall id)]
    exact meets_pure rfl

/-- By induction on the rounds. -/
theorem meets_drive (dt : Float) (expired : Nat → Bool) :
    ∀ fuel rounds, L.Meets Eq (drive e₁ dt expired rounds fuel) (drive e₂ dt expired rounds fuel)
  | 0, _ => meets_pure rfl
  | fuel + 1, rounds => by
    refine meets_get_bind fun w₁ w₂ hw ↦ ?_
    rw [hw.live hall]
    refine (meets_stepEach hall he _).next fun _ ↦ (meets_update_clock _).next fun _ ↦ ?_
    refine (meets_tickRoot hall he).next fun _ ↦ meets_get_bind fun v₁ v₂ hv ↦ ?_
    have hs := hv.scope (hall 0)
    simp only [World.isIdle, hs.kids, hs.timers]
    refine meets_ite Iff.rfl (fun _ ↦ meets_pure rfl) fun _ ↦ meets_ite Iff.rfl (fun _ ↦ ?_) fun _ ↦
      meets_drive dt expired fuel _
    exact (meets_note (hall 0) _).next fun _ ↦ meets_pure rfl

/-! ## Operations -/

theorem meets_drop : L.Meets Eq (drop e₁) (drop e₂) := by
  refine (meets_terminateKids (ends_stepFully he) (hall 0)).next fun _ ↦ ?_
  exact meets_modify fun w₁ w₂ hw ↦ { hw with root := fun _ ↦ .none }

/-- An operation that does not enter the root context has the same answer in worlds alike. -/
theorem meets_perform (unlimited : Bool) (fuel : Nat) {op : HostOp} (hop : op.enters = false) :
    L.Meets Eq (perform e₁ unlimited fuel op) (perform e₂ unlimited fuel op) := by
  have hfin := ends_stepFully he
  have h0 := hall 0
  have hroot {x₁ : Run (World κ₁) Answer} {x₂ : Run (World κ₂) Answer} (h : L.Meets Eq x₁ x₂) :=
    meets_withRoot hall (R := Eq) rfl h
  cases op with
  | eval | call | runScript => cases hop
  | tick => exact hroot ((meets_tickRoot hall he).next fun _ ↦ meets_pure rfl)
  | step id times => exact (meets_stepTimes hall he id times).next fun _ ↦ meets_pure rfl
  | stepAll =>
    refine meets_get_bind fun w₁ w₂ hw ↦ ?_
    rw [hw.live hall]
    exact (meets_stepEach hall he _).next fun _ ↦ meets_pure rfl
  | spawn script => exact hroot (meets_employ hall script)
  | post id p => exact meets_withHandle hall id (meets_postAt hall id .inbox p)
  | listen id cb =>
    exact meets_withHandle hall id
      ((meets_exchange_box (hall id) .outbox cb).next fun _ ↦ meets_pure rfl)
  | handler id =>
    exact meets_withHandle hall id ((meets_read_box (hall id) .outbox).next fun _ ↦ meets_pure rfl)
  | isTerminated id =>
    exact meets_withHandle hall id ((meets_read_link (hall id)).next fun _ ↦ meets_pure rfl)
  | number id => exact meets_withHandle hall id (meets_pure rfl)
  | terminate id =>
    exact meets_withHandle hall id ((meets_dismiss hfin h0 (hall id)).next fun _ ↦ meets_pure rfl)
  | linkPost id side p => exact meets_withWorker hall id (meets_postAt hall id side p)
  | linkTerminate id =>
    exact meets_withWorker hall id ((meets_flag (hall id)).next fun _ ↦
      (meets_await hfin (hall id)).next fun _ ↦ meets_pure rfl)
  | linkCallbacks id =>
    exact meets_withWorker hall id ((meets_read_link (hall id)).next fun _ ↦ meets_pure rfl)
  | kidTerminate id =>
    exact hroot (meets_withWorker hall id
      ((meets_terminateKid hfin h0 id).next fun _ ↦ meets_pure rfl))
  | kidContains id => exact hroot (meets_withWorker hall id (meets_kids hall fun _ ↦ rfl))
  | kidNumber id => exact hroot (meets_withWorker hall id (meets_kids hall fun _ ↦ rfl))
  | kidsText => exact hroot (meets_kids hall fun _ ↦ rfl)
  | terminateAll => exact hroot ((meets_terminateKids hfin h0).next fun _ ↦ meets_pure rfl)
  | pumpRecord =>
    exact hroot ((meets_pump (callees_recorder hall) h0).next fun _ ↦ meets_pure rfl)
  | timerAdd cb period => exact hroot ((meets_addTimer h0 cb period).next fun _ ↦ meets_pure rfl)
  | timerRemove n => exact hroot ((meets_removeTimer h0 n).next fun _ ↦ meets_pure rfl)
  | timerClear =>
    exact hroot ((meets_read_timers h0).next fun _ ↦
      (meets_update_timers h0 _).next fun _ ↦ meets_pure rfl)
  | advance s => exact (meets_update_clock _).next fun _ ↦ meets_pure rfl
  | setClock s => exact (meets_update_clock _).next fun _ ↦ meets_pure rfl
  | now => exact meets_read_clock.next fun _ ↦ meets_pure rfl
  | insert id code => exact (meets_update_loader _).next fun _ ↦ meets_pure rfl
  | unload id =>
    exact meets_read_loader.next fun _ ↦ (meets_update_loader _).next fun _ ↦ meets_pure rfl
  | idle =>
    refine hroot (meets_get_bind fun w₁ w₂ hw ↦ ?_)
    rw [World.isIdle, World.isIdle, (hw.scope h0).kids, (hw.scope h0).timers]
    exact meets_pure rfl
  | runLoop dt => exact hroot ((meets_drive hall he dt _ fuel 0).next fun _ ↦ meets_pure rfl)
  | drop => exact (meets_drop hall he).next fun _ ↦ meets_pure rfl

end Host

/-! ## Lists of operations -/

section Trace

variable {R : Answer → Answer → Prop} (hR : R .panicked .panicked) (hnil : L.events #[] #[])
  {unlimited : Bool} {fuel : Nat}
include hR hnil

/-- One operation, also if it is broken off. -/
theorem performOn_alike {op : HostOp}
    (hop : L.Meets R (perform e₁ unlimited fuel op) (perform e₂ unlimited fuel op)) {w₁ : World κ₁}
    {w₂ : World κ₂} (hw : L.Worlds w₁ w₂) :
    R (performOn e₁ unlimited fuel op w₁).1 (performOn e₂ unlimited fuel op w₂).1 ∧
      L.Worlds (performOn e₁ unlimited fuel op w₁).2 (performOn e₂ unlimited fuel op w₂).2 := by
  have h := hop { w₁ with events := #[] } { w₂ with events := #[] } { hw with events := hnil }
  rw [performOn, performOn, EStateM.run, EStateM.run]
  cases h₁ : perform e₁ unlimited fuel op { w₁ with events := #[] } with
  | ok a₁ v₁ =>
    rw [h₁] at h
    obtain ⟨a₂, v₂, h₂, ha, hv⟩ := h.ok_left
    rw [h₂]
    exact ⟨ha, hv⟩
  | error e v₁ =>
    rw [h₁] at h
    obtain ⟨v₂, h₂, hv⟩ := h.error_left
    rw [h₂]
    exact ⟨hR, hv⟩

/-- If each operation of a list keeps worlds alike, the two sides stay alike all along. -/
theorem forall₂_trace : ∀ {ops : List HostOp},
    (∀ op ∈ ops, L.Meets R (perform e₁ unlimited fuel op) (perform e₂ unlimited fuel op)) →
    ∀ {w₁ : World κ₁} {w₂ : World κ₂}, L.Worlds w₁ w₂ →
      List.Forall₂ (fun r₁ r₂ ↦ R r₁.1 r₂.1 ∧ L.Worlds r₁.2 r₂.2)
        (trace e₁ unlimited fuel ops w₁) (trace e₂ unlimited fuel ops w₂)
  | [], _, _, _, _ => .nil
  | op :: _, hops, _, _, hw =>
    have h := performOn_alike hR hnil (hops op List.mem_cons_self) hw
    .cons h (forall₂_trace (fun o ho ↦ hops o (List.mem_cons_of_mem _ ho)) h.2)

end Trace

end Likeness
end ScriptWorkers
