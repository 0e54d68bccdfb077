import ScriptWorkers.Proofs.Mail.Drains

/-!
# The account of the messages in all runs

The host posts messages, listens to its workers, terminates them.  Whatever it does, the account is
right, and between its operations no drain is going on.

Here nothing is asked of the host or of the scripts: `keeps_direct` goes through all operations by
which the host itself changes links, registers or intervals.

* `host_of_own`: an operation of the host by which nobody drains anything.
* `keepsAt_postAt`, `keepsAt_employ`, `keepsAt_listen`, `keepsAt_dismiss_handle`: what the host does
  with its workers.
* `all_created`: at first nothing has been posted.
-/

namespace ScriptWorkers

open World

variable {κ : Type}

namespace Mail

variable {w w' : World κ} {id : WorkerId} {side : Side} {engine : Engine κ}

/-- What the host itself changes keeps the account if it drains nothing. -/
theorem host_of_own {α : Type} {y : Run (World κ) α} {a : α} (horder : KeepsAt Order.host y w)
    (hy : y w = .ok a w') (hs : w.Shape → Sound w → Sound w') (ho : ∀ x, Own x w w') :
    KeepsAt mail.host y w := by
  refine horder.both_of_ok hy fun hw hj _ hr ↦ ⟨Upkeep.All.of_rest ?_ ?_, trivial⟩
  · exact others_of_own hw hr.1.1 hj.others (hs hw hj.1) fun x _ ↦ ho x
  · exact (hj.2 0 (.refl w 0)).own (ho 0)

/-- An operation that does not concern messages keeps the account. -/
theorem host_of_unconcerned {α : Type} {y : Run (World κ) α} {a : α}
    (horder : KeepsAt Order.host y w) (hy : y w = .ok a w') (hu : Unconcerned w w') :
    KeepsAt mail.host y w :=
  host_of_own horder hy (fun _ ↦ hu.sound) fun _ ↦ hu.own

theorem keepsAt_postAt (q : Payload) (hid : (w.worker? id).isSome) :
    KeepsAt mail.host (postAt id side q) w := by
  have horder : KeepsAt Order.host (postAt id side q) w := Order.keepsAt_postAt q hid
  cases hq : Message.encode q with
  | error e =>
    exact host_of_own horder (Order.run_postAt_error hq) (fun _ hs ↦ hs) fun _ ↦ adds_of_eq rfl
  | ok m =>
    exact host_of_own horder (Order.run_postAt_ok hq) (fun hw hs ↦ hs.deposited hw) fun _ ↦
      own_deposited

theorem keepsAt_employ (script : String) (hw : w.root.isSome) :
    KeepsAt mail.host (employ script) w := by
  have horder := Order.keepsAt_employ script hw
  have hrun := Order.run_employ w script
  by_cases h : w.loader.contains script = true
  · rw [if_pos h] at hrun
    exact host_of_unconcerned horder hrun (unconcerned_spawned.trans
      (unconcerned_of_eq rfl (fun _ ↦ rfl) fun _ _ ↦ rfl))
  · rw [if_neg h] at hrun
    exact host_of_own horder hrun (fun _ hs ↦ hs) fun _ ↦ adds_of_eq rfl

/-- The host may change the callback of a worker's messages. -/
theorem keepsAt_listen (hid : id ∈ w.handles) (cb : Option Slot) :
    KeepsAt mail.host (World.exchange (boxPlace id .outbox) cb) w := by
  intro hi
  have hown := hi.1.handles id hid
  have hne : id ≠ 0 := Nat.ne_of_gt (hi.1.owner_lt hown)
  have horder : KeepsAt Order.host (World.exchange (boxPlace id .outbox) cb) w :=
    Order.host_of_still (Order.keepsAt_exchange (.inr hown) (fun _ ↦ hne) cb)
  exact host_of_unconcerned horder rfl unconcerned_listen hi

section Direct

variable (hl : mail.regime.Brings (stepFully engine))
include hl

theorem keepsAt_dismiss_handle (hid : id ∈ w.handles) :
    KeepsAt mail.host (dismiss (stepFully engine) 0 id) w := by
  intro hi
  exact Upkeep.keepsAt_dismiss_handle hl (hi.1.handles id hid) (fun _ ↦ trivial)
    (fun _ ↦ adds_of_eq (journal_setScope _)) hi

/-- What the host itself does keeps the account. -/
theorem keeps_direct {op : HostOp} {unlimited : Bool} {fuel : Nat} (hd : op.direct = true)
    (hdrop : op ≠ .drop) : Keeps mail.host (perform engine unlimited fuel op) := by
  intro w
  cases op with
  | spawn script => exact Regime.Hosts.keepsAt_withRoot fun hw ↦ keepsAt_employ script hw
  | post id q =>
    refine Regime.Hosts.keepsAt_withHandle fun hid hi ↦ keepsAt_postAt q ?_ hi
    exact worker?_isSome_of_owner? (hi.1.handles id hid)
  | listen id cb =>
    exact Regime.Hosts.keepsAt_withHandle fun hid ↦ (keepsAt_listen hid cb).bind
      fun _ w₁ _ _ _ ↦ keepsAt_pure _ _ w₁
  | terminate id =>
    exact Regime.Hosts.keepsAt_withHandle fun hid ↦ (keepsAt_dismiss_handle hl hid).bind
      fun _ w₁ _ _ _ ↦ keepsAt_pure _ _ w₁
  | linkPost id side q => exact Regime.Hosts.keepsAt_withWorker fun hid ↦ keepsAt_postAt q hid
  | kidTerminate id =>
    refine Regime.Hosts.keepsAt_withRoot fun hw ↦ Regime.Hosts.keepsAt_withWorker fun _ ↦ ?_
    have hkid : KeepsAt (mail.quiet 0) (terminateKid (stepFully engine) 0 id) w :=
      Upkeep.keepsAt_terminateKid hl (fun _ ↦ trivial) fun _ ↦ adds_of_eq (journal_setScope _)
    exact (Upkeep.host_of_quiet hw hkid).bind fun _ w₁ _ _ _ ↦ keepsAt_pure _ _ w₁
  | terminateAll =>
    refine Regime.Hosts.keepsAt_withRoot fun hw ↦ ?_
    exact (Upkeep.host_of_quiet hw (keeps_terminateKids hl w)).bind fun _ w₁ _ _ _ ↦
      keepsAt_pure _ _ w₁
  | timerAdd cb period =>
    refine Regime.Hosts.keepsAt_withRoot fun hw ↦ ?_
    exact (Upkeep.host_of_quiet hw (keeps_addTimer cb period w)).bind fun _ w₁ _ _ _ ↦
      keepsAt_pure _ _ w₁
  | timerRemove id =>
    refine Regime.Hosts.keepsAt_withRoot fun hw ↦ ?_
    exact (Upkeep.host_of_quiet hw (keeps_removeTimer id w)).bind fun _ w₁ _ _ _ ↦
      keepsAt_pure _ _ w₁
  | timerClear =>
    refine Regime.Hosts.keepsAt_withRoot fun hw ↦ keepsAt_read_bind ?_
    exact (Upkeep.host_of_quiet hw (keeps_timers _ w)).bind fun _ w₁ _ _ _ ↦ keepsAt_pure _ _ w₁
  | drop => exact absurd rfl hdrop
  | _ => cases hd

end Direct

theorem all_created {loader : Loader} (h : create engine loader = .ok w) : mail.All 0 w := by
  rw [create] at h
  cases hc : engine.create 0 with
  | error e =>
    rw [hc] at h
    cases h
  | ok c =>
    rw [hc] at h
    cases h
    refine ⟨⟨fun id side ↦ ?_, by simp, fun id side _ ↦ rfl⟩, fun x _ id side ↦ rfl⟩
    cases id <;> cases side <;> rfl

end Mail

end ScriptWorkers
