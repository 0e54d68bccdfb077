import ScriptWorkers.Proofs.Books.Lawful

/-!
# The books in all runs

A host that leaves it to the scripts to register callbacks and to terminate what they have created
keeps the books in order too (`HostOp.leavesBooks`).  It may run scripts, tick, step, spawn workers
of its own and terminate them, post, and give up the root.

`keeps_direct` is what `Upkeep.all_of_reachable` asks for, operation by operation; `all_created` is
the beginning: in a new world nobody has any callbacks.
-/

namespace ScriptWorkers

open World

variable {κ : Type}

/-- By this operation the host does not meddle with callbacks of the root, nor with the register
of its workers. -/
def HostOp.leavesBooks : HostOp → Prop
  | .listen .. | .timerAdd .. | .timerRemove _ | .timerClear | .kidTerminate _ | .terminateAll =>
    False
  | _ => True

namespace Books

variable {w w' : World κ} {id : WorkerId} {engine : Engine κ}

theorem keepsAt_postAt {side : Side} (q : Payload) (hid : (w.worker? id).isSome) :
    KeepsAt books.host (postAt id side q) w := by
  have horder : KeepsAt Order.host (postAt id side q) w := Order.keepsAt_postAt q hid
  cases hq : Message.encode q with
  | error e =>
    exact horder.both_of_ok (Order.run_postAt_error hq) fun _ hj _ _ ↦ ⟨hj, trivial⟩
  | ok m =>
    refine horder.both_of_ok (Order.run_postAt_ok hq) fun _ hj _ _ ↦
      ⟨⟨hj.1.deposited (.inr hid), fun x hx ha ↦ ?_⟩, trivial⟩
    have hx' : w.Under 0 x := by simpa only [Under, owner?_deposited] using hx
    exact (hj.2 x hx' (untouched_deposited.awake ha)).untouched untouched_deposited

/-- A worker of the host is registered with the root, but the books do not mention it. -/
theorem keepsAt_employ (script : String) (hw : w.root.isSome) :
    KeepsAt books.host (employ script) w := by
  have horder := Order.keepsAt_employ script hw
  have ha : w.Awake 0 := hw
  by_cases h : w.loader.contains script = true
  · have hrun : employ script w = .ok (.worker (some (w.workers.length + 1)))
        (hired w 0 script false) := (Order.run_employ w script).trans (if_pos h)
    refine horder.both_of_ok hrun fun hs hj _ _ ↦ ?_
    have hkept := hj.2 0 (.refl w 0) ha
    exact ⟨Upkeep.All.of_rest (others_hired hs ha hj.others) fun _ ↦ kept_hired hs ha hkept,
      trivial⟩
  · exact horder.both_of_ok ((Order.run_employ w script).trans (if_neg h)) fun _ hj _ _ ↦
      ⟨hj, trivial⟩

/-- The books of the root do not show workers of which the host has the handles. -/
theorem untouched_unregister (ha : w.Awake 0) (hid : id ∈ w.handles) :
    Untouched 0 w (w.unregister 0 [id]) := by
  refine untouched_setScope ha ?_ rfl rfl rfl
  rw [scripted, List.filter_filter]
  refine List.filter_congr fun c _ ↦ ?_
  by_cases hc : c = id
  · simp [hc, hid]
  · simp [hc]

theorem keepsAt_dismiss_handle (e : DeskEngine κ) (hid : id ∈ w.handles) :
    KeepsAt books.host (dismiss (stepFully e.engine) 0 id) w := by
  intro hi
  refine Upkeep.keepsAt_dismiss_handle (lawful e).brings_stepFully (hi.1.handles id hid)
    (fun hj ha ↦ ?_) (fun hj ↦ ?_) hi
  · exact (hj.2.2 hj.1.2).untouched (untouched_unregister hj.1.2 hid)
  · exact (untouched_unregister hj.1.2 hid).own

/-- What the host itself does to workers of its own keeps the books. -/
theorem keeps_direct (e : DeskEngine κ) {op : HostOp} {unlimited : Bool} {fuel : Nat}
    (hop : op.leavesBooks) (hd : op.direct = true) (hdrop : op ≠ .drop) :
    Keeps books.host (perform e.engine unlimited fuel op) := by
  intro w
  cases op with
  | spawn script =>
    exact Regime.Hosts.keepsAt_withRoot fun hw ↦ keepsAt_employ script hw
  | post id q =>
    refine Regime.Hosts.keepsAt_withHandle fun hid hi ↦ keepsAt_postAt q ?_ hi
    exact worker?_isSome_of_owner? (hi.1.handles id hid)
  | terminate id =>
    exact Regime.Hosts.keepsAt_withHandle fun hid ↦ (keepsAt_dismiss_handle e hid).bind
      fun _ w₁ _ _ _ ↦ keepsAt_pure _ _ w₁
  | linkPost id side q => exact Regime.Hosts.keepsAt_withWorker fun hid ↦ keepsAt_postAt q hid
  | listen | timerAdd | timerRemove | timerClear | kidTerminate | terminateAll => exact hop.elim
  | drop => exact absurd rfl hdrop
  | _ => cases hd

theorem all_created {loader : Loader} (h : create engine loader = .ok w) : books.All 0 w := by
  rw [create] at h
  cases hc : engine.create 0 with
  | error e =>
    rw [hc] at h
    cases h
  | ok c =>
    rw [hc] at h
    cases h
    refine ⟨⟨by simp, by simp⟩, fun x hx _ ↦ ?_⟩
    have hx0 : x = 0 := by
      rcases hx.eq_or_owner with hx | ⟨p, hp, -⟩
      · exact hx
      · obtain ⟨k, hk, -⟩ := owner?_eq_some_iff.1 hp
        cases x <;> cases hk
    subst hx0
    refine ⟨rfl, fun c hc _ _ ↦ ?_, rfl, rfl, fun _ ↦ ?_⟩
    · obtain ⟨k, hk, -⟩ := owner?_eq_some_iff.1 hc
      cases c <;> cases hk
    · exact ⟨.refl _, List.nodup_nil, by simp [scope, Desk.slots], List.nodup_nil,
        by simp [scope, Timers.pairs]⟩

end Books

end ScriptWorkers
