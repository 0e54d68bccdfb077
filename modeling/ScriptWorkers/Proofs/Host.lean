import ScriptWorkers.Proofs.Regime

/-!
# Guarantees of the host

What a host does is, for the most part, to let the root context and the workers have their turns.
If the guarantees of a regime give one for the host (`Regime.Hosts`), all these operations keep it.
The others, by which the host itself changes links, registers or intervals, are `HostOp.direct`.

`Reachable` are the worlds that a host can bring about from a new one, by any operations in any
order.  `Moment` are the worlds in the middle of an operation, while a script context has control:
they are what is left when a script goes on for ever at that point.

To show something of all runs is therefore to give a lawful regime, the guarantee of the host that
follows from it, and what the direct operations keep: `keeps_perform` is the step of the induction
over `Reachable`.
-/

namespace ScriptWorkers

open World

variable {κ : Type}

/-- By this operation the host itself changes links, registers or intervals. -/
def HostOp.direct : HostOp → Bool
  | .spawn _ | .post .. | .listen .. | .terminate _ | .linkPost .. | .kidTerminate _ | .terminateAll
  | .timerAdd .. | .timerRemove _ | .timerClear | .drop => true
  | _ => false

/-- How a guarantee of the host follows from those of a regime. -/
structure Regime.Hosts (r : Regime κ) (g : Guarantee (World κ)) : Prop where
  act_inv : ∀ {w}, g.inv w → w.root.isSome → (r.act 0).inv w
  act_rel : ∀ {w w'}, g.inv w → (r.act 0).inv w' → (r.act 0).rel w w' → g.inv w' ∧ g.rel w w'
  act_broken : ∀ {e w w'}, g.inv w → (r.act 0).broken e w w' → g.broken e w w'
  whole_inv : ∀ {id w}, g.inv w → (w.worker? id).isSome → (r.whole id).inv w
  whole_rel : ∀ {id w w'}, g.inv w → (w.worker? id).isSome → (r.whole id).inv w' →
    (r.whole id).rel w w' → g.inv w' ∧ g.rel w w'
  whole_broken : ∀ {id e w w'}, g.inv w → (w.worker? id).isSome → (r.whole id).broken e w w' →
    g.broken e w w'
  rooted : ∀ {w w'}, g.inv w → g.rel w w' → w.root.isSome → w'.root.isSome
  flag : ∀ {id w}, (w.worker? id).isSome → KeepsAt g (flag id) w
  clock : ∀ f, Keeps g (clockPlace.update f)
  loader : ∀ f, Keeps g (loaderPlace.update f)

namespace Regime.Hosts

variable {r : Regime κ} {g : Guarantee (World κ)} {engine : Engine κ} {allowed : Request → Prop}
  {w : World κ} {α : Type}

/-- What the core does for the root keeps the guarantee of the host. -/
theorem keepsAt_root (h : r.Hosts g) {x : Run (World κ) α} (hw : w.root.isSome)
    (hx : KeepsAt (r.act 0) x w) : KeepsAt g x w :=
  hx.mono (h.act_inv · hw) (fun _ hi hi' hr ↦ h.act_rel hi hi' hr) fun _ _ hi hb ↦
    h.act_broken hi hb

/-- So does a step of a worker. -/
theorem keepsAt_whole (h : r.Hosts g) {id : WorkerId} {x : Run (World κ) α}
    (hw : (w.worker? id).isSome) (hx : KeepsAt (r.whole id) x w) : KeepsAt g x w :=
  hx.mono (h.whole_inv · hw) (fun _ hi hi' hr ↦ h.whole_rel hi hw hi' hr) fun _ _ hi hb ↦
    h.whole_broken hi hw hb

section

variable (h : r.Hosts g) (hl : r.Lawful engine allowed)
include h hl

theorem keeps_await (id : WorkerId) : Keeps g (await (stepFully engine) id) := by
  intro w
  rw [await]
  refine keepsAt_get_bind (keepsAt_ite (fun hlive ↦ ?_) fun _ ↦ keepsAt_pure g _ w)
  obtain ⟨k, hk, -⟩ := isLive_iff.1 hlive
  exact h.keepsAt_whole (by rw [hk]; rfl) (hl.brings_stepFully.keeps id w)

theorem keeps_stepEach : ∀ ids, Keeps g (stepEach engine ids)
  | [] => keeps_pure g ()
  | id :: rest => (h.keeps_await hl id).bind fun _ ↦ keeps_stepEach rest

theorem keeps_stepTimes (id : WorkerId) : ∀ n, Keeps g (stepTimes engine id n)
  | 0 => keeps_pure g none
  | n + 1 => by
    intro w
    rw [stepTimes]
    refine keepsAt_get_bind ((h.keeps_await hl id w).bind fun _ w₁ _ _ _ ↦ ?_)
    refine keepsAt_ite (fun _ ↦ ?_) fun _ ↦ keeps_stepTimes id n w₁
    exact keepsAt_get_bind (keepsAt_pure g _ w₁)

/-- By induction on the rounds: all workers make a step, then the root has its turn. -/
theorem keepsAt_drive (dt : Float) (expired : Nat → Bool) : ∀ (fuel rounds : Nat) {w : World κ},
    w.root.isSome → KeepsAt g (drive engine dt expired rounds fuel) w
  | 0, _, w, _ => keepsAt_pure g _ w
  | fuel + 1, rounds, w, hw => by
    rw [drive]
    refine keepsAt_get_bind ((h.keeps_stepEach hl _ w).bind fun _ w₁ _ hi hr₁ ↦ ?_)
    have hw₁ := h.rooted hi hr₁ hw
    refine (h.clock _ w₁).bind fun _ w₂ _ hi₁ hr₂ ↦ ?_
    have hw₂ := h.rooted hi₁ hr₂ hw₁
    refine (h.keepsAt_root hw₂ (hl.keeps_tickRoot w₂)).bind fun _ w₃ _ hi₂ hr₃ ↦ ?_
    have hw₃ := h.rooted hi₂ hr₃ hw₂
    refine keepsAt_get_bind (keepsAt_ite (fun _ ↦ keepsAt_pure g _ w₃) fun _ ↦ ?_)
    refine keepsAt_ite (fun _ ↦ ?_) fun _ ↦ keepsAt_drive dt expired fuel (rounds + 1) hw₃
    exact (h.keepsAt_root hw₃ (hl.keeps_act (hl.note 0 _) w₃)).bind fun _ w₄ _ _ _ ↦
      keepsAt_pure g _ w₄

theorem keepsAt_eval (code : Code) (name : String) (hw : w.root.isSome) :
    KeepsAt g (eval engine code name) w :=
  h.keepsAt_root hw (hl.keeps_eval code name w)

/-- Running a script is to evaluate it and to drive the world until it is idle. -/
theorem keepsAt_runScript (id : String) (dt : Float) (expired : Nat → Bool) (fuel : Nat)
    (hw : w.root.isSome) : KeepsAt g (runScript engine id dt expired fuel) w := by
  rw [runScript]
  refine keepsAt_read_bind ?_
  split
  · exact keepsAt_pure g _ w
  · refine (h.keepsAt_eval hl _ id hw).bind fun a w₁ _ hi hr ↦ ?_
    cases a with
    | error e => exact keepsAt_pure g _ w₁
    | ok u =>
      exact (h.keepsAt_drive hl dt expired fuel 0 (h.rooted hi hr hw)).bind fun _ w₂ _ _ _ ↦
        keepsAt_pure g _ w₂

end

/-! ## Conditions of operations -/

theorem keepsAt_withRoot {x : Run (World κ) Answer} (hx : w.root.isSome → KeepsAt g x w) :
    KeepsAt g (withRoot x) w :=
  keepsAt_get_bind (keepsAt_ite hx fun _ ↦ keepsAt_pure g _ w)

/-- An operation on a worker does nothing unless the host has a handle of it. -/
theorem keepsAt_withHandle {id : WorkerId} {x : Run (World κ) Answer}
    (hx : id ∈ w.handles → KeepsAt g x w) : KeepsAt g (withHandle id x) w :=
  keepsAt_get_bind (keepsAt_ite (fun h ↦ hx (by simpa using h)) fun _ ↦ keepsAt_pure g _ w)

theorem keepsAt_withWorker {id : WorkerId} {x : Run (World κ) Answer}
    (hx : (w.worker? id).isSome → KeepsAt g x w) : KeepsAt g (withWorker id x) w :=
  keepsAt_get_bind (keepsAt_ite hx fun _ ↦ keepsAt_pure g _ w)

/-- Operations by which the host lets others act, or only looks, keep its guarantee. -/
theorem keeps_perform (h : r.Hosts g) (hl : r.Lawful engine allowed) (unlimited : Bool) (fuel : Nat)
    {op : HostOp} (hop : op.direct = false) : Keeps g (perform engine unlimited fuel op) := by
  intro w
  cases op with
  | eval code name =>
    exact keepsAt_withRoot fun hw ↦ (h.keepsAt_eval hl code name hw).bind fun _ w₁ _ _ _ ↦
      keepsAt_pure g _ w₁
  | tick =>
    exact keepsAt_withRoot fun hw ↦ (h.keepsAt_root hw (hl.keeps_tickRoot w)).bind
      fun _ w₁ _ _ _ ↦ keepsAt_pure g _ w₁
  | step id times =>
    exact (h.keeps_stepTimes hl id times w).bind fun _ w₁ _ _ _ ↦ keepsAt_pure g _ w₁
  | stepAll =>
    exact keepsAt_get_bind ((h.keeps_stepEach hl _ w).bind fun _ w₁ _ _ _ ↦ keepsAt_pure g _ w₁)
  | handler id => exact keepsAt_withHandle fun _ ↦ keepsAt_read_bind (keepsAt_pure g _ w)
  | isTerminated id => exact keepsAt_withHandle fun _ ↦ keepsAt_read_bind (keepsAt_pure g _ w)
  | number id => exact keepsAt_withHandle fun _ ↦ keepsAt_pure g _ w
  | linkTerminate id =>
    refine keepsAt_withWorker fun hid ↦ (h.flag hid).bind fun _ w₁ _ _ _ ↦ ?_
    exact (h.keeps_await hl id w₁).bind fun _ w₂ _ _ _ ↦ keepsAt_pure g _ w₂
  | linkCallbacks id => exact keepsAt_withWorker fun _ ↦ keepsAt_read_bind (keepsAt_pure g _ w)
  | kidContains id =>
    exact keepsAt_withRoot fun _ ↦ keepsAt_withWorker fun _ ↦ keepsAt_read_bind (keepsAt_pure g _ w)
  | kidNumber id =>
    exact keepsAt_withRoot fun _ ↦ keepsAt_withWorker fun _ ↦ keepsAt_read_bind (keepsAt_pure g _ w)
  | kidsText => exact keepsAt_withRoot fun _ ↦ keepsAt_read_bind (keepsAt_pure g _ w)
  | pumpRecord =>
    have hrecorder : (recorder : Callee (World κ)).KeepsAll (r.call 0) :=
      ⟨fun _ _ ↦ (hl.note 0 _).bind fun _ ↦ keeps_pure _ _, fun _ ↦ hl.note 0 _⟩
    exact keepsAt_withRoot fun hw ↦ (h.keepsAt_root hw (hl.pump hrecorder w)).bind
      fun _ w₁ _ _ _ ↦ keepsAt_pure g _ w₁
  | call cb args =>
    exact keepsAt_withRoot fun hw ↦ (h.keepsAt_root hw (hl.keeps_act
      (hl.rootCallee_keeps.call cb args) w)).bind fun _ w₁ _ _ _ ↦ keepsAt_pure g _ w₁
  | advance s => exact (h.clock _ w).bind fun _ w₁ _ _ _ ↦ keepsAt_pure g _ w₁
  | setClock s => exact (h.clock _ w).bind fun _ w₁ _ _ _ ↦ keepsAt_pure g _ w₁
  | now => exact keepsAt_read_bind (keepsAt_pure g _ w)
  | insert id code => exact (h.loader _ w).bind fun _ w₁ _ _ _ ↦ keepsAt_pure g _ w₁
  | unload id =>
    exact keepsAt_read_bind ((h.loader _ w).bind fun _ w₁ _ _ _ ↦ keepsAt_pure g _ w₁)
  | idle => exact keepsAt_withRoot fun _ ↦ keepsAt_get_bind (keepsAt_pure g _ w)
  | runLoop dt =>
    exact keepsAt_withRoot fun hw ↦ (h.keepsAt_drive hl dt _ fuel 0 hw).bind fun _ w₁ _ _ _ ↦
      keepsAt_pure g _ w₁
  | runScript id dt =>
    exact keepsAt_withRoot fun hw ↦ (h.keepsAt_runScript hl id dt _ fuel hw).bind fun _ w₁ _ _ _ ↦
      keepsAt_pure g _ w₁
  | _ => cases hop

end Regime.Hosts

/-! ## Runs of a host -/

/-- The worlds that a host can bring about, by any operations of some kind in any order.  An
operation may end in a panic of the root context. -/
inductive Reachable (engine : Engine κ) (loader : Loader) (allowed : HostOp → Prop) : World κ → Prop
  | created {w : World κ} : create engine loader = .ok w → Reachable engine loader allowed w
  | performed {w w' : World κ} {unlimited : Bool} {fuel : Nat} {op : HostOp} {a : Answer} :
    Reachable engine loader allowed w → allowed op →
    perform engine unlimited fuel op { w with events := #[] } = .ok a w' →
    Reachable engine loader allowed w'
  | panicked {w w' : World κ} {unlimited : Bool} {fuel : Nat} {op : HostOp} :
    Reachable engine loader allowed w → allowed op →
    perform engine unlimited fuel op { w with events := #[] } = .error .panic w' →
    Reachable engine loader allowed w'

/-- The world after a list of operations, if all of them can be carried out. -/
def World.performAll (engine : Engine κ) : List HostOp → World κ → Option (World κ)
  | [], w => some w
  | op :: rest, w =>
    match perform engine true 0 op { w with events := #[] } with
    | .ok _ w' => performAll engine rest w'
    | .error .. => none

/-- Operations that can be carried out lead from reachable worlds to reachable worlds. -/
theorem Reachable.performAll {engine : Engine κ} {loader : Loader} {allowed : HostOp → Prop}
    (d : World κ) : ∀ {ops : List HostOp} {w : World κ}, Reachable engine loader allowed w →
      (∀ op ∈ ops, allowed op) → (World.performAll engine ops w).isSome →
      Reachable engine loader allowed ((World.performAll engine ops w).getD d)
  | [], _, hw, _, _ => hw
  | op :: rest, w, hw, hops, h => by
    cases h₁ : perform engine true 0 op { w with events := #[] } with
    | error e w₁ =>
      simp only [World.performAll, h₁] at h
      cases h
    | ok a w₁ =>
      simp only [World.performAll, h₁] at h ⊢
      exact (Reachable.performed hw (hops op List.mem_cons_self) h₁).performAll d
        (fun o ho ↦ hops o (List.mem_cons_of_mem op ho)) h

/-- The worlds in the middle of an operation, while the context `me` has control. -/
def Moment (engine : Engine κ) (loader : Loader) (allowed : HostOp → Prop) (me : WorkerId)
    (w' : World κ) : Prop :=
  ∃ w unlimited fuel op, Reachable engine loader allowed w ∧ allowed op ∧
    perform engine unlimited fuel op { w with events := #[] } = .error (.endless me) w'

end ScriptWorkers
