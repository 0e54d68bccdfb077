import ScriptWorkers.Proofs.Guarantee
import ScriptWorkers.Proofs.Tree
import ScriptWorkers.World.Host

/-!
# Guarantees of whole runs

What a step of a worker does is up to its script, to the callbacks that are invoked, to the workers
that are terminated on the way, and to what these do in their last steps.  This file takes that
recursion apart once and for all.

A `Regime` has a guarantee for each of the three levels: `call` for a script context while it has
control, `act` for the core while it works for a context (delivers messages, fires intervals), and
`whole` for a step of a worker from beginning to end.  `Regime.Lawful` lists what has to be shown:
what every single request keeps, how a drain and a tick keep `act` if callbacks keep `call`, how a
step is closed.  From that `Lawful.brings_step` follows for steps of any worker at any depth,
whatever the scripts do.
-/

namespace ScriptWorkers

/-! ## Plans -/

namespace Plan

variable {Q : Type} {R : Q → Type} {α σ : Type}

/-- The plan makes allowed requests only, whatever the replies are. -/
def Asks (allowed : Q → Prop) : Plan R α → Prop
  | done _ => True
  | ask q next => allowed q ∧ ∀ r, (next r).Asks allowed

/-- The plan can only end with values of this kind. -/
def Ends (P : α → Prop) : Plan R α → Prop
  | done a => P a
  | ask _ next => ∀ r, (next r).Ends P

/-- A plan that ends with values of one kind ends with values of a wider one. -/
theorem Ends.mono {P P' : α → Prop} (hP : ∀ a, P a → P' a) :
    ∀ {p : Plan R α}, p.Ends P → p.Ends P'
  | done a, h => hP a h
  | ask _ _, h => fun r ↦ (h r).mono hP

theorem ends_of_forall {P : α → Prop} (hP : ∀ a, P a) : (p : Plan R α) → p.Ends P
  | done a => hP a
  | ask _ next => fun r ↦ ends_of_forall hP (next r)

theorem asks_of_forall {allowed : Q → Prop} (h : ∀ q, allowed q) : (p : Plan R α) → p.Asks allowed
  | done _ => trivial
  | ask q next => ⟨h q, fun r ↦ asks_of_forall h (next r)⟩

/-- By induction on the plan: what every allowed request keeps, the run of it keeps. -/
theorem Asks.keeps_run {g : Guarantee σ} {allowed : Q → Prop} {serve : (q : Q) → Run σ (R q)}
    (hserve : ∀ q, allowed q → Keeps g (serve q)) :
    ∀ {p : Plan R α}, p.Asks allowed → Keeps g (p.run serve)
  | done a, _ => keeps_pure g a
  | ask q _, h => (hserve q h.1).bind fun r ↦ (h.2 r).keeps_run hserve

/-- What a run returns is what its plan can end with. -/
theorem Ends.of_run {P : α → Prop} {serve : (q : Q) → Run σ (R q)} {a : α} {s' : σ} :
    ∀ {p : Plan R α} {s : σ}, p.Ends P → p.run serve s = .ok a s' → P a
  | done b, s, h, hr => by
    cases hr
    exact h
  | ask q next, s, h, hr => by
    rw [Plan.run] at hr
    cases hq : serve q s with
    | error e t =>
      rw [run_bind_error hq] at hr
      cases hr
    | ok r t =>
      rw [run_bind_ok hq] at hr
      exact (h r).of_run hr

end Plan

open World

variable {κ : Type}

/-- All that the contexts of an engine ask for is allowed. -/
structure Engine.Asks (engine : Engine κ) (allowed : Request → Prop) : Prop where
  execute : ∀ c code name, (engine.execute c code name).Asks allowed
  call : ∀ c slot args, (engine.call c slot args).Asks allowed

/-- The request goes over the desk of the context. -/
def Request.OverDesk (q : Request) : Prop := ∃ q', q = .desk q'

theorem Plan.asks_free {α : Type} : ∀ p : DeskPlan α, (Plan.free p).Asks Request.OverDesk
  | .done _ => trivial
  | .ask q next => ⟨⟨q, rfl⟩, fun r ↦ asks_free (next r)⟩

/-- Contexts that are given a desk have no other way to ask for anything. -/
theorem DeskEngine.asks (e : DeskEngine κ) : e.engine.Asks Request.OverDesk :=
  ⟨fun _ _ _ ↦ Plan.asks_free _, fun _ _ _ ↦ Plan.asks_free _⟩

/-! ## Entering a context -/

section Enter

variable {g : Guarantee (World κ)} {allowed : Request → Prop} {me : WorkerId}
  {finish : WorkerId → Run (World κ) Unit} {f : κ → FreePlan (κ × Ending)}

/-- Entering a context: it makes requests and changes itself, and it may panic or go on for ever. -/
theorem keeps_enter (hserve : ∀ q, allowed q → Keeps g (serve finish me q))
    (hcontext : ∀ c, Keeps g ((contextPlace me).update fun _ ↦ some c))
    (hasks : ∀ c, (f c).Asks allowed)
    (hpanic : ∀ c, (f c).Ends fun r ↦ r.2 = .panicked → ∀ w, g.inv w → g.broken .panic w w)
    (hendless : ∀ w, g.inv w → g.broken (.endless me) w w) : Keeps g (enter finish me f) := by
  intro w
  rw [enter]
  refine keepsAt_read_bind ?_
  split
  · exact keepsAt_pure g _ w
  · rename_i c _
    refine ((hasks c).keeps_run hserve w).bind fun r w₁ hr _ _ ↦ ?_
    have hend := (hpanic c).of_run hr
    refine (hcontext r.1 w₁).bind fun _ w₂ _ _ _ ↦ ?_
    obtain ⟨c', ending⟩ := r
    cases ending with
    | done => exact keepsAt_pure g _ w₂
    | failed e => exact keepsAt_pure g _ w₂
    | panicked => exact keepsAt_throw (hend rfl w₂)
    | endless => exact keepsAt_throw (hendless w₂)

end Enter

/-! ## How a step ends -/

section Ends

variable {engine : Engine κ} {finish : WorkerId → Run (World κ) Unit} {me : WorkerId}
  {w w' : World κ}

theorem not_isLive_of_setPhase {u : Unit} (h : setPhase me .exited w = .ok u w') :
    w'.isLive me = false := by
  cases h
  rw [Bool.eq_false_iff, ne_eq, isLive_iff]
  rintro ⟨k, hk, hne⟩
  rw [worker?_updateWorker, if_pos rfl, Option.map_eq_some_iff] at hk
  obtain ⟨k₀, -, rfl⟩ := hk
  exact hne rfl

theorem not_isLive_of_tearDown {u : Unit} (h : tearDown finish me w = .ok u w') :
    w'.isLive me = false := by
  rw [tearDown] at h
  obtain ⟨_, w₁, -, h⟩ := of_run_bind_ok h
  obtain ⟨_, w₂, -, h⟩ := of_run_bind_ok h
  obtain ⟨_, w₃, -, h⟩ := of_run_bind_ok h
  exact not_isLive_of_setPhase h

theorem not_isLive_of_crash {u : Unit} (h : crash finish me w = .ok u w') :
    w'.isLive me = false := by
  rw [crash] at h
  obtain ⟨_, w₁, h₁, h⟩ := of_run_bind_ok h
  have hl := not_isLive_of_tearDown h₁
  cases h
  rw [Bool.eq_false_iff, ne_eq, isLive_iff] at hl ⊢
  rintro ⟨k, hk, hne⟩
  rw [worker?_updateWorker, if_pos rfl, Option.map_eq_some_iff] at hk
  obtain ⟨k₀, hk₀, rfl⟩ := hk
  exact hl ⟨k₀, hk₀, hne⟩

/-- Who has been told to end is not live when its step is concluded. -/
theorem not_isLive_of_conclude {u : Unit} (h : conclude finish me w = .ok u w')
    (hf : w'.Flagged me) : w'.isLive me = false := by
  change (if w.isLive me && (w.link me).terminated then tearDown finish me else pure ()) w = _ at h
  split at h
  · exact not_isLive_of_tearDown h
  · rename_i hc
    cases h
    obtain ⟨k, hk, ht⟩ := hf
    rw [link_of_worker? hk, ht, Bool.and_true] at hc
    exact Bool.eq_false_iff.2 hc

/-- A worker that has been told to end does not survive its step. -/
theorem dead_of_step {n : Nat} {u : Unit} (h : step engine n me w = .ok u w') (hf : w'.Flagged me) :
    w'.Dead me := by
  obtain ⟨k, hk, ht⟩ := hf
  suffices hl : w'.isLive me = false by
    rw [Bool.eq_false_iff, ne_eq, isLive_iff] at hl
    exact ⟨k, hk, Classical.not_not.1 fun hne ↦ hl ⟨k, hk, hne⟩, ht⟩
  cases n with
  | zero => cases h
  | succ n =>
    rw [step] at h
    obtain ⟨w₁, _, h₁, h⟩ := of_run_bind_ok h
    cases h₁
    cases hx : w.worker? me with
    | none =>
      simp only [hx] at h
      cases h
      rw [hx] at hk
      cases hk
    | some x =>
      simp only [hx, advanceWith, onPanic] at h
      split at h
      · exact not_isLive_of_crash h
      · obtain ⟨_, w₂, -, h⟩ := of_run_bind_ok h
        exact not_isLive_of_conclude h ⟨k, hk, ht⟩

end Ends

/-! ## The rules -/

/-- Guarantees for the three levels of a run. -/
structure Regime (κ : Type) where
  /-- The context `me` has control. -/
  call : WorkerId → Guarantee (World κ)
  /-- The core works for the context `me`. -/
  act : WorkerId → Guarantee (World κ)
  /-- The worker `me` makes a step. -/
  whole : WorkerId → Guarantee (World κ)

/-- A way to bring threads to their end: it keeps the guarantee, and a worker that has been told to
end is dead afterwards. -/
structure Regime.Brings (r : Regime κ) (finish : WorkerId → Run (World κ) Unit) : Prop where
  keeps : ∀ id, Keeps (r.whole id) (finish id)
  ends : ∀ {id w w'}, (r.whole id).inv w → w.Flagged id → finish id w = .ok () w' → w'.Dead id

/-- What has to be shown of the parts for the guarantees to hold of whole runs. -/
structure Regime.Lawful (r : Regime κ) (engine : Engine κ) (allowed : Request → Prop) : Prop where
  asks : engine.Asks allowed
  -- What contexts may do.
  serve : ∀ {n me q}, allowed q → r.Brings (step engine n) →
    Keeps (r.call me) (serve (step engine n) me q)
  context : ∀ me c, Keeps (r.call me) ((contextPlace me).update fun _ ↦ some c)
  note : ∀ me e, Keeps (r.call me) (note me e)
  panicked : ∀ c slot args, (engine.call c slot args).Ends fun x ↦ x.2 = .panicked →
    ∀ me w, (r.call me).inv w → (r.call me).broken .panic w w
  endless : ∀ {me w}, (r.call me).inv w → (r.call me).broken (.endless me) w w
  -- What the core does.
  act_call : ∀ {me w}, (r.act me).inv w → (r.call me).inv w
  call_act : ∀ {me w w'}, (r.act me).inv w → (r.call me).inv w' → (r.call me).rel w w' →
    (r.act me).inv w' ∧ (r.act me).rel w w'
  call_act_broken : ∀ {me e w w'}, (r.act me).inv w → (r.call me).broken e w w' →
    (r.act me).broken e w w'
  act_panicked : ∀ {me w}, (r.act me).inv w → (r.act me).broken .panic w w
  tick : ∀ {c me}, c.KeepsAll (r.call me) → Keeps (r.act me) (tickTimers c me)
  inbox : ∀ {c me}, c.KeepsAll (r.call me) → Keeps (r.act me) (drainBox c me me .inbox)
  pump : ∀ {c me}, c.KeepsAll (r.call me) → Keeps (r.act me) (pump c me)
  resign : ∀ me, Keeps (r.act me) (flag me)
  looping : ∀ me, me ≠ 0 → Keeps (r.act me) (setPhase me .loop)
  -- How steps begin and end.
  entered : ∀ {me w}, (r.whole me).inv w → w.Awake me → me ≠ 0 → (r.act me).inv w
  left : ∀ {me w w'}, (r.whole me).inv w → (r.act me).inv w' → (r.act me).rel w w' →
    (r.whole me).inv w' ∧ (r.whole me).rel w w'
  unwound : ∀ {me w w'}, (r.whole me).inv w → (r.act me).broken .panic w w' →
    ((r.whole me).inv w' ∧ (r.whole me).rel w w') ∧ w'.Awake me
  flagged : ∀ {me w w'}, (r.whole me).inv w → (r.whole me).rel w w' → w.Flagged me → w'.Flagged me
  left_broken : ∀ {me e w w'}, e ≠ .panic → (r.whole me).inv w → (r.act me).broken e w w' →
    (r.whole me).broken e w w'
  calm : ∀ {me w w'}, ¬ (r.whole me).broken .panic w w'
  exhausted : ∀ {me w}, (r.whole me).inv w → (r.whole me).broken .exhausted w w
  tearDown : ∀ {n me w}, r.Brings (step engine n) → w.Awake me → me ≠ 0 →
    KeepsAt (r.whole me) (tearDown (step engine n) me) w
  crashed : ∀ me, Keeps (r.whole me)
    (modify fun w ↦ w.updateWorker me fun x ↦ { x with crashed := true })

namespace Regime.Lawful

variable {r : Regime κ} {engine : Engine κ} {allowed : Request → Prop} {α : Type} {n : Nat}
  {me : WorkerId} {w : World κ}

/-! ## What the core does for a context -/

theorem keepsAt_act (h : r.Lawful engine allowed) {x : Run (World κ) α}
    (hx : KeepsAt (r.call me) x w) : KeepsAt (r.act me) x w :=
  hx.mono h.act_call (fun _ hi hi' hr ↦ h.call_act hi hi' hr) fun _ _ hi hb ↦
    h.call_act_broken hi hb

theorem keeps_act (h : r.Lawful engine allowed) {x : Run (World κ) α} (hx : Keeps (r.call me) x) :
    Keeps (r.act me) x := fun w ↦ h.keepsAt_act (hx w)

section Core

variable (h : r.Lawful engine allowed) (hfin : r.Brings (step engine n))
include h hfin

/-- Callbacks make requests like anything else. -/
theorem callee_keeps (me : WorkerId) : (callee engine (step engine n) me).KeepsAll (r.call me) where
  call slot args := keeps_enter (fun _ hq ↦ h.serve hq hfin) (h.context me)
    (fun c ↦ h.asks.call c slot args)
    (fun c ↦ (h.panicked c slot args).mono fun _ ha hp ↦ ha hp me) fun _ ↦ h.endless
  log line := h.note me (.log line)

theorem keeps_enter_execute (me : WorkerId) (code : Code) (name : String) :
    Keeps (r.act me) (enter (step engine n) me (engine.execute · code name)) :=
  keeps_enter (fun _ hq ↦ h.keeps_act (h.serve hq hfin)) (fun c ↦ h.keeps_act (h.context me c))
    (fun c ↦ h.asks.execute c code name)
    (fun _ ↦ Plan.ends_of_forall (fun _ _ _ ↦ h.act_panicked) _)
    fun _ hi ↦ h.call_act_broken hi (h.endless (h.act_call hi))

/-- Running a script is to load it and to enter the context. -/
theorem keeps_execute (me : WorkerId) (script : String) :
    Keeps (r.act me) (execute engine (step engine n) me script) := by
  intro w
  rw [execute]
  refine keepsAt_read_bind ?_
  split
  · refine (h.keeps_enter_execute hfin me _ _ w).bind fun a w' _ _ _ ↦ ?_
    cases a with
    | ok u => exact keepsAt_pure _ _ w'
    | error e => exact h.keeps_act (h.note me _) w'
  · exact h.keeps_act (h.note me _) w

/-- An iteration fires the intervals, drains the inbox and pumps the workers. -/
theorem keeps_iterate (me : WorkerId) : Keeps (r.act me) (iterate engine (step engine n) me) := by
  have hc := h.callee_keeps hfin me
  refine (h.tick hc).bind fun _ ↦ (h.inbox hc).bind fun _ ↦ (h.pump hc).bind fun _ ↦ ?_
  exact keeps_pure _ _

/-! ## What a worker does in a step -/

theorem keepsAt_conclude (hme : me ≠ 0) : KeepsAt (r.whole me) (conclude (step engine n) me) w := by
  rw [conclude]
  refine keepsAt_get_bind (keepsAt_ite (fun hc ↦ ?_) fun _ ↦ keepsAt_pure _ _ w)
  rw [Bool.and_eq_true] at hc
  exact h.tearDown hfin (awake_of_isLive hc.1) hme

theorem keepsAt_crash (ha : w.Awake me) (hme : me ≠ 0) :
    KeepsAt (r.whole me) (crash (step engine n) me) w :=
  (h.tearDown hfin ha hme).bind fun _ w' _ _ _ ↦ h.crashed me w'

omit hfin in
/-- A step of which the guarantee excludes panics needs no handler. -/
theorem onPanic_eq (handler : Run (World κ) Unit) {x : Run (World κ) Unit}
    (hx : KeepsAt (r.whole me) x w) (hi : (r.whole me).inv w) : onPanic x handler w = x w := by
  rw [onPanic]
  split
  · rename_i w' hw
    exact absurd (hx.error hi hw) h.calm
  · rfl

/-- What the core does for a worker, then its end if it has been told to end: a whole step. -/
theorem keepsAt_onPanic {x : Run (World κ) Unit} (hx : KeepsAt (r.act me) x w) (ha : w.Awake me)
    (hme : me ≠ 0) :
    KeepsAt (r.whole me)
      (onPanic (x >>= fun _ ↦ conclude (step engine n) me) (crash (step engine n) me)) w := by
  intro hi
  have hact := h.entered hi ha hme
  cases hw : x w with
  | ok a w₁ =>
    obtain ⟨hi₁, hr₁⟩ := hx.ok hact hw
    obtain ⟨hj₁, hq₁⟩ := h.left hi hi₁ hr₁
    have hc := h.keepsAt_conclude (w := w₁) hfin hme
    have hrun : onPanic (x >>= fun _ ↦ conclude (step engine n) me) (crash (step engine n) me) w =
        conclude (step engine n) me w₁ := by
      rw [← h.onPanic_eq (crash (step engine n) me) hc hj₁, onPanic, onPanic, run_bind_ok hw]
    rw [hrun]
    exact (hc hj₁).after hi hj₁ hq₁
  | error e w₁ =>
    have hb := hx.error hact hw
    by_cases he : e = .panic
    · subst he
      obtain ⟨⟨hj₁, hq₁⟩, ha₁⟩ := h.unwound hi hb
      have hrun : onPanic (x >>= fun _ ↦ conclude (step engine n) me) (crash (step engine n) me) w =
          crash (step engine n) me w₁ := by
        rw [onPanic, run_bind_error hw]
      rw [hrun]
      exact (h.keepsAt_crash hfin ha₁ hme hj₁).after hi hj₁ hq₁
    · have hrun : onPanic (x >>= fun _ ↦ conclude (step engine n) me) (crash (step engine n) me) w =
          .error e w₁ := by
        rw [onPanic, run_bind_error hw]
        split
        · rename_i heq
          cases heq
          exact absurd rfl he
        · rfl
      rw [hrun]
      exact h.left_broken he hi hb

theorem keeps_start (script : String) (hme : me ≠ 0) :
    Keeps (r.act me) (start engine (step engine n) me script) := by
  rw [start]
  split
  · exact (h.keeps_act (h.context me _)).bind fun _ ↦
      (h.keeps_execute hfin me script).bind fun _ ↦ h.looping me hme
  · exact (h.keeps_act (h.note me _)).bind fun _ ↦ (h.resign me).bind fun _ ↦ keeps_pure _ _

/-- A step by phases: start, go on, or nothing more. -/
theorem keepsAt_advanceWith {x : Worker κ} (hx : w.worker? me = some x) :
    KeepsAt (r.whole me) (advanceWith engine (step engine n) me x) w := by
  have hme : me ≠ 0 := by
    rintro rfl
    simp at hx
  have hawake (hp : x.phase ≠ .exited) : w.Awake me := by
    rw [Awake, if_neg hme]
    exact ⟨x, hx, hp⟩
  rw [advanceWith]
  cases hp : x.phase with
  | start =>
    simp only [turn, hp]
    exact h.keepsAt_onPanic hfin (h.keeps_start hfin x.script hme w) (hawake (by simp [hp])) hme
  | loop =>
    simp only [turn, hp]
    exact h.keepsAt_onPanic hfin (h.keeps_iterate hfin me w) (hawake (by simp [hp])) hme
  | exited =>
    intro hi
    have hc : KeepsAt (r.whole me)
        (turn engine (step engine n) me x >>= fun _ ↦ conclude (step engine n) me) w := by
      simp only [turn, hp]
      exact (keepsAt_pure _ _ w).bind fun _ _ _ _ _ ↦ h.keepsAt_conclude hfin hme
    rw [h.onPanic_eq _ hc hi]
    exact hc hi

end Core

/-- **Steps keep the guarantee**, of whichever worker and however deep they go. -/
theorem brings_step (h : r.Lawful engine allowed) (n : Nat) : r.Brings (step engine n) := by
  induction n with
  | zero => exact ⟨fun me w ↦ keepsAt_throw h.exhausted, fun _ _ hx ↦ by cases hx⟩
  | succ n ih =>
    have hkeeps (me : WorkerId) : Keeps (r.whole me) (step engine (n + 1) me) := by
      intro w
      rw [step]
      refine keepsAt_get_bind ?_
      split
      · exact keepsAt_pure _ _ w
      · exact h.keepsAt_advanceWith ih (by assumption)
    refine ⟨hkeeps, fun {id w w'} hi hf hx ↦ ?_⟩
    exact dead_of_step hx (h.flagged hi ((hkeeps id w).ok hi hx).2 hf)

theorem brings_stepFully (h : r.Lawful engine allowed) : r.Brings (stepFully engine) :=
  h.brings_step engine.depth

/-! ## What the core does for the root -/

theorem rootCallee_keeps (h : r.Lawful engine allowed) :
    (rootCallee engine).KeepsAll (r.call 0) :=
  h.callee_keeps h.brings_stepFully 0

/-- The root is ticked and pumped like a worker, by the host. -/
theorem keeps_tickRoot (h : r.Lawful engine allowed) : Keeps (r.act 0) (tickRoot engine) :=
  (h.tick h.rootCallee_keeps).bind fun _ ↦ (h.pump h.rootCallee_keeps).bind fun _ ↦ keeps_pure _ _

theorem keeps_eval (h : r.Lawful engine allowed) (code : Code) (name : String) :
    Keeps (r.act 0) (eval engine code name) :=
  h.keeps_enter_execute h.brings_stepFully 0 code name

end Regime.Lawful

end ScriptWorkers
