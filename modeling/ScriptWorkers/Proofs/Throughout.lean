import ScriptWorkers.Proofs.Order.Termination

/-!
# One guarantee for all levels

Some things hold in the middle of everything: whoever acts, at whatever level, and whichever way it
ends, they are kept.  For these a single guarantee does.  `Guarantee.Throughout` lists what has to
be shown of it: the small changes that a step makes by itself, every single request, and how ticks,
drains and pumps keep it if callbacks do.  Then it is kept by all steps of all workers
(`Throughout.keeps_step`).  The host lets the root context tick and pump, so no step does.

What a request keeps comes down to a few small changes as well, for any guarantee:
`Guarantee.Errands` lists those of most requests, and `Guarantee.Staffing` adds those of the
requests that spawn or terminate workers.  The latter hand control to the last steps of workers, and
the lemmas about these come first.  Ticks, drains and pumps are taken apart in the same way.
-/

namespace ScriptWorkers

open World

variable {κ : Type} {g : Guarantee (World κ)} {id me : WorkerId}
  {finish : WorkerId → Run (World κ) Unit}

/-! ## Terminating workers -/

section Terminating

theorem keeps_logCrash_of_note (hnote : ∀ e, Keeps g (note me e)) : Keeps g (logCrash me id) := by
  intro w
  rw [logCrash]
  refine keepsAt_get_bind ?_
  split
  · exact keepsAt_ite (fun _ ↦ hnote _ w) fun _ ↦ keepsAt_pure _ _ w
  · exact keepsAt_pure _ _ w

/-- Waiting is nothing but the last step. -/
theorem keeps_await_of_finish (hfin : Keeps g (finish id)) : Keeps g (await finish id) :=
  fun w ↦ keepsAt_get_bind (keepsAt_ite (fun _ ↦ hfin w) fun _ ↦ keepsAt_pure _ _ w)

variable (hnote : ∀ e, Keeps g (note me e)) (hkids : ∀ f, Keeps g ((kidsPlace me).update f))
  (hflag : ∀ id, Keeps g (flag id)) (hfin : ∀ id, Keeps g (finish id))
include hnote hkids hflag hfin

theorem keeps_terminateKid_of_parts : Keeps g (terminateKid finish me id) := by
  refine fun w ↦ keepsAt_read_bind (keepsAt_ite (fun _ ↦ ?_) fun _ ↦ keepsAt_pure _ _ w)
  have hjoin : Keeps g (join finish me id) :=
    (keeps_await_of_finish (hfin id)).bind fun _ ↦ keeps_logCrash_of_note hnote
  exact ((hkids _).bind fun _ ↦ (hflag id).bind fun _ ↦ hjoin.bind fun _ ↦ keeps_pure _ _) w

/-- Workers are flagged and struck off, waited for, and reported if they crash. -/
theorem keeps_terminateKids_of_parts : Keeps g (terminateKids finish me) := by
  refine fun w ↦ keepsAt_read_bind (Keeps.bind (hkids _) (fun _ ↦ ?_) w)
  exact Order.keeps_bring (fun id _ ↦ hflag id) (fun id _ ↦ keeps_await_of_finish (hfin id))
    fun _ _ ↦ keeps_logCrash_of_note hnote

theorem keeps_dismiss_of_parts : Keeps g (dismiss finish me id) := by
  refine (keeps_terminateKid_of_parts hnote hkids hflag hfin).bind fun b w ↦ ?_
  exact keepsAt_ite (fun _ ↦ keepsAt_pure _ _ w) fun _ ↦
    ((hflag id).bind fun _ ↦ keeps_pure _ _) w

end Terminating

/-! ## Ticks, drains and pumps -/

section Occasions

variable {c : Callee (World κ)} {cause : Cause} {side : Side}

/-- Calls are written down before they are made. -/
theorem noting_keeps_of_parts (hc : c.KeepsAll g)
    (hcalled : ∀ slot f args, Keeps g (record (.called me cause slot f args)))
    (hlogged : ∀ line, Keeps g (record (.logged me cause line))) :
    (noting c me cause).KeepsAll g where
  call slot args w := keepsAt_read_bind (((hcalled slot _ args).bind fun _ ↦ hc.call slot args) w)
  log line := (hlogged line).bind fun _ ↦ hc.log line

theorem keeps_tickTimers_of_noting (hn : (noting c me .timer).KeepsAll g)
    (htimers : ∀ f, Keeps g ((timersPlace me).update f)) : Keeps g (tickTimers c me) :=
  fun w ↦ keepsAt_read_bind (keepsAt_read_bind (((htimers _).bind fun _ ↦
    keeps_fire hn.log fun t _ w _ ↦ hn.call t.callback [] w) w))

/-- A drain is written down when it begins and when it ends. -/
theorem keeps_drainBox_of_drain (hbegan : Keeps g (record (.began me id side)))
    (hdrain : Keeps g (Mailbox.drain (boxPlace id side) (noting c me (.mail id side))))
    (hended : ∀ ms, Keeps g (record (.ended me id side ms))) : Keeps g (drainBox c me id side) :=
  fun w ↦ keepsAt_read_bind ((hbegan.bind fun _ ↦ hdrain.bind fun _ ↦
    (hended _).bind fun _ ↦ keeps_pure _ _) w)

theorem keeps_pumpOne_of_drainBox (hbox : Keeps g (drainBox c me id .outbox)) :
    Keeps g (pumpOne c me id) :=
  fun w ↦ keepsAt_read_bind (keepsAt_ite (fun _ ↦ keepsAt_pure _ _ w) fun _ ↦ hbox w)

/-- Workers are pumped one after the other. -/
theorem keeps_pumpAll_of_pumpOne (hone : ∀ id, Keeps g (pumpOne c me id)) :
    ∀ ids, Keeps g (pumpAll c me ids)
  | [] => keeps_pure _ _
  | id :: rest => (hone id).bind fun _ ↦ (keeps_pumpAll_of_pumpOne hone rest).bind
    fun _ ↦ keeps_pure _ _

theorem keeps_pump_of_pumpOne (hone : ∀ id, Keeps g (pumpOne c me id)) : Keeps g (pump c me) :=
  fun w ↦ keepsAt_read_bind (keeps_pumpAll_of_pumpOne hone _ w)

end Occasions

/-! ## Requests -/

/-- The request is for workers to be spawned or terminated. -/
def Request.staffs : Request → Bool
  | .spawn _ | .terminate _ | .terminateAll | .desk (.create _) | .desk (.retire _) => true
  | .desk _ | .advance _ | .unload _ | .listen _ | .addTimer .. | .removeTimer _ | .postTo ..
  | .listenTo .. | .resign => false

/-- What has to be shown of a context for a guarantee to be kept by its requests, unless they are
for workers to be spawned or terminated. -/
structure Guarantee.Errands (g : Guarantee (World κ)) (me : WorkerId) : Prop where
  note : ∀ e, Keeps g (note me e)
  retained : ∀ slot, Keeps g (record (.retained me slot))
  timed : ∀ n, Keeps g (record (.timed me n))
  clock : ∀ f, Keeps g (clockPlace.update f)
  loader : ∀ f, Keeps g (loaderPlace.update f)
  desk : ∀ f, Keeps g ((deskPlace me).update f)
  timers : ∀ f, Keeps g ((timersPlace me).update f)
  exchange : ∀ id side callback, Keeps g (exchange (boxPlace id side) callback)
  post : ∀ m, Keeps g (deposit me .outbox m)
  send : ∀ id m, Keeps g (deposit id .inbox m)
  resign : Keeps g (flag me)

namespace Guarantee.Errands

variable (h : g.Errands me)
include h

theorem keeps_retain (f : FunctionRef) : Keeps g (retain me f) :=
  fun w ↦ keepsAt_read_bind
    (((h.retained _).bind fun _ ↦ (h.desk _).bind fun _ ↦ keeps_pure _ _) w)

theorem keeps_addTimer (cb : Slot) (period : Option Float) : Keeps g (addTimer me cb period) :=
  fun w ↦ keepsAt_read_bind (keepsAt_read_bind
    (((h.timed _).bind fun _ ↦ (h.timers _).bind fun _ ↦ keeps_pure _ _) w))

theorem keeps_removeTimer (n : UInt32) : Keeps g (removeTimer me n) :=
  fun w ↦ keepsAt_read_bind (((h.timers _).bind fun _ ↦ keeps_pure _ _) w)

theorem keeps_handler (s : Source) (cb : Option Slot) :
    Keeps g (World.exchange (handlerPlace me s) cb) := by
  cases s with
  | owner => exact h.exchange me .inbox cb
  | worker id => exact h.exchange id .outbox cb

/-- A handler is kept, and the one before it is forgotten. -/
theorem keeps_register (s : Source) (f : Handler) : Keeps g (register me s f) := by
  cases f with
  | invalid => exact h.note _
  | clear => exact (h.keeps_handler s none).bind fun _ ↦ h.desk _
  | function f =>
    exact (h.keeps_retain f).bind fun _ ↦ (h.keeps_handler s _).bind fun _ ↦ h.desk _

/-- All but a few requests are errands. -/
theorem keeps_serve {q : Request} (hq : q.staffs = false) : Keeps g (serve finish me q) := by
  intro w
  cases q with
  | desk q =>
    cases q with
    | note e => exact h.note e w
    | post m => exact h.post m w
    | holds id => exact keepsAt_read_bind (keepsAt_pure _ _ w)
    | function slot => exact keepsAt_read_bind (keepsAt_pure _ _ w)
    | handle s f =>
      exact keepsAt_read_bind
        (keepsAt_ite (fun _ ↦ h.keeps_register s f w) fun _ ↦ keepsAt_pure _ _ w)
    | handler s =>
      refine keepsAt_read_bind (keepsAt_ite (fun _ ↦ ?_) fun _ ↦ keepsAt_pure _ _ w)
      exact keepsAt_read_bind (keepsAt_pure _ _ w)
    | startInterval f period =>
      exact ((h.keeps_retain f).bind fun slot ↦ h.keeps_addTimer slot period) w
    | stopInterval n => exact ((h.keeps_removeTimer n).bind fun _ ↦ h.desk _) w
    | create | retire => cases hq
    | send id m =>
      exact keepsAt_read_bind (keepsAt_ite (fun _ ↦ h.send id m w) fun _ ↦ keepsAt_pure _ _ w)
  | advance s => exact h.clock _ w
  | unload id => exact keepsAt_read_bind (((h.loader _).bind fun _ ↦ keeps_pure _ _) w)
  | listen cb => exact h.exchange me .inbox cb w
  | addTimer cb period => exact h.keeps_addTimer cb period w
  | removeTimer n => exact h.keeps_removeTimer n w
  | postTo id m =>
    exact keepsAt_get_bind (keepsAt_ite (fun _ ↦ h.send id m w) fun _ ↦ keepsAt_pure _ _ w)
  | listenTo id cb =>
    exact keepsAt_get_bind (keepsAt_ite (fun _ ↦ h.exchange id .outbox cb w) fun _ ↦
      keepsAt_pure _ _ w)
  | resign => exact h.resign w
  | spawn | terminate | terminateAll => cases hq

end Guarantee.Errands

/-- What has to be shown of a context for a guarantee to be kept by all its requests, if the last
steps of workers keep it. -/
structure Guarantee.Staffing (g : Guarantee (World κ)) (me : WorkerId) :
    Prop extends g.Errands me where
  kids : ∀ f, Keeps g ((kidsPlace me).update f)
  flag : ∀ id, Keeps g (flag id)
  spawn : ∀ script, Keeps g (spawn me script)
  retired : ∀ id, Keeps g (record (.retired me id))

namespace Guarantee.Staffing

variable (h : g.Staffing me)
include h

/-- A worker that has been created is put on the desk. -/
theorem keeps_create (finish : WorkerId → Run (World κ) Unit) (script : String) :
    Keeps g (serveDesk finish me (.create script)) := by
  refine (h.spawn script).bind fun r ↦ ?_
  cases r with
  | ok id => exact (h.desk _).bind fun _ ↦ keeps_pure _ _
  | error e => exact keeps_pure _ _

variable (hfin : ∀ id, Keeps g (finish id))
include hfin

theorem keeps_dismiss : Keeps g (dismiss finish me id) :=
  keeps_dismiss_of_parts h.note h.kids h.flag hfin

/-- A worker is dismissed, and its handler is forgotten. -/
theorem keeps_layOff : Keeps g (layOff finish me id) :=
  (h.desk _).bind fun _ ↦ (h.keeps_dismiss hfin).bind fun _ ↦
    (h.exchange id .outbox none).bind fun _ ↦ h.desk _

theorem keeps_serve (q : Request) : Keeps g (serve finish me q) := by
  cases hq : q.staffs with
  | false => exact h.toErrands.keeps_serve hq
  | true =>
    intro w
    cases q with
    | desk q =>
      cases q with
      | create script => exact h.keeps_create finish script w
      | retire id =>
        refine keepsAt_read_bind (keepsAt_ite (fun _ ↦ ?_) fun _ ↦ keepsAt_pure _ _ w)
        exact ((h.keeps_layOff hfin).bind fun _ ↦ h.retired id) w
      | _ => cases hq
    | spawn script => exact h.spawn script w
    | terminate id =>
      exact keepsAt_get_bind
        (keepsAt_ite (fun _ ↦ h.keeps_dismiss hfin w) fun _ ↦ keepsAt_pure _ _ w)
    | terminateAll => exact keeps_terminateKids_of_parts h.note h.kids h.flag hfin w
    | _ => cases hq

end Guarantee.Staffing

/-! ## Steps -/

/-- What has to be shown for a guarantee to be kept throughout, whichever way computations end. -/
structure Guarantee.Throughout (g : Guarantee (World κ)) (engine : Engine κ)
    (allowed : Request → Prop) : Prop where
  asks : engine.Asks allowed
  broken : ∀ {e w w'}, g.broken e w w' ↔ g.inv w' ∧ g.rel w w'
  -- What the core changes by itself.
  note : ∀ me e, Keeps g (note me e)
  context : ∀ me f, Keeps g ((contextPlace me).update f)
  timers : ∀ me f, Keeps g ((timersPlace me).update f)
  kids : ∀ me f, Keeps g ((kidsPlace me).update f)
  flag : ∀ id, Keeps g (flag id)
  phase : ∀ me p, Keeps g (setPhase me p)
  crashed : ∀ me, Keeps g (modify fun w ↦ w.updateWorker me fun x ↦ { x with crashed := true })
  -- What contexts may do, and what the core does for them.
  serve : ∀ {finish}, (∀ id, Keeps g (finish id)) → ∀ me q, allowed q → Keeps g (serve finish me q)
  tick : ∀ {c me}, me ≠ 0 → c.KeepsAll g → Keeps g (tickTimers c me)
  inbox : ∀ {c me}, me ≠ 0 → c.KeepsAll g → Keeps g (drainBox c me me .inbox)
  pump : ∀ {c me}, me ≠ 0 → c.KeepsAll g → Keeps g (pump c me)

namespace Guarantee.Throughout

variable {engine : Engine κ} {allowed : Request → Prop} (h : g.Throughout engine allowed)
include h

/-- Breaking off does no harm. -/
theorem stopped {e : Abort} {w : World κ} (hi : g.inv w) : g.broken e w w :=
  h.broken.2 ⟨hi, g.refl w⟩

/-- Even a panic leaves what is kept throughout. -/
theorem keeps_onPanic {x handler : Run (World κ) Unit} (hx : Keeps g x) (hh : Keeps g handler) :
    Keeps g (onPanic x handler) := by
  intro w hi
  rw [onPanic]
  split
  · rename_i w₁ h₁
    obtain ⟨hi₁, hr₁⟩ := h.broken.1 ((hx w).error hi h₁)
    exact (hh w₁ hi₁).after hi hi₁ hr₁
  · exact hx w hi

section Finish

variable (hfin : ∀ id, Keeps g (finish id))
include hfin

/-- A context is entered by the same rule as in `Regime`, with one guarantee for all ends. -/
theorem keeps_enter {f : κ → FreePlan (κ × Ending)} (hf : ∀ c, (f c).Asks allowed) :
    Keeps g (enter finish me f) :=
  ScriptWorkers.keeps_enter (h.serve hfin me) (fun _ ↦ h.context me _) hf
    (fun _ ↦ Plan.ends_of_forall (fun _ _ _ hi ↦ h.stopped hi) _) fun _ hi ↦ h.stopped hi

theorem callee_keeps : (callee engine finish me).KeepsAll g where
  call slot args := h.keeps_enter hfin fun c ↦ h.asks.call c slot args
  log _ := h.note me _

theorem keeps_execute (script : String) : Keeps g (execute engine finish me script) := by
  intro w
  rw [execute]
  refine keepsAt_read_bind ?_
  split
  · refine (h.keeps_enter hfin (fun c ↦ h.asks.execute c _ script) w).bind fun a w₁ _ _ _ ↦ ?_
    cases a with
    | ok u => exact keepsAt_pure _ _ w₁
    | error e => exact h.note me _ w₁
  · exact h.note me _ w

theorem keeps_start (script : String) : Keeps g (start engine finish me script) := by
  rw [start]
  split
  · exact (h.context me _).bind fun _ ↦ (h.keeps_execute hfin script).bind fun _ ↦ h.phase me _
  · exact (h.note me _).bind fun _ ↦ (h.flag me).bind fun _ ↦ keeps_pure _ _

theorem keeps_iterate (hme : me ≠ 0) : Keeps g (iterate engine finish me) := by
  have hc : (callee engine finish me).KeepsAll g := h.callee_keeps hfin
  exact (h.tick hme hc).bind fun _ ↦ (h.inbox hme hc).bind fun _ ↦ (h.pump hme hc).bind fun _ ↦
    keeps_pure _ _

/-- The end of a worker. -/
theorem keeps_tearDown : Keeps g (tearDown finish me) :=
  (keeps_terminateKids_of_parts (h.note me) (h.kids me) h.flag hfin).bind fun _ ↦
    (h.timers me _).bind fun _ ↦ (h.context me _).bind fun _ ↦ h.phase me _

theorem keeps_conclude : Keeps g (conclude finish me) := fun w ↦
  keepsAt_get_bind (keepsAt_ite (fun _ ↦ h.keeps_tearDown hfin w) fun _ ↦ keepsAt_pure _ _ w)

/-- A step by phases. -/
theorem keeps_advanceWith (hme : me ≠ 0) (k : Worker κ) :
    Keeps g (advanceWith engine finish me k) := by
  have hturn : Keeps g (turn engine finish me k) := by
    rw [turn]
    split
    · exact h.keeps_start hfin _
    · exact h.keeps_iterate hfin hme
    · exact keeps_pure _ _
  exact h.keeps_onPanic (hturn.bind fun _ ↦ h.keeps_conclude hfin)
    ((h.keeps_tearDown hfin).bind fun _ ↦ h.crashed me)

end Finish

/-- **Steps keep the guarantee**, of whichever worker and however deep they go. -/
theorem keeps_step (n : Nat) : ∀ id, Keeps g (step engine n id) := by
  induction n with
  | zero => exact fun id w ↦ keepsAt_throw h.stopped
  | succ n ih =>
    intro id w
    rw [step]
    refine keepsAt_get_bind ?_
    split
    · exact keepsAt_pure _ _ w
    · rename_i x hx
      have hid : id ≠ 0 := by
        rintro rfl
        cases hx
      exact h.keeps_advanceWith ih hid x w

end Guarantee.Throughout

end ScriptWorkers
