import ScriptWorkers.Proofs.Guarantee
import ScriptWorkers.Proofs.Views
import ScriptWorkers.World.Crew

/-!
# Threads run the program of the steps

The threads of a crew make moves where the workers of a world make steps.  They run
the same program:

* `Duty.run` makes all moves of a duty at once; whoever is to be waited for is brought to its end
  meanwhile.  `advanceWith_eq_run`: what a worker's thread does when nobody comes between is the
  step of the worker.
* `iterate_of_not_stirs`: an iteration that finds nothing to do changes nothing but the journal, so
  a thread may as well wait until there is something.

In between stands one lemma for each part of a duty, named for the part: run at once, it is the part
of the step of the same name.  The drain needs an argument (`run_drainBox`), since a thread takes
the lock of the mailbox and gives it back.
-/

namespace ScriptWorkers

variable {κ α β : Type} {finish : WorkerId → Run (World κ) Unit}

namespace Duty

/-- Brings about what a move waits for. -/
def bringAbout (finish : WorkerId → Run (World κ) Unit) : Wait → Run (World κ) Unit
  | .exit id => World.await finish id
  | _ => return ()

/-- Makes all moves at once. -/
def run (finish : WorkerId → Run (World κ) Unit) : Duty κ α → Run (World κ) α
  | done a => return a
  | move wait x next => do
    bringAbout finish wait
    let b ← x
    (next b).run finish
  | lock _ _ next => next.run finish
  | unlock _ _ next => next.run finish

@[simp] theorem run_pure (a : α) : (pure a : Duty κ α).run finish = pure a := rfl

/-- Parts of a duty are run one after the other. -/
@[simp] theorem run_bind (d : Duty κ α) (f : α → Duty κ β) :
    (d >>= f).run finish = d.run finish >>= fun a ↦ (f a).run finish := by
  change (d.bind f).run finish = _
  induction d with
  | done a => simp [bind, run]
  | move wait x next ih => simp [bind, run, ih]
  | lock id side next ih => exact ih
  | unlock id side next ih => exact ih

/-- What takes no time is done at once. -/
@[simp] theorem run_now (x : Run (World κ) α) : (now x).run finish = x := by
  simp [now, once, run, bringAbout]

@[simp] theorem run_ite {p : Prop} [Decidable p] (d e : Duty κ α) :
    (if p then d else e).run finish = if p then d.run finish else e.run finish := by
  split <;> rfl

@[simp] theorem run_deposit (id : WorkerId) (side : Side) (m : Message) :
    (deposit id side m : Duty κ Unit).run finish = World.deposit id side m := by
  simp [deposit, once, run, bringAbout]

/-! ## Terminating workers -/

/-- Waiting for a thread is to let it make its last step. -/
@[simp] theorem run_join (me id : WorkerId) :
    (join me id : Duty κ Unit).run finish = World.join finish me id := by
  simp [join, once, run, bringAbout, World.join]

@[simp] theorem run_terminateKid (me id : WorkerId) :
    (terminateKid me id : Duty κ Bool).run finish = World.terminateKid finish me id := by
  simp [terminateKid, World.terminateKid]

/-- By induction on the list. -/
@[simp] theorem run_joinAll (me : WorkerId) (ids : List WorkerId) :
    (joinAll me ids : Duty κ Unit).run finish = World.joinAll finish me ids := by
  induction ids with
  | nil => rfl
  | cons id rest ih => simp [joinAll, World.joinAll, ih]

@[simp] theorem run_terminateKids (me : WorkerId) :
    (terminateKids me : Duty κ Unit).run finish = World.terminateKids finish me := by
  simp [terminateKids, World.terminateKids]

@[simp] theorem run_dismiss (me id : WorkerId) :
    (dismiss me id : Duty κ Unit).run finish = World.dismiss finish me id := by
  simp [dismiss, World.dismiss]

@[simp] theorem run_layOff (me id : WorkerId) :
    (layOff me id : Duty κ Unit).run finish = World.layOff finish me id := by
  simp [layOff, World.layOff]

/-! ## Requests -/

@[simp] theorem run_serveDesk (me : WorkerId) (q : DeskRequest) :
    (serveDesk me q).run finish = World.serveDesk finish me q := by
  cases q <;> simp [serveDesk, World.serveDesk]

/-- Served alone, a request is served as ever. -/
@[simp] theorem run_serve (me : WorkerId) (q : Request) :
    (serve me q).run finish = World.serve finish me q := by
  cases q <;> simp [serve, World.serve]

/-- By induction on the plan. -/
@[simp] theorem run_carry (me : WorkerId) (p : FreePlan α) :
    (carry me p).run finish = p.run (World.serve finish me) := by
  induction p with
  | done a => rfl
  | ask q next ih =>
    change (serve me q >>= fun r ↦ carry me (next r)).run finish = _
    simp [Plan.run, ih]

@[simp] theorem run_enter (me : WorkerId) (f : κ → FreePlan (κ × Ending)) :
    (enter me f).run finish = World.enter finish me f := by
  simp only [enter, World.enter, run_bind, run_now]
  refine bind_congr fun c ↦ ?_
  cases c with
  | none => rfl
  | some c =>
    simp only [run_bind, run_carry, run_now]
    refine bind_congr fun r ↦ bind_congr fun _ ↦ ?_
    cases r.2 <;> simp

/-! ## The loop of a worker -/

variable (engine : Engine κ)

/-- A callback is written down and entered. -/
@[simp] theorem run_call (me : WorkerId) (cause : Cause) (slot : Slot) (args : List Json) :
    (call engine me cause slot args).run finish =
      (World.noting (World.callee engine finish me) me cause).call slot args := by
  simp [call, World.noting, World.callee]

@[simp] theorem run_log (me : WorkerId) (cause : Cause) (line : LogLine) :
    (log me cause line).run finish =
      (World.noting (World.callee engine finish me) me cause).log line := by
  simp [log, World.noting, World.callee]

@[simp] theorem run_invoke (me : WorkerId) (cause : Cause) (origin : Origin) (slot : Slot)
    (args : List Json) :
    (invoke engine me cause origin slot args).run finish =
      (World.noting (World.callee engine finish me) me cause).invoke origin slot args := by
  simp only [invoke, Callee.invoke, run_bind, run_call]
  refine bind_congr fun r ↦ ?_
  cases r with
  | ok _ => rfl
  | error e => exact run_log engine me cause _

@[simp] theorem run_deliver (me : WorkerId) (cause : Cause) (slot : Slot) (m : Message) :
    (deliver engine me cause slot m).run finish =
      (World.noting (World.callee engine finish me) me cause).deliver slot m := by
  rw [deliver, Callee.deliver]
  cases m.decode with
  | ok v => exact run_invoke engine me cause _ slot _
  | error e => exact run_log engine me cause _

/-- By induction on the messages. -/
@[simp] theorem run_walk (me id : WorkerId) (side : Side) (ms : List Message) :
    (walk engine me id side ms).run finish =
      Mailbox.walk (World.boxPlace id side)
        (World.noting (World.callee engine finish me) me (.mail id side)) ms := by
  induction ms with
  | nil => rfl
  | cons m rest ih =>
    simp only [walk, Mailbox.walk, run_bind, run_now]
    refine bind_congr fun box ↦ ?_
    cases box.callback with
    | none => rfl
    | some slot => simp [ih]

/-- Alone, a drain that keeps its mailbox locked is a drain. -/
@[simp] theorem run_drainBox (me id : WorkerId) (side : Side) :
    (drainBox engine me id side).run finish =
      World.drainBox (World.callee engine finish me) me id side := by
  simp [drainBox, batch, World.drainBox, drain, Mailbox.drain, run]

@[simp] theorem run_pumpOne (me id : WorkerId) :
    (pumpOne engine me id).run finish =
      World.pumpOne (World.callee engine finish me) me id := by
  simp [pumpOne, World.pumpOne]

/-- Workers are pumped one after the other. -/
@[simp] theorem run_pumpAll (me : WorkerId) (ids : List WorkerId) :
    (pumpAll engine me ids).run finish =
      World.pumpAll (World.callee engine finish me) me ids := by
  induction ids with
  | nil => rfl
  | cons id rest ih => simp [pumpAll, World.pumpAll, ih]

@[simp] theorem run_pump (me : WorkerId) :
    (pump engine me).run finish = World.pump (World.callee engine finish me) me := by
  simp [pump, World.pump]

/-- By induction on the intervals that are due. -/
@[simp] theorem run_fire (me : WorkerId) (ts : List Timer) :
    (fire engine me ts).run finish =
      Timers.fire (World.timersPlace me)
        (World.noting (World.callee engine finish me) me .timer) ts := by
  induction ts with
  | nil => rfl
  | cons t rest ih => simp [fire, Timers.fire, ih]

@[simp] theorem run_tickTimers (me : WorkerId) :
    (tickTimers engine me).run finish =
      World.tickTimers (World.callee engine finish me) me := by
  simp [tickTimers, World.tickTimers, Timers.tick]

@[simp] theorem run_execute (me : WorkerId) (script : String) :
    (execute engine me script).run finish = World.execute engine finish me script := by
  simp only [execute, World.execute, run_bind, run_now]
  refine bind_congr fun loader ↦ ?_
  cases loader.load script with
  | error text => exact run_now _
  | ok code =>
    simp only [run_bind, run_enter]
    refine bind_congr fun r ↦ ?_
    cases r with
    | ok _ => rfl
    | error e => exact run_now _

@[simp] theorem run_start (me : WorkerId) (script : String) :
    (start engine me script).run finish = World.start engine finish me script := by
  rw [start, World.start]
  cases engine.create me with
  | ok c => simp
  | error e => exact run_now _

@[simp] theorem run_iterate (me : WorkerId) :
    (iterate engine me).run finish = World.iterate engine finish me := by
  simp [iterate, World.iterate]

@[simp] theorem run_tearDown (me : WorkerId) :
    (tearDown me : Duty κ Unit).run finish = World.tearDown finish me := by
  simp [tearDown, World.tearDown]

@[simp] theorem run_crash (me : WorkerId) :
    (crash me : Duty κ Unit).run finish = World.crash finish me := by
  simp [crash, World.crash]

/-- What a worker does in its phase. -/
@[simp] theorem run_turn (me : WorkerId) (x : Worker κ) :
    (turn engine me x).run finish = World.turn engine finish me x := by
  rw [turn, World.turn]
  cases x.phase with
  | start => exact run_start engine me _
  | loop => exact run_iterate engine me
  | exited => rfl

@[simp] theorem run_conclude (me : WorkerId) :
    (conclude me : Duty κ Unit).run finish = World.conclude finish me := by
  simp [conclude, World.conclude]

/-- **What a worker's thread does when nobody comes between is the step of the worker.** -/
theorem advanceWith_eq_run (me : WorkerId) (x : Worker κ) :
    World.advanceWith engine finish me x =
      World.onPanic ((turn engine me x >>= fun _ ↦ conclude me).run finish)
        ((crash me).run finish) := by
  simp [World.advanceWith]

end Duty

/-! ## Rounds in vain -/

namespace World

variable {w : World κ} {c : Callee (World κ)} {me id : WorkerId} {side : Side}

/-- A tick at which nothing is due changes nothing. -/
theorem run_tickTimers_of_not_due (h : (w.scope me).timers.dueAt w.clock.now = []) :
    tickTimers c me w = .ok 0 w := by
  have hsame : (timersPlace me).modify (·.reschedule w.clock.now) w = w := by
    have hentries : (w.scope me).timers.reschedule w.clock.now = (w.scope me).timers := by
      have hdue := List.filter_eq_nil_iff.1 h
      rw [Timers.reschedule, List.map_congr_left fun t ht ↦ if_neg (hdue t ht), List.map_id']
    rw [timersPlace_modify, hentries]
    exact setScope_scope w me
  show Timers.fire (timersPlace me) (noting c me .timer)
    (((timersPlace me).get w).dueAt w.clock.now)
    ((timersPlace me).modify (·.reschedule w.clock.now) w) = _
  rw [show ((timersPlace me).get w).dueAt w.clock.now = [] from h, hsame]
  rfl

/-- A drain that finds no message for anybody changes nothing. -/
theorem run_drain_of_no_mail (h : ((w.link id).box side).hasMail = false)
    (hw : ((w.link id).box side).waiting = []) :
    Mailbox.drain (boxPlace id side) c w = .ok 0 w := by
  cases hcb : ((w.link id).box side).callback with
  | none => exact run_drain_none hcb
  | some slot =>
    have hitems : ((w.link id).box side).items = [] := by simpa [Mailbox.hasMail, hcb] using h
    have hsettle : ((w.link id).box side).settle 0 = (w.link id).box side := by
      rw [Mailbox.settle, hitems, hw]
      cases hbox : (w.link id).box side with
      | mk items waiting closed callback =>
        rw [hbox] at hitems hw
        subst hitems hw
        rfl
    have hsame : (boxPlace id side).modify (·.settle 0) w = w := by
      rw [boxPlace_modify, hsettle,
        show (w.link id).setBox side _ = w.link id by cases side <;> rfl]
      exact setLink_link w id
    rw [run_drain_some hcb, show ((boxPlace id side).get w).items = [] from hitems]
    show EStateM.Result.ok 0 ((boxPlace id side).modify (·.settle 0) w) = _
    rw [hsame]

/-- Without mail a drain does nothing but write down that it was there. -/
theorem run_drainBox_of_no_mail (h : ((w.link id).box side).hasMail = false)
    (hw : ((w.link id).box side).waiting = []) :
    ∃ j, drainBox c me id side w = .ok 0 { w with journal := j } := by
  refine ⟨(w.journal.push (.began me id side)).push (.ended me id side []), ?_⟩
  have hdrain : Mailbox.drain (boxPlace id side) (noting c me (.mail id side))
      { w with journal := w.journal.push (.began me id side) } =
      .ok 0 { w with journal := w.journal.push (.began me id side) } := run_drain_of_no_mail h hw
  show (Mailbox.drain (boxPlace id side) (noting c me (.mail id side)) >>= fun n ↦ do
    record (.ended me id side (((w.link id).box side).items.take n))
    return n) { w with journal := w.journal.push (.began me id side) } = _
  rw [run_bind_ok hdrain]
  rfl

/-- Rounds over workers that have posted nothing change nothing but the journal. -/
theorem run_pumpAll_of_no_mail : ∀ {ids : List WorkerId} {w : World κ},
    (∀ id ∈ ids, (w.link id).terminated = true ∨ (w.link id).outbox.hasMail = false) →
    (∀ id, (w.link id).outbox.waiting = []) →
    ∃ j, pumpAll c me ids w = .ok 0 { w with journal := j }
  | [], w, _, _ => ⟨w.journal, rfl⟩
  | id :: rest, w, h, hw => by
    obtain ⟨j, hone⟩ : ∃ j, pumpOne c me id w = .ok 0 { w with journal := j } := by
      rw [pumpOne, run_read_bind]
      split
      · exact ⟨w.journal, rfl⟩
      · rename_i hterm
        have hmail : ((w.link id).box .outbox).hasMail = false :=
          (h id List.mem_cons_self).resolve_left hterm
        exact run_drainBox_of_no_mail hmail (hw id)
    obtain ⟨j', hrest⟩ := run_pumpAll_of_no_mail (w := { w with journal := j })
      (fun x hx ↦ h x (List.mem_cons_of_mem id hx)) hw
    refine ⟨j', ?_⟩
    rw [pumpAll, run_bind_ok hone, run_bind_ok hrest]
    rfl

/-- **An iteration that finds nothing to do changes nothing but the journal.** -/
theorem iterate_of_not_stirs (engine : Engine κ) (finish : WorkerId → Run (World κ) Unit)
    (h : w.stirs me = false) (hw : ∀ id side, ((w.link id).box side).waiting = []) :
    ∃ j, iterate engine finish me w = .ok () { w with journal := j } := by
  simp only [stirs, Bool.or_eq_false_iff, Bool.not_eq_false', List.isEmpty_iff] at h
  obtain ⟨⟨⟨-, hdue⟩, hinbox⟩, hkids⟩ := h
  obtain ⟨j, hdrain⟩ : ∃ j, drainBox (callee engine finish me) me me .inbox w =
      .ok 0 { w with journal := j } := run_drainBox_of_no_mail hinbox (hw me .inbox)
  have hquiet (id : WorkerId) (hid : id ∈ (w.scope me).kids) :
      (w.link id).terminated = true ∨ (w.link id).outbox.hasMail = false := by
    have hid' := List.any_eq_false.1 hkids id hid
    cases ht : (w.link id).terminated <;> simp_all
  obtain ⟨j', hpump⟩ : ∃ j', pumpAll (callee engine finish me) me (w.scope me).kids
      { w with journal := j } = .ok 0 { w with journal := j' } :=
    run_pumpAll_of_no_mail (w := { w with journal := j }) hquiet fun id ↦ hw id .outbox
  refine ⟨j', ?_⟩
  rw [iterate, run_bind_ok (run_tickTimers_of_not_due hdue), run_bind_ok hdrain]
  show (pumpAll _ me (w.scope me).kids >>= fun _ ↦ pure ()) _ = _
  rw [run_bind_ok hpump]
  rfl

end World

end ScriptWorkers
