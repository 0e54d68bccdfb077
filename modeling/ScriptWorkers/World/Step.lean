import ScriptWorkers.World.Serve

/-!
# Steps of a worker

This part is the thread of a worker: how it starts, the loop that it runs, and how it ends.

The first step of a worker creates its context, loads its script and runs it.  Every later step is
one iteration of its loop: intervals that are due, then messages from its owner, then messages from
its own workers.  If its link is terminated by the end of a step, the worker terminates its own
workers, clears its intervals, gives up its context and exits.

A panic ends the thread at once: its workers are terminated, but its link stays as it is.

Terminating a worker is to flag its link and to step it, which brings it to its end because the flag
is never taken back.  That step may terminate other workers in turn.  The number of such steps
inside one another is bounded by a parameter; a step that would go deeper breaks off the whole run.

## What is here

* `enter`, `callee`, `noting` — a context as the core sees it, and with a journal.
* `drainBox`, `pump`, `tickTimers` — what an iteration consists of.
* `start`, `iterate`, `conclude`, `tearDown`, `crash` — the life of a thread.
* `step` — one step, with at most so many inside one another.
-/

namespace ScriptWorkers
namespace World

variable {κ : Type}

/-- Enters the context `me`. -/
def enter (finish : WorkerId → Run (World κ) Unit) (me : WorkerId)
    (f : κ → FreePlan (κ × Ending)) : Run (World κ) (Except ScriptError Unit) := do
  match ← (contextPlace me).read with
  | none => return .ok ()
  | some c =>
    let (c', ending) ← (f c).run (serve finish me)
    (contextPlace me).update fun _ ↦ some c'
    match ending with
    | .done => return .ok ()
    | .failed e => return .error e
    | .panicked => throw .panic
    | .endless => throw (.endless me)

/-- The context `me` as the core sees it. -/
def callee (engine : Engine κ) (finish : WorkerId → Run (World κ) Unit) (me : WorkerId) :
    Callee (World κ) where
  call slot args := enter finish me (engine.call · slot args)
  log line := note me (.log line)

/-- A context whose calls and log lines are put down in the journal. -/
def noting (c : Callee (World κ)) (me : WorkerId) (cause : Cause) : Callee (World κ) where
  call slot args := do
    record (.called me cause slot ((← (deskPlace me).read).function? slot) args)
    c.call slot args
  log line := do
    record (.logged me cause line)
    c.log line

/-- Drains a mailbox into the context `me`; counts the messages. -/
def drainBox (c : Callee (World κ)) (me id : WorkerId) (side : Side) : Run (World κ) Nat := do
  let box ← (boxPlace id side).read
  record (.began me id side)
  let n ← Mailbox.drain (boxPlace id side) (noting c me (.mail id side))
  record (.ended me id side (box.items.take n))
  return n

/-- Drains the messages of a worker, unless it is terminated. -/
def pumpOne (c : Callee (World κ)) (me id : WorkerId) : Run (World κ) Nat := do
  if (← (linkPlace id).read).terminated then return 0 else drainBox c me id .outbox

/-- Drains the messages of those workers of a list that are not terminated when their turn comes;
counts the messages. -/
def pumpAll (c : Callee (World κ)) (me : WorkerId) : List WorkerId → Run (World κ) Nat
  | [] => return 0
  | id :: rest => do
    let n ← pumpOne c me id
    return n + (← pumpAll c me rest)

/-- Drains the messages of the workers that are owned at the start. -/
def pump (c : Callee (World κ)) (me : WorkerId) : Run (World κ) Nat := do
  pumpAll c me (← (kidsPlace me).read)

/-- Fires the intervals that are due now. -/
def tickTimers (c : Callee (World κ)) (me : WorkerId) : Run (World κ) Nat := do
  Timers.tick (timersPlace me) (noting c me .timer) (← clockPlace.read).now

/-- Runs a script and reports the error it may end in. -/
def execute (engine : Engine κ) (finish : WorkerId → Run (World κ) Unit) (me : WorkerId)
    (script : String) : Run (World κ) Unit := do
  match (← loaderPlace.read).load script with
  | .ok code =>
    match ← enter finish me (engine.execute · code script) with
    | .ok () => return ()
    | .error e => note me (.log (.uncaught (.script script) e))
  | .error text => note me (.log (.uncaught (.script script) (.load script text)))

/-- What becomes of a worker whose context cannot be made: it is told to end. -/
def giveUp (me : WorkerId) (script : String) (e : ScriptError) : Run (World κ) Unit := do
  note me (.log (.uncaught (.script script) e))
  let _ ← flag me

/-- The first step, up to the loop. -/
def start (engine : Engine κ) (finish : WorkerId → Run (World κ) Unit) (me : WorkerId)
    (script : String) : Run (World κ) Unit := do
  match engine.create me with
  | .ok c =>
    (contextPlace me).update fun _ ↦ some c
    execute engine finish me script
    setPhase me .loop
  | .error e => giveUp me script e

/-- One iteration of the loop. -/
def iterate (engine : Engine κ) (finish : WorkerId → Run (World κ) Unit) (me : WorkerId) :
    Run (World κ) Unit := do
  let c := callee engine finish me
  let _ ← tickTimers c me
  let _ ← drainBox c me me .inbox
  let _ ← pump c me

/-- The end of a worker. -/
def tearDown (finish : WorkerId → Run (World κ) Unit) (me : WorkerId) : Run (World κ) Unit := do
  terminateKids finish me
  (timersPlace me).update (·.clear)
  (contextPlace me).update fun _ ↦ none
  setPhase me .exited

/-- The end of a worker whose thread has panicked. -/
def crash (finish : WorkerId → Run (World κ) Unit) (me : WorkerId) : Run (World κ) Unit := do
  tearDown finish me
  modify fun w ↦ w.updateWorker me fun x ↦ { x with crashed := true }

/-- Does something else when a computation panics; what was done until then stays done. -/
def onPanic {σ : Type} (x handler : Run σ Unit) : Run σ Unit := fun s ↦
  match x s with
  | .error .panic s' => handler s'
  | r => r

/-- What a worker does in a step, depending on where its thread stands. -/
def turn (engine : Engine κ) (finish : WorkerId → Run (World κ) Unit) (me : WorkerId)
    (x : Worker κ) : Run (World κ) Unit :=
  match x.phase with
  | .start => start engine finish me x.script
  | .loop => iterate engine finish me
  | .exited => return ()

/-- Brings a worker to its end if it has been told to end. -/
def conclude (finish : WorkerId → Run (World κ) Unit) (me : WorkerId) : Run (World κ) Unit := do
  let w ← get
  if w.isLive me && (w.link me).terminated then tearDown finish me

/-- One step of a worker, in which further steps may be needed. -/
def advanceWith (engine : Engine κ) (finish : WorkerId → Run (World κ) Unit) (me : WorkerId)
    (x : Worker κ) : Run (World κ) Unit :=
  onPanic
    (do
      turn engine finish me x
      conclude finish me)
    (crash finish me)

/-- One step of a worker, with at most `n` steps inside one another. -/
def step (engine : Engine κ) : Nat → WorkerId → Run (World κ) Unit
  | 0, _ => throw .exhausted
  | n + 1, me => do
    match (← get).worker? me with
    | none => return ()
    | some x => advanceWith engine (step engine n) me x

end World
end ScriptWorkers
