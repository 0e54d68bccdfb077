import ScriptWorkers.World.Step

/-!
# The host

This part is the runtime as an application uses it.  The host owns the root context.  It runs
scripts in it, spawns workers, ticks, and drives the whole until nothing is left to wait for.

## What is here

* `HostOp` and `perform` — all that a host can do, with the answer it gets.
* `tickRoot` — one round of the root; it counts the callbacks.
* `drive` and `runScript` — the loop of the host by a clock of its own.
* `drop` — the end of the root, and with it of all workers.
* `create`, `performOn`, `trace` — a new world, and what becomes of it.
-/

namespace ScriptWorkers

/-- What a host can ask of the world. -/
inductive HostOp where
  /-- Runs a script in the root context. -/
  | eval (code : Code) (name : String)
  | tick
  /-- Steps a worker a number of times. -/
  | step (id : WorkerId) (times : Nat)
  | stepAll
  | spawn (script : String)
  -- By the handle of a worker that the host has spawned.
  | post (id : WorkerId) (p : Payload)
  | listen (id : WorkerId) (callback : Option Slot)
  | handler (id : WorkerId)
  | isTerminated (id : WorkerId)
  | number (id : WorkerId)
  | terminate (id : WorkerId)
  -- On the link of any worker.
  | linkPost (id : WorkerId) (side : Side) (p : Payload)
  | linkTerminate (id : WorkerId)
  | linkCallbacks (id : WorkerId)
  -- On the workers of the root.
  | kidTerminate (id : WorkerId)
  | kidContains (id : WorkerId)
  | kidNumber (id : WorkerId)
  | kidsText
  | terminateAll
  /-- Pumps the root's workers without any effect but for the record. -/
  | pumpRecord
  -- On the intervals of the root.
  | timerAdd (callback : Slot) (period : Option Float)
  | timerRemove (id : UInt32)
  | timerClear
  /-- Invokes a callback of the root. -/
  | call (callback : Slot) (args : List Json)
  | advance (seconds : Float)
  | setClock (seconds : Float)
  | now
  | insert (id : String) (code : Code)
  | unload (id : String)
  | idle
  /-- Drives the world until it is idle. -/
  | runLoop (dt : Float)
  | runScript (id : String) (dt : Float)
  /-- Gives up the root context and everything below it. -/
  | drop

namespace World

variable {κ : Type}

/-- A step of a worker, as deep as steps may go. -/
def stepFully (engine : Engine κ) (id : WorkerId) : Run (World κ) Unit :=
  step engine engine.depth id

/-- The root context as the core sees it. -/
def rootCallee (engine : Engine κ) : Callee (World κ) := callee engine (stepFully engine) 0

/-- A context that only takes down what it is called with. -/
def recorder : Callee (World κ) where
  call slot args := do
    note 0 (.recorded slot args)
    return .ok ()
  log line := note 0 (.log line)

/-- One round of the root: intervals that are due, then messages of its workers.  Returns the number
of callbacks. -/
def tickRoot (engine : Engine κ) : Run (World κ) Nat := do
  let c := rootCallee engine
  let fired ← tickTimers c 0
  return fired + (← pump c 0)

/-- Steps every worker of a list that has not exited when its turn comes. -/
def stepEach (engine : Engine κ) : List WorkerId → Run (World κ) Unit
  | [] => return ()
  | id :: rest => do
    await (stepFully engine) id
    stepEach engine rest

/-- Steps a worker a number of times.  Returns where it stands after the last step, nothing if there
was no step left to make. -/
def stepTimes (engine : Engine κ) (id : WorkerId) : Nat → Run (World κ) (Option Phase)
  | 0 => return none
  | n + 1 => do
    let moved := (← get).isLive id
    await (stepFully engine) id
    if n = 0 then
      let p := (← get).phase id
      return if moved then some p else none
    else stepTimes engine id n

/-- Runs a script in the root context. -/
def eval (engine : Engine κ) (code : Code) (name : String) :
    Run (World κ) (Except ScriptError Unit) :=
  enter (stepFully engine) 0 (engine.execute · code name)

/-- Drives the world until it is idle or its time is up.  In each round all workers make a step, the
clock moves on by `dt` and the root has its turn.  `expired` says after which rounds the time is up;
there are at most `fuel` rounds.  Returns their number. -/
def drive (engine : Engine κ) (dt : Float) (expired : Nat → Bool) (rounds : Nat) :
    Nat → Run (World κ) Nat
  | 0 => return rounds
  | fuel + 1 => do
    stepEach engine (← get).live
    clockPlace.update (·.advance dt)
    let _ ← tickRoot engine
    let w ← get
    if w.isIdle then return rounds + 1
    else if expired (rounds + 1) then
      note 0 (.log (.outOfTime (w.scope 0).kids.length (w.scope 0).timers.size))
      return rounds + 1
    else drive engine dt expired (rounds + 1) fuel

/-- Loads a script, runs it in the root context and drives the world. -/
def runScript (engine : Engine κ) (id : String) (dt : Float) (expired : Nat → Bool) (fuel : Nat) :
    Run (World κ) (Except ScriptError Unit × Nat) := do
  match (← loaderPlace.read).load id with
  | .error text => return (.error (.load id text), 0)
  | .ok code =>
    match ← eval engine code id with
    | .error e => return (.error e, 0)
    | .ok () => return (.ok (), ← drive engine dt expired 0 fuel)

/-- Gives up the root. -/
def drop (engine : Engine κ) : Run (World κ) Unit := do
  terminateKids (stepFully engine) 0
  modify fun w ↦ { w with root := none }

/-- A short description of the root's workers. -/
def describeKids (kids : List WorkerId) : String :=
  "WorkerRegistry \x7b workers: [" ++
    String.intercalate ", " (kids.map fun id ↦ "WorkerId(#" ++ toString id ++ ")") ++ "] \x7d"

/-- An operation of the root, which has to be there. -/
def withRoot (x : Run (World κ) Answer) : Run (World κ) Answer := do
  if (← get).root.isSome then x else return .dropped

/-- An operation on a worker by its handle. -/
def withHandle (id : WorkerId) (x : Run (World κ) Answer) : Run (World κ) Answer := do
  if (← get).handles.contains id then x else return .noHandle

/-- An operation on a worker that there is or has been. -/
def withWorker (id : WorkerId) (x : Run (World κ) Answer) : Run (World κ) Answer := do
  if ((← get).worker? id).isSome then x else return .nothing

/-- Posts a payload to a mailbox. -/
def postAt (id : WorkerId) (side : Side) (p : Payload) : Run (World κ) Answer := do
  match Message.encode p with
  | .ok m =>
    deposit id side m
    return .done
  | .error e => return .unserializable e

/-- Spawns a worker of which the host gets the handle. -/
def employ (script : String) : Run (World κ) Answer := do
  match ← spawn 0 script with
  | .ok id =>
    modify fun w ↦ { w with handles := w.handles ++ [id] }
    return .worker id
  | .error e => return .uncreatable e

/-- Performs an operation of the host; `unlimited` is false if the time of a loop is up at once. -/
def perform (engine : Engine κ) (unlimited : Bool) (fuel : Nat) :
    HostOp → Run (World κ) Answer
  | .eval code name => withRoot do return .ofScript (← eval engine code name)
  | .tick => withRoot do return .count (← tickRoot engine)
  | .step id times => do return .phase (← stepTimes engine id times)
  | .stepAll => do
    let ids := (← get).live
    stepEach engine ids
    return .workers ids
  | .spawn script => withRoot (employ script)
  | .post id p => withHandle id (postAt id .inbox p)
  | .listen id cb => withHandle id do return .slot (← exchange (boxPlace id .outbox) cb)
  | .handler id => withHandle id do return .slot (← (boxPlace id .outbox).read).callback
  | .isTerminated id => withHandle id do return .flag (← (linkPlace id).read).terminated
  | .number id => withHandle id do return .worker id
  | .terminate id => withHandle id do
    dismiss (stepFully engine) 0 id
    return .nothing
  | .linkPost id side p => withWorker id (postAt id side p)
  | .linkTerminate id => withWorker id do
    let first ← flag id
    await (stepFully engine) id
    return .flag first
  | .linkCallbacks id => withWorker id do
    let l ← (linkPlace id).read
    return .callbacks l.inbox.callback l.outbox.callback
  | .kidTerminate id => withRoot <| withWorker id do
    return .flag (← terminateKid (stepFully engine) 0 id)
  | .kidContains id => withRoot <| withWorker id do
    return .flag ((← (kidsPlace 0).read).contains id)
  | .kidNumber id => withRoot <| withWorker id do
    return .worker (if (← (kidsPlace 0).read).contains id then some id else none)
  | .kidsText => withRoot do return .text (describeKids (← (kidsPlace 0).read))
  | .terminateAll => withRoot do
    terminateKids (stepFully engine) 0
    return .nothing
  | .pumpRecord => withRoot do return .count (← pump recorder 0)
  | .timerAdd cb period => withRoot do return .timer (← addTimer 0 cb period)
  | .timerRemove id => withRoot do return .slot (← removeTimer 0 id)
  | .timerClear => withRoot do
    let old ← (timersPlace 0).read
    (timersPlace 0).update (·.clear)
    return .slots old.callbacks
  | .call cb args => withRoot do return .ofScript (← (rootCallee engine).call cb args)
  | .advance s => do
    clockPlace.update (·.advance s)
    return .nothing
  | .setClock s => do
    clockPlace.update (·.set s)
    return .nothing
  | .now => do return .time (← clockPlace.read).now
  | .insert id code => do
    loaderPlace.update (·.insert id code)
    return .nothing
  | .unload id => do
    let old ← loaderPlace.read
    loaderPlace.update (·.erase id)
    return .flag (old.contains id)
  | .idle => withRoot do return .flag (← get).isIdle
  | .runLoop dt => withRoot do
    return .loops .done (← drive engine dt (fun _ ↦ !unlimited) 0 fuel)
  | .runScript id dt => withRoot do
    let (r, n) ← runScript engine id dt (fun _ ↦ !unlimited) fuel
    return .loops (.ofScript r) n
  | .drop => do
    drop engine
    return .nothing

/-- Performs an operation on a world and keeps what becomes of it, whatever happens. -/
def performOn (engine : Engine κ) (unlimited : Bool) (fuel : Nat) (op : HostOp) (w : World κ) :
    Answer × World κ :=
  match (perform engine unlimited fuel op).run { w with events := #[] } with
  | .ok a w' => (a, w')
  | .error _ w' => (.panicked, w')

/-- The world after each of a list of operations, with the answer. -/
def trace (engine : Engine κ) (unlimited : Bool) (fuel : Nat) :
    List HostOp → World κ → List (Answer × World κ)
  | [], _ => []
  | op :: rest, w =>
    let (a, w') := performOn engine unlimited fuel op w
    (a, w') :: trace engine unlimited fuel rest w'

/-- A new world with a root context. -/
def create (engine : Engine κ) (loader : Loader) : Except ScriptError (World κ) :=
  (engine.create 0).map fun c ↦ { root := some { context := some c }, loader }

/-- The events by ascending number of the thread, those of one thread in the order they happened. -/
def groupedEvents (w : World κ) : List (WorkerId × Event) :=
  (List.range (w.workers.length + 1)).flatMap fun id ↦ w.events.toList.filter (·.1 == id)

end World

end ScriptWorkers
