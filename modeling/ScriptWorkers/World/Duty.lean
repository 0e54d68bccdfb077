import ScriptWorkers.World.Step

/-!
# What a thread has to do, move by move

`ScriptWorkers.World.Step` lets a worker make a whole step before anybody else has a turn.  Threads
that run beside one another come between the moves of a step, so here a step is taken apart.  A
`Duty` is what a thread has still to do: it makes one move after the other, and it locks a mailbox
for as long as it drains it.  Some moves have to be waited for: a post for the lock of its mailbox,
unless the mailbox is closed, and a join for the end of the thread that is joined.

The functions below do the same things as those of the same names in `ScriptWorkers.World`.

* `Duty` — one move, then the rest; `Wait` is what a move may have to wait for.
* `deposit` and `join` — the moves of a step that may have to wait.
* `serveDesk`, `carry`, `enter` — requests, plans and entries, move by move.
* `drainBox`, `pump`, `tickTimers`, `turn` — the loop of a worker, with the locks that it takes.
-/

namespace ScriptWorkers

/-- What a move may have to wait for. -/
inductive Wait where
  | nothing
  /-- A post gets in, because nobody has locked the mailbox, or is given up, because it is
  closed. -/
  | post (id : WorkerId) (side : Side)
  /-- The thread of a worker has come to its end. -/
  | exit (id : WorkerId)
  /-- The clock has come to a time. -/
  | time (micros : UInt64)
  /-- There is something to do in the loop of a worker. -/
  | stir (me : WorkerId)
deriving Repr, DecidableEq

/-- What a thread has still to do until it comes to a value. -/
inductive Duty (κ α : Type) : Type 1 where
  | done (a : α)
  /-- It waits, makes a move and goes on with what comes of it. -/
  | move {β : Type} (wait : Wait) (x : Run (World κ) β) (next : β → Duty κ α)
  /-- It waits until nobody has locked a mailbox, and locks it. -/
  | lock (id : WorkerId) (side : Side) (next : Duty κ α)
  | unlock (id : WorkerId) (side : Side) (next : Duty κ α)

namespace Duty

variable {κ α β : Type}

/-- Goes on with another duty. -/
def bind : Duty κ α → (α → Duty κ β) → Duty κ β
  | done a, f => f a
  | move wait x next, f => move wait x fun b ↦ (next b).bind f
  | lock id side next, f => lock id side (next.bind f)
  | unlock id side next, f => unlock id side (next.bind f)

instance : Monad (Duty κ) where
  pure := done
  bind := bind

/-- A move that has to wait for something. -/
def once (wait : Wait) (x : Run (World κ) α) : Duty κ α := move wait x done

/-- A move that can be made at any time. -/
def now (x : Run (World κ) α) : Duty κ α := once .nothing x

/-- Posts a message to a mailbox of a link. -/
def deposit (id : WorkerId) (side : Side) (m : Message) : Duty κ Unit :=
  once (.post id side) (World.deposit id side m)

/-! ## Terminating workers -/

/-- Waits for the thread of a worker that has been told to end. -/
def join (me id : WorkerId) : Duty κ Unit := once (.exit id) (World.logCrash me id)

/-- Terminates an owned worker and waits for its thread; false if it is not owned. -/
def terminateKid (me id : WorkerId) : Duty κ Bool := do
  if (← now (World.kidsPlace me).read).contains id then
    now ((World.kidsPlace me).update (·.erase id))
    let _ ← now (World.flag id)
    join me id
    return true
  else return false

/-- Waits for all workers of a list. -/
def joinAll (me : WorkerId) : List WorkerId → Duty κ Unit
  | [] => return ()
  | id :: rest => do
    join me id
    joinAll me rest

/-- Terminates all owned workers: all are told before the first is waited for. -/
def terminateKids (me : WorkerId) : Duty κ Unit := do
  let kids ← now (World.kidsPlace me).read
  now ((World.kidsPlace me).update fun _ ↦ [])
  now (World.flagAll kids)
  joinAll me kids

/-- Terminates a worker by its handle.  One that is no longer owned is only flagged. -/
def dismiss (me id : WorkerId) : Duty κ Unit := do
  unless ← terminateKid me id do
    let _ ← now (World.flag id)

/-- Lets go of a worker, terminates it and takes back the handler for its messages. -/
def layOff (me id : WorkerId) : Duty κ Unit := do
  now ((World.deskPlace me).update (·.letGo id))
  dismiss me id
  let old ← now (World.exchange (World.boxPlace id .outbox) none)
  now ((World.deskPlace me).update (·.forget old))

/-! ## Requests -/

/-- Nobody is brought to an end. -/
def nobody : WorkerId → Run (World κ) Unit := fun _ ↦ return ()

/-- Serves a request that goes over the desk of the context `me`.  Only posts and terminations have
to wait for something. -/
def serveDesk (me : WorkerId) : (q : DeskRequest) → Duty κ q.Reply
  | .post m => deposit me .outbox m
  | .send id m => do
    if (← now (World.deskPlace me).read).holds id then deposit id .inbox m
  | .retire id => do
    if (← now (World.deskPlace me).read).holds id then
      layOff me id
      now (World.record (.retired me id))
  | q => now (World.serveDesk nobody me q)

/-- Serves a request of the context `me`. -/
def serve (me : WorkerId) : (q : Request) → Duty κ q.Reply
  | .desk q => serveDesk me q
  | .postTo id m => do
    if (← now get).owner? id = some me then deposit id .inbox m
  | .terminate id => do
    if (← now get).owner? id = some me then dismiss me id
  | .terminateAll => terminateKids me
  | q => now (World.serve nobody me q)

/-- Carries out a plan of the context `me`. -/
def carry (me : WorkerId) : FreePlan α → Duty κ α
  | .done a => done a
  | .ask q next => (serve me q).bind fun r ↦ carry me (next r)

/-! ## Entering a context -/

/-- Enters the context `me`. -/
def enter (me : WorkerId) (f : κ → FreePlan (κ × Ending)) : Duty κ (Except ScriptError Unit) := do
  match ← now (World.contextPlace me).read with
  | none => return .ok ()
  | some c =>
    let (c', ending) ← carry me (f c)
    now ((World.contextPlace me).update fun _ ↦ some c')
    match ending with
    | .done => return .ok ()
    | .failed e => return .error e
    | .panicked => now (throw .panic)
    | .endless => now (throw (.endless me))

variable (engine : Engine κ)

/-- Invokes a callback of the context `me`. -/
def call (me : WorkerId) (cause : Cause) (slot : Slot) (args : List Json) :
    Duty κ (Except ScriptError Unit) := do
  let d ← now (World.deskPlace me).read
  now (World.record (.called me cause slot (d.function? slot) args))
  enter me (engine.call · slot args)

/-- Writes a log line of the context `me`. -/
def log (me : WorkerId) (cause : Cause) (line : LogLine) : Duty κ Unit := do
  now (World.record (.logged me cause line))
  now (World.note me (.log line))

/-- Invokes a callback and reports the error it may end in. -/
def invoke (me : WorkerId) (cause : Cause) (origin : Origin) (slot : Slot) (args : List Json) :
    Duty κ Unit := do
  match ← call engine me cause slot args with
  | .ok () => return ()
  | .error e => log me cause (.uncaught origin e)

/-! ## The loop of a worker -/

/-- Hands a message to a callback; one that cannot be read is dropped with a warning. -/
def deliver (me : WorkerId) (cause : Cause) (slot : Slot) (m : Message) : Duty κ Unit :=
  match m.decode with
  | .ok v => invoke engine me cause .message slot [Message.event v]
  | .error e => log me cause (.undecodable e)

/-- Hands over messages as long as a callback is registered; counts them. -/
def walk (me id : WorkerId) (side : Side) : List Message → Duty κ Nat
  | [] => return 0
  | m :: rest => do
    match (← now (World.boxPlace id side).read).callback with
    | none => return 0
    | some slot =>
      deliver engine me (.mail id side) slot m
      return (← walk me id side rest) + 1

/-- Hands the messages of a mailbox to its callback. -/
def drain (me id : WorkerId) (side : Side) : Duty κ Nat := do
  let box ← now (World.boxPlace id side).read
  if box.callback.isNone then return 0
  let n ← walk engine me id side box.items
  now ((World.boxPlace id side).update (·.settle n))
  return n

/-- Drains a mailbox that is locked into the context `me`, and gives the lock back; counts the
messages. -/
def batch (me id : WorkerId) (side : Side) : Duty κ Nat := do
  let box ← now (World.boxPlace id side).read
  now (World.record (.began me id side))
  let n ← drain engine me id side
  now (World.record (.ended me id side (box.items.take n)))
  unlock id side (return n)

/-- Drains a mailbox into the context `me`, which keeps it locked for the whole batch. -/
def drainBox (me id : WorkerId) (side : Side) : Duty κ Nat := lock id side (batch engine me id side)

/-- Drains the messages of a worker, unless it is terminated. -/
def pumpOne (me id : WorkerId) : Duty κ Nat := do
  if (← now (World.linkPlace id).read).terminated then return 0 else drainBox engine me id .outbox

/-- Drains the messages of those workers of a list that are not terminated when their turn comes. -/
def pumpAll (me : WorkerId) : List WorkerId → Duty κ Nat
  | [] => return 0
  | id :: rest => do
    let n ← pumpOne engine me id
    return n + (← pumpAll me rest)

/-- Drains the messages of the workers that are owned at the start. -/
def pump (me : WorkerId) : Duty κ Nat := do
  pumpAll engine me (← now (World.kidsPlace me).read)

/-- Fires the noted intervals that are still there; counts them. -/
def fire (me : WorkerId) : List Timer → Duty κ Nat
  | [] => return 0
  | t :: rest => do
    if (← now (World.timersPlace me).read).contains t.id then
      invoke engine me .timer .timer t.callback []
      return (← fire me rest) + 1
    else fire me rest

/-- Fires the intervals that are due now. -/
def tickTimers (me : WorkerId) : Duty κ Nat := do
  let time := (← now World.clockPlace.read).now
  let due := (← now (World.timersPlace me).read).dueAt time
  now ((World.timersPlace me).update (·.reschedule time))
  fire engine me due

/-- Runs a script and reports the error it may end in. -/
def execute (me : WorkerId) (script : String) : Duty κ Unit := do
  match (← now World.loaderPlace.read).load script with
  | .ok code =>
    match ← enter me (engine.execute · code script) with
    | .ok () => return ()
    | .error e => now (World.note me (.log (.uncaught (.script script) e)))
  | .error text => now (World.note me (.log (.uncaught (.script script) (.load script text))))

/-- The first step, up to the loop. -/
def start (me : WorkerId) (script : String) : Duty κ Unit := do
  match engine.create me with
  | .ok c =>
    now ((World.contextPlace me).update fun _ ↦ some c)
    execute engine me script
    now (World.setPhase me .loop)
  | .error e => now (World.giveUp me script e)

/-- One iteration of the loop. -/
def iterate (me : WorkerId) : Duty κ Unit := do
  let _ ← tickTimers engine me
  let _ ← drainBox engine me me .inbox
  let _ ← pump engine me

/-- The end of a worker. -/
def tearDown (me : WorkerId) : Duty κ Unit := do
  terminateKids me
  now ((World.timersPlace me).update (·.clear))
  now ((World.contextPlace me).update fun _ ↦ none)
  now (World.setPhase me .exited)

/-- The end of a worker whose thread has panicked. -/
def crash (me : WorkerId) : Duty κ Unit := do
  tearDown me
  now (modify fun w ↦ w.updateWorker me fun x ↦ { x with crashed := true })

/-- What a worker does in a step, depending on where its thread stands. -/
def turn (me : WorkerId) (x : Worker κ) : Duty κ Unit :=
  match x.phase with
  | .start => start engine me x.script
  | .loop => iterate engine me
  | .exited => return ()

/-- Brings a worker to its end if it has been told to end. -/
def conclude (me : WorkerId) : Duty κ Unit := do
  let w ← now get
  if w.isLive me && (w.link me).terminated then tearDown me

end Duty

end ScriptWorkers
