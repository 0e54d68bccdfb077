import ScriptWorkers.World.Basic

/-!
# What the world does for its contexts

This part is the registry of workers, the handles by which workers are terminated, and the service
behind the functions that scripts find in their contexts.

Terminating a worker means to wait for its thread, and the thread may have a whole iteration and its
own workers to bring to an end.  How a thread is brought to its end is the business of
`ScriptWorkers.World.Step`; here it is a parameter `finish`.

## What is here

* `await` and `join` — waiting for a thread, with a log line if it has panicked.
* `terminateKid`, `terminateKids`, `dismiss` — by number, all at once, by handle.
* `register` — a handler for messages takes the place of another one, which is forgotten.
* `layOff` — how a script terminates a worker that it holds.
* `serveDesk` and `serve` — every request of a context, case by case.
-/

namespace ScriptWorkers
namespace World

variable {κ : Type}

/-- Lets a thread come to its end, if it has not. -/
def await (finish : WorkerId → Run (World κ) Unit) (id : WorkerId) : Run (World κ) Unit := do
  if (← get).isLive id then finish id

/-- Logs on the thread `me` that the thread of a worker has panicked. -/
def logCrash (me id : WorkerId) : Run (World κ) Unit := do
  match (← get).worker? id with
  | some x => if x.crashed then note me (.log (.crashed id x.script))
  | none => return ()

/-- Waits for the thread of a worker that has been told to end; a panic of that thread is logged on
the waiting one. -/
def join (finish : WorkerId → Run (World κ) Unit) (me id : WorkerId) : Run (World κ) Unit := do
  await finish id
  logCrash me id

/-- Terminates an owned worker and waits for its thread; false if it is not owned. -/
def terminateKid (finish : WorkerId → Run (World κ) Unit) (me id : WorkerId) :
    Run (World κ) Bool := do
  if (← (kidsPlace me).read).contains id then
    (kidsPlace me).update (·.erase id)
    let _ ← flag id
    join finish me id
    return true
  else return false

/-- Tells all workers of a list to end. -/
def flagAll : List WorkerId → Run (World κ) Unit
  | [] => return ()
  | id :: rest => do
    let _ ← flag id
    flagAll rest

/-- Waits for all workers of a list. -/
def joinAll (finish : WorkerId → Run (World κ) Unit) (me : WorkerId) :
    List WorkerId → Run (World κ) Unit
  | [] => return ()
  | id :: rest => do
    join finish me id
    joinAll finish me rest

/-- Terminates all owned workers: all are told before the first is waited for. -/
def terminateKids (finish : WorkerId → Run (World κ) Unit) (me : WorkerId) :
    Run (World κ) Unit := do
  let kids ← (kidsPlace me).read
  (kidsPlace me).update fun _ ↦ []
  flagAll kids
  joinAll finish me kids

/-- Terminates a worker by its handle.  One that is no longer owned is only flagged. -/
def dismiss (finish : WorkerId → Run (World κ) Unit) (me id : WorkerId) : Run (World κ) Unit := do
  unless ← terminateKid finish me id do
    let _ ← flag id

/-- Where the handler of a source is registered in a context. -/
def handlerPlace (me : WorkerId) : Source → Place (World κ) Mailbox
  | .owner => boxPlace me .inbox
  | .worker id => boxPlace id .outbox

/-- The context may register handlers for this source; the root has no owner. -/
def mayHandle (me : WorkerId) (d : Desk) : Source → Bool
  | .owner => me != 0
  | .worker id => d.holds id

/-- Registers a function, or nothing, as a handler, and releases what it replaces. -/
def register (me : WorkerId) (s : Source) : Handler → Run (World κ) Unit
  | .invalid => note me (.log .badHandler)
  | .clear => do
    let old ← exchange (handlerPlace me s) none
    (deskPlace me).update (·.forget old)
  | .function f => do
    let slot ← retain me f
    let old ← exchange (handlerPlace me s) (some slot)
    (deskPlace me).update (·.forget old)

/-- Lets go of a worker, terminates it and takes back the handler for its messages. -/
def layOff (finish : WorkerId → Run (World κ) Unit) (me id : WorkerId) : Run (World κ) Unit := do
  (deskPlace me).update (·.letGo id)
  dismiss finish me id
  let old ← exchange (boxPlace id .outbox) none
  (deskPlace me).update (·.forget old)

/-- Serves a request that goes over the desk of the context `me`. -/
def serveDesk (finish : WorkerId → Run (World κ) Unit) (me : WorkerId) :
    (q : DeskRequest) → Run (World κ) q.Reply
  | .note e => note me e
  | .post m => deposit me .outbox m
  | .holds id => do return (← (deskPlace me).read).holds id
  | .function slot => do return (← (deskPlace me).read).function? slot
  | .handle s h => do if mayHandle me (← (deskPlace me).read) s then register me s h
  | .handler s => do
    let d ← (deskPlace me).read
    if mayHandle me d s then return d.registered (← (handlerPlace me s).read).callback
    else return .nothing
  | .startInterval f period => do
    let slot ← retain me f
    addTimer me slot period
  | .stopInterval id => do
    let old ← removeTimer me id
    (deskPlace me).update (·.forget old)
  | .create script => do
    match ← spawn me script with
    | .ok id => (deskPlace me).update (·.hold id); return .ok id
    | .error e => return .error e
  | .send id m => do
    if (← (deskPlace me).read).holds id then deposit id .inbox m
  | .retire id => do
    if (← (deskPlace me).read).holds id then
      layOff finish me id
      record (.retired me id)

/-- Serves a request of the context `me`.  A context can turn only to workers that it has spawned
itself: nobody gives it a hold of others. -/
def serve (finish : WorkerId → Run (World κ) Unit) (me : WorkerId) :
    (q : Request) → Run (World κ) q.Reply
  | .desk q => serveDesk finish me q
  | .advance s => clockPlace.update (·.advance s)
  | .unload id => do
    let old ← loaderPlace.read
    loaderPlace.update (·.erase id)
    return old.contains id
  | .listen cb => exchange (boxPlace me .inbox) cb
  | .addTimer cb period => addTimer me cb period
  | .removeTimer id => removeTimer me id
  | .spawn script => spawn me script
  | .postTo id m => do
    if (← get).owner? id = some me then deposit id .inbox m
  | .listenTo id cb => do
    if (← get).owner? id = some me then exchange (boxPlace id .outbox) cb else return none
  | .terminate id => do
    if (← get).owner? id = some me then dismiss finish me id
  | .terminateAll => terminateKids finish me
  | .resign => flag me

end World
end ScriptWorkers
