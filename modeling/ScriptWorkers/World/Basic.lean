import ScriptWorkers.Answer
import ScriptWorkers.Callee
import ScriptWorkers.Desk
import ScriptWorkers.Journal
import ScriptWorkers.Loader
import ScriptWorkers.Timers

/-!
# The world

This is the state that the worker runtime keeps, taken as a whole: the root context, every worker
there ever was, the clock and the loader.  A worker's number is its place in the order of spawning,
so numbers are never used again.  Each context has a scope: the registry of the workers that it
owns, its intervals and its desk.

Workers run in lockstep.  A worker's thread stands still until it is stepped, and a step is the
whole script at first and one iteration of the loop after that.

## What is here

* `Scope`, `Worker`, `World`: the state.
* `Engine` — how script contexts are made and entered; the world is the same for all of them.
* `scopePlace`, `timersPlace`, `deskPlace`, `kidsPlace`, `linkPlace`, `boxPlace` and others: where
  the parts of the state sit, so that what is said of a part can be said of the world.
* `note` and `record` — events and the journal.
* `flag`, `deposit`, `exchange`, `retain`, `addTimer`, `removeTimer` — the smallest operations, each
  of which concerns one part.
* `spawn` — a new worker, registered with its owner, if its script can be found.
-/

namespace ScriptWorkers

/-- What belongs to one script context. -/
structure Scope (κ : Type) where
  /-- The workers it owns, in order of spawning. -/
  kids : List WorkerId := []
  timers : Timers := {}
  desk : Desk := {}
  /-- The context itself, while it lives. -/
  context : Option κ := none

/-- A worker, alive or not. -/
structure Worker (κ : Type) where
  /-- The context that has spawned it, zero for the root. -/
  owner : WorkerId
  script : String
  link : Link
  phase : Phase := .start
  /-- Its thread has panicked. -/
  crashed : Bool := false
  scope : Scope κ := {}

/-- Everything there is. -/
structure World (κ : Type) where
  /-- The root scope, until it is dropped. -/
  root : Option (Scope κ)
  /-- The worker of number `n + 1` at place `n`. -/
  workers : List (Worker κ) := []
  /-- The workers of which the host has a handle. -/
  handles : List WorkerId := []
  clock : Clock := {}
  loader : Loader
  /-- What has happened, with the number of the worker whose thread it was. -/
  events : Array (WorkerId × Event) := #[]
  /-- What the core has done since the beginning. -/
  journal : Array Deed := #[]

/-- How script contexts are made and entered. -/
structure Engine (κ : Type) where
  create : WorkerId → Except ScriptError κ
  /-- Runs a script of a name. -/
  execute : κ → Code → String → FreePlan (κ × Ending)
  /-- Invokes a callback. -/
  call : κ → Slot → List Json → FreePlan (κ × Ending)
  /-- The bound on steps of workers inside one another. -/
  depth : Nat := 4096

/-- How script contexts are made and entered that go over their desks for everything. -/
structure DeskEngine (κ : Type) where
  create : WorkerId → Except ScriptError κ
  execute : κ → Code → String → DeskPlan (κ × Ending)
  call : κ → Slot → List Json → DeskPlan (κ × Ending)
  depth : Nat := 4096

/-- Such an engine is an engine. -/
def DeskEngine.engine {κ : Type} (e : DeskEngine κ) : Engine κ where
  create := e.create
  execute c code name := (e.execute c code name).free
  call c slot args := (e.call c slot args).free
  depth := e.depth

variable {κ : Type}

instance : Inhabited (Scope κ) := ⟨{}⟩

namespace World

/-- The worker of a number. -/
def worker? (w : World κ) : WorkerId → Option (Worker κ)
  | 0 => none
  | n + 1 => w.workers[n]?

/-- The context that has spawned a worker. -/
def owner? (w : World κ) (id : WorkerId) : Option WorkerId := (w.worker? id).map (·.owner)

/-- Changes a worker. -/
def updateWorker (w : World κ) (id : WorkerId) (f : Worker κ → Worker κ) : World κ :=
  match id with
  | 0 => w
  | n + 1 => { w with workers := w.workers.modify n f }

/-- The scope of a worker, or of the root under number zero. -/
def scope (w : World κ) : WorkerId → Scope κ
  | 0 => w.root.getD {}
  | n + 1 => ((w.worker? (n + 1)).map (·.scope)).getD {}

/-- Replaces the scope of a worker or of the root. -/
def setScope (w : World κ) (id : WorkerId) (s : Scope κ) : World κ :=
  match id with
  | 0 => { w with root := w.root.map fun _ ↦ s }
  | n + 1 => w.updateWorker (n + 1) fun x ↦ { x with scope := s }

/-- The link of a worker; there is none under number zero, and a closed one stands in. -/
def link (w : World κ) (id : WorkerId) : Link :=
  ((w.worker? id).map (·.link)).getD (Link.terminate { id })

/-- Replaces the link of a worker. -/
def setLink (w : World κ) (id : WorkerId) (l : Link) : World κ :=
  w.updateWorker id fun x ↦ { x with link := l }

/-! ## Places -/

/-- Where a scope sits. -/
def scopePlace (id : WorkerId) : Place (World κ) (Scope κ) :=
  ⟨(·.scope id), fun s w ↦ w.setScope id s⟩

/-- Where the intervals of a scope sit. -/
def timersPlace (id : WorkerId) : Place (World κ) Timers :=
  (scopePlace id).within ⟨Scope.timers, fun t s ↦ { s with timers := t }⟩

/-- Where the desk of a scope sits. -/
def deskPlace (id : WorkerId) : Place (World κ) Desk :=
  (scopePlace id).within ⟨Scope.desk, fun d s ↦ { s with desk := d }⟩

/-- Where the list of owned workers sits. -/
def kidsPlace (id : WorkerId) : Place (World κ) (List WorkerId) :=
  (scopePlace id).within ⟨Scope.kids, fun k s ↦ { s with kids := k }⟩

/-- Where a context sits. -/
def contextPlace (id : WorkerId) : Place (World κ) (Option κ) :=
  (scopePlace id).within ⟨Scope.context, fun c s ↦ { s with context := c }⟩

/-- Where a link sits. -/
def linkPlace (id : WorkerId) : Place (World κ) Link := ⟨(·.link id), fun l w ↦ w.setLink id l⟩

/-- Where a mailbox of a link sits. -/
def boxPlace (id : WorkerId) (side : Side) : Place (World κ) Mailbox :=
  (linkPlace id).within (Link.place side)

/-- Where the clock sits. -/
def clockPlace : Place (World κ) Clock := ⟨World.clock, fun c w ↦ { w with clock := c }⟩

/-- Where the loader sits. -/
def loaderPlace : Place (World κ) Loader := ⟨World.loader, fun l w ↦ { w with loader := l }⟩

/-! ## Small operations -/

/-- Notes an event on the thread of a worker. -/
def note (id : WorkerId) (e : Event) : Run (World κ) Unit :=
  modify fun w ↦ { w with events := w.events.push (id, e) }

/-- Puts down what the core has done. -/
def record (d : Deed) : Run (World κ) Unit := modify fun w ↦ { w with journal := w.journal.push d }

/-- Where a worker's thread stands; a worker that never was has exited. -/
def phase (w : World κ) (id : WorkerId) : Phase := ((w.worker? id).map (·.phase)).getD .exited

/-- The worker's thread has not come to its end. -/
def isLive (w : World κ) (id : WorkerId) : Bool := w.phase id != .exited

/-- The numbers of the workers whose threads have not come to their end. -/
def live (w : World κ) : List WorkerId :=
  ((List.range w.workers.length).map (· + 1)).filter w.isLive

/-- Moves a worker's thread to another phase. -/
def setPhase (id : WorkerId) (p : Phase) : Run (World κ) Unit :=
  modify fun w ↦ w.updateWorker id fun x ↦ { x with phase := p }

/-- Nothing is left that could invoke a callback of the root. -/
def isIdle (w : World κ) : Bool := (w.scope 0).kids.isEmpty && (w.scope 0).timers.entries.isEmpty

/-- Replaces a callback and returns the old one. -/
def exchange (place : Place (World κ) Mailbox) (callback : Option Slot) :
    Run (World κ) (Option Slot) := do
  let old := (← place.read).callback
  place.update (·.listen callback)
  return old

/-- Terminates a link and tells whether this was the first time. -/
def flag (id : WorkerId) : Run (World κ) Bool := do
  let old ← (linkPlace id).read
  (linkPlace id).update (·.terminate)
  return !old.terminated

/-- Posts a message to a mailbox of a link. -/
def deposit (id : WorkerId) (side : Side) (m : Message) : Run (World κ) Unit := do
  record (.posted id side m !(← (linkPlace id).read).terminated)
  (boxPlace id side).update (·.push m)

/-- Keeps a function on the desk and returns its slot. -/
def retain (me : WorkerId) (f : FunctionRef) : Run (World κ) Slot := do
  let slot := (← (deskPlace me).read).next
  record (.retained me slot)
  (deskPlace me).update (·.retain f)
  return slot

/-- Adds an interval at the time of the clock and returns its number. -/
def addTimer (me : WorkerId) (callback : Slot) (period : Option Float) : Run (World κ) UInt32 := do
  let id := (← (timersPlace me).read).next
  let now := (← clockPlace.read).now
  record (.timed me id)
  (timersPlace me).update (·.add now callback period)
  return id

/-- Removes an interval and returns its callback. -/
def removeTimer (me : WorkerId) (id : UInt32) : Run (World κ) (Option Slot) := do
  let old := (← (timersPlace me).read).find? id
  (timersPlace me).update (·.remove id)
  return old.map (·.callback)

/-- Starts a worker that runs a script.  The script has to be there before anything is made. -/
def spawn (me : WorkerId) (script : String) : Run (World κ) (Except CreationError WorkerId) := do
  let w ← get
  if w.loader.contains script then
    let id := w.workers.length + 1
    let made : Worker κ := { owner := me, script, link := { id } }
    set { w with workers := w.workers ++ [made] }
    (kidsPlace me).update (· ++ [id])
    return .ok id
  else return .error (.scriptNotFound script)

end World

end ScriptWorkers
