import ScriptWorkers.Event

/-!
# Answers

What an operation reports to whoever asked for it: the results of the host's operations
(`ScriptWorkers.World.Host`) and of those on single parts (`ScriptWorkers.Bench.Basic`), with the
`Phase` in which the thread of a worker stands.
-/

namespace ScriptWorkers

/-- Where the thread of a worker stands. -/
inductive Phase where
  /-- Spawned, nothing done yet. -/
  | start
  /-- In front of an iteration of its loop. -/
  | loop
  | exited
deriving Repr, DecidableEq

namespace Phase

/-- How a report names it. -/
def name : Phase → String
  | start => "start"
  | loop => "loop"
  | exited => "exited"

end Phase

/-- The result of an operation. -/
inductive Answer where
  | nothing
  | done
  | flag (b : Bool)
  | count (n : Nat)
  | slot (s : Option Slot)
  | slots (s : List Slot)
  | timer (id : UInt32)
  /-- A time in seconds. -/
  | time (t : Float)
  | worker (id : Option WorkerId)
  | workers (ids : List WorkerId)
  | phase (p : Option Phase)
  | text (s : String)
  /-- The callbacks of both sides of a link. -/
  | callbacks (inbox outbox : Option Slot)
  | unserializable (e : SerializationError)
  | uncreatable (e : CreationError)
  | failed (e : ScriptError)
  /-- A panic has reached the host. -/
  | panicked
  /-- The host has no handle of the worker. -/
  | noHandle
  /-- The root context is gone. -/
  | dropped
  /-- The outcome of a host loop and its iterations. -/
  | loops (result : Answer) (count : Nat)

namespace Answer

/-- The answer of an operation that reports only its failure. -/
def ofScript : Except ScriptError Unit → Answer
  | .ok () => done
  | .error e => failed e

end Answer

end ScriptWorkers
