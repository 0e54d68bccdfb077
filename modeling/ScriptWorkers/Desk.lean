import ScriptWorkers.Plan

/-!
# Desks

This part is what a script context keeps of its own functions and workers: the table of callbacks
and the handles.  The desk hands out slots for functions (`retain`) and keeps the functions until
their slots are released (`release`, `forget`).  It also remembers the workers that the context has
created and not yet terminated (`hold`, `letGo`, `holds`).

Slots are counted from one and never given out twice, until the count of 32 bits runs out.
-/

namespace ScriptWorkers

/-- The functions and workers a context holds. -/
structure Desk where
  functions : List (Slot × FunctionRef) := []
  next : Slot := 1
  workers : List WorkerId := []
deriving Repr, DecidableEq

namespace Desk

/-- Keeps a function under the next slot. -/
def retain (d : Desk) (f : FunctionRef) : Desk :=
  { d with functions := (d.next, f) :: d.functions.filter (·.1 != d.next), next := d.next + 1 }

/-- Gives up the function of a slot. -/
def release (d : Desk) (slot : Slot) : Desk :=
  { d with functions := d.functions.filter (·.1 != slot) }

/-- Gives up the function of a slot, if there is one. -/
def forget (d : Desk) : Option Slot → Desk
  | some slot => d.release slot
  | none => d

/-- The function kept under a slot. -/
def function? (d : Desk) (slot : Slot) : Option FunctionRef := d.functions.lookup slot

/-- What stands behind a registered callback. -/
def registered (d : Desk) : Option Slot → Registered
  | none => .nothing
  | some slot =>
    match d.function? slot with
    | some f => .function f
    | none => .released

/-- The slots in use. -/
def slots (d : Desk) : List Slot := d.functions.map (·.1)

/-- Holds a worker. -/
def hold (d : Desk) (id : WorkerId) : Desk := { d with workers := d.workers ++ [id] }

/-- Lets go of a worker. -/
def letGo (d : Desk) (id : WorkerId) : Desk := { d with workers := d.workers.filter (· != id) }

/-- The worker is held. -/
def holds (d : Desk) (id : WorkerId) : Bool := d.workers.contains id

end Desk

end ScriptWorkers
