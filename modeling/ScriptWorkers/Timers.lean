import ScriptWorkers.Callee
import ScriptWorkers.Clock

/-!
# Intervals

This part is the registry of intervals of a script context.  Intervals are polled: `Timers.tick`
fires every interval whose time has come, once, and sets its next time by the time of the tick, so a
late tick never fires an interval twice and lateness is not made up for.

A tick first reschedules the intervals that are due and notes them, in ascending order of their
numbers.  Then it fires the noted ones one after the other, passing over those that are no longer
there.  A callback is therefore free to add and remove intervals: what it adds is not fired by the
same tick, what it removes does not fire any more.

## What is here

* `effective` — the period of an interval; one that is of no use is replaced by `defaultPeriod`.
* `add`, `remove`, `clear` — numbers are counted up in 32 bits and not used again before they wrap.
* `dueAt`, `reschedule`, `fire`, `tick` — what a tick does, in this order.
-/

namespace ScriptWorkers

/-- A callback to be invoked again and again. -/
structure Timer where
  id : UInt32
  callback : Slot
  period : Float
  due : Float

/-- The intervals of one script context, in ascending order of their numbers. -/
structure Timers where
  entries : List Timer := []
  /-- The number the next interval gets. -/
  next : UInt32 := 1

namespace Timers

/-- The period of an interval that gives none. -/
def defaultPeriod : Float := 0.016

/-- The given period if it is finite and positive. -/
def effective : Option Float → Float
  | some p => if p.isFinite && p > 0.0 then p else defaultPeriod
  | none => defaultPeriod

/-- Puts an interval in its place, replacing one of the same number. -/
def insert (t : Timer) : List Timer → List Timer
  | [] => [t]
  | u :: rest =>
    if t.id < u.id then t :: u :: rest
    else if t.id = u.id then t :: rest
    else u :: insert t rest

/-- Adds an interval at time `now`. -/
def add (ts : Timers) (now : Float) (callback : Slot) (period : Option Float) : Timers :=
  let p := effective period
  { entries := insert ⟨ts.next, callback, p, now + p⟩ ts.entries
    next := ts.next + 1 }

/-- The interval of a number. -/
def find? (ts : Timers) (id : UInt32) : Option Timer := ts.entries.find? (·.id == id)

/-- Whether there is an interval of that number. -/
def contains (ts : Timers) (id : UInt32) : Bool := ts.entries.any (·.id == id)

/-- Removes an interval. -/
def remove (ts : Timers) (id : UInt32) : Timers :=
  { ts with entries := ts.entries.filter (·.id != id) }

/-- Removes all intervals; the next number stays. -/
def clear (ts : Timers) : Timers := { ts with entries := [] }

/-- The callbacks of all intervals. -/
def callbacks (ts : Timers) : List Slot := ts.entries.map (·.callback)

/-- How many there are. -/
def size (ts : Timers) : Nat := ts.entries.length

/-- The interval's time has come. -/
def Timer.isDue (now : Float) (t : Timer) : Bool := t.due <= now

/-- The intervals whose time has come. -/
def dueAt (ts : Timers) (now : Float) : List Timer := ts.entries.filter (Timer.isDue now)

/-- Sets the next time of the intervals whose time has come. -/
def reschedule (ts : Timers) (now : Float) : Timers :=
  { ts with entries := ts.entries.map fun t ↦
      if Timer.isDue now t then { t with due := now + t.period } else t }

variable {σ : Type}

/-- Fires the noted intervals that are still there; counts them. -/
def fire (place : Place σ Timers) (callee : Callee σ) : List Timer → Run σ Nat
  | [] => return 0
  | t :: rest => do
    if (← place.read).contains t.id then
      callee.invoke .timer t.callback []
      return (← fire place callee rest) + 1
    else fire place callee rest

/-- Fires the intervals that are due at time `now` and returns how many have fired. -/
def tick (place : Place σ Timers) (callee : Callee σ) (now : Float) : Run σ Nat := do
  let due := (← place.read).dueAt now
  place.update (·.reschedule now)
  fire place callee due

/-- A short description. -/
def describe (ts : Timers) : String :=
  s!"IntervalRegistry \x7b entries: {ts.size}, next_id: {ts.next} \x7d"

end Timers

end ScriptWorkers
