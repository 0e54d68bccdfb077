import ScriptWorkers.Bench.Basic
import ScriptWorkers.Timers

/-!
# Trials of intervals

Intervals with a clock, through a list of operations (`trial`).  While they are being fired, their
callbacks may add and remove others.
-/

namespace ScriptWorkers
namespace Timers

/-- Intervals with the clock they go by. -/
structure Setting where
  timers : Timers := {}
  clock : Clock := {}

namespace Setting

/-- Where the intervals sit. -/
def timersPlace : Place Setting Timers := ⟨timers, fun t s ↦ { s with timers := t }⟩

/-- Where the clock sits. -/
def clockPlace : Place Setting Clock := ⟨clock, fun c s ↦ { s with clock := c }⟩

end Setting

/-- What a callback can do. -/
inductive Reaction where
  | fail (text : String)
  | add (callback : Slot) (period : Option Float)
  | remove (id : UInt32)
  | clear
  | advance (seconds : Float)

/-- What can be done to intervals and their clock. -/
inductive Op where
  | add (callback : Slot) (period : Option Float)
  | remove (id : UInt32)
  | contains (id : UInt32)
  | advance (seconds : Float)
  | set (seconds : Float)
  | tick (time : Float)
  | tickNow
  | clear

/-- The intervals of the trial. -/
def subject : Place (Bench Setting) Timers := Bench.part.within Setting.timersPlace

def clock : Place (Bench Setting) Clock := Bench.part.within Setting.clockPlace

/-- Adds an interval at the time of the clock and returns its number. -/
def start (callback : Slot) (period : Option Float) : Run (Bench Setting) UInt32 := do
  let id := (← subject.read).next
  let now := (← clock.read).now
  subject.update (·.add now callback period)
  return id

/-- Removes an interval and returns its callback. -/
def stop (id : UInt32) : Run (Bench Setting) (Option Slot) := do
  let old := (← subject.read).find? id
  subject.update (·.remove id)
  return old.map (·.callback)

/-- Removes all intervals and returns their callbacks. -/
def stopAll : Run (Bench Setting) (List Slot) := do
  let old ← subject.read
  subject.update (·.clear)
  return old.callbacks

def react : Reaction → Run (Bench Setting) (Except ScriptError Unit)
  | .fail text => return .error (.uncaught text)
  | .add cb period => do Bench.note (.added (← start cb period)); return .ok ()
  | .remove id => do Bench.note (.removed (← stop id)); return .ok ()
  | .clear => do Bench.note (.cleared (← stopAll)); return .ok ()
  | .advance s => do clock.update (·.advance s); return .ok ()

def perform (rules : Rules Reaction) : Op → Run (Bench Setting) Answer
  | .add cb period => do return .timer (← start cb period)
  | .remove id => do return .slot (← stop id)
  | .contains id => do return .flag ((← subject.read).contains id)
  | .advance s => do clock.update (·.advance s); return .time (← clock.read).now
  | .set s => do clock.update (·.set s); return .time (← clock.read).now
  | .tick t => do return .count (← tick subject (Bench.callee rules react) t)
  | .tickNow => do
    let now := (← clock.read).now
    return .count (← tick subject (Bench.callee rules react) now)
  | .clear => do return .slots (← stopAll)

/-- No intervals at first, through a list of operations. -/
def trial (rules : Rules Reaction) (ops : List Op) : List (Answer × Array Event × Setting) :=
  Bench.trace (perform rules) ops ⟨{}, #[], #[]⟩

end Timers
end ScriptWorkers
