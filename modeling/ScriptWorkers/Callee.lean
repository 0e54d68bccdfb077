import ScriptWorkers.Event
import ScriptWorkers.Run

/-!
# Script contexts as the core sees them

The core of the program does not depend on a script engine.  It knows a script context only by what
it can do with it: invoke a callback by its slot, and write to the log.  An invocation may do
anything to the state around it, may end in an error, which is reported and otherwise ignored
(`Callee.invoke`), and may panic, which breaks off the computation.  A message is handed over as an
object with its value (`Callee.deliver`).
-/

namespace ScriptWorkers

/-- A script context inside a state of type `σ`. -/
structure Callee (σ : Type) where
  /-- Invokes the callback of a slot. -/
  call : Slot → List Json → Run σ (Except ScriptError Unit)
  /-- Writes a log line. -/
  log : LogLine → Run σ Unit

namespace Callee

variable {σ : Type}

/-- Invokes a callback and reports the error it may end in. -/
def invoke (c : Callee σ) (origin : Origin) (slot : Slot) (args : List Json) : Run σ Unit := do
  match ← c.call slot args with
  | .ok () => return ()
  | .error e => c.log (.uncaught origin e)

/-- Hands a message to a callback; one that cannot be read is dropped with a warning. -/
def deliver (c : Callee σ) (slot : Slot) (m : Message) : Run σ Unit :=
  match m.decode with
  | .ok v => c.invoke .message slot [Message.event v]
  | .error e => c.log (.undecodable e)

end Callee

end ScriptWorkers
