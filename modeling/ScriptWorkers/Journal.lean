import ScriptWorkers.Link
import ScriptWorkers.Plan

/-!
# The journal

The core keeps a journal of what it does with messages, callbacks, numbers and workers.  Nothing
reads it while the program runs; it says what has become of every message that was ever posted,
which is more than the mailboxes themselves can tell.

`Deed` is an entry: a message was posted, a drain began or ended, a callback was invoked, a line was
logged, a number was given out, or a worker was retired.
-/

namespace ScriptWorkers

/-- Why the core turns to a script context. -/
inductive Cause where
  /-- A mailbox is drained. -/
  | mail (id : WorkerId) (side : Side)
  /-- An interval is due. -/
  | timer
deriving Repr, DecidableEq

/-- Something the core has done. -/
inductive Deed where
  /-- A message was posted; `inTime` says that the link had not been terminated. -/
  | posted (id : WorkerId) (side : Side) (m : Message) (inTime : Bool)
  /-- A context began to drain a mailbox. -/
  | began (me : WorkerId) (id : WorkerId) (side : Side)
  /-- A callback was invoked, behind which that function stood. -/
  | called (me : WorkerId) (cause : Cause) (slot : Slot) (f : Option FunctionRef) (args : List Json)
  /-- A line was logged on the occasion of a drain or an interval. -/
  | logged (me : WorkerId) (cause : Cause) (line : LogLine)
  /-- A drain ended, after these messages. -/
  | ended (me : WorkerId) (id : WorkerId) (side : Side) (consumed : List Message)
  /-- A context was given a slot. -/
  | retained (me : WorkerId) (slot : Slot)
  /-- A context was given the number of an interval. -/
  | timed (me : WorkerId) (id : UInt32)
  /-- A context has terminated a worker that it held, and has let go of it. -/
  | retired (me : WorkerId) (id : WorkerId)

end ScriptWorkers
