import ScriptWorkers.Timers

/-!
# Settings

How long the loops of workers and of the host pause between two rounds, and after which time the
host gives up.  The fields have the defaults that are used where nothing else is asked for.
-/

namespace ScriptWorkers

/-- The settings of worker threads. -/
structure WorkerSettings where
  /-- The pause between two iterations, in microseconds; without one a thread only yields. -/
  pollMicros : Option Nat := none
  /-- How long a post waits for a mailbox before it looks again whether the mailbox is closed. -/
  postWaitMicros : Nat := 1000
deriving Repr, DecidableEq

/-- The settings of a host. -/
structure Settings where
  /-- The pause between two rounds, in milliseconds. -/
  tickMillis : Nat := 16
  /-- The longest run, in milliseconds. -/
  maxMillis : Nat := 300000
  worker : WorkerSettings := {}
  minify : Bool := false
deriving Repr, DecidableEq

namespace Settings

/-- The pause between two rounds, at least a millisecond. -/
def pause (s : Settings) : Nat := max s.tickMillis 1

/-- The time is up after this many rounds. -/
def expired (s : Settings) (rounds : Nat) : Bool := s.maxMillis ≤ rounds * s.pause

end Settings

end ScriptWorkers
