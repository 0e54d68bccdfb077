import ScriptWorkers.Settings
import ScriptWorkers.World.Host

/-!
# The host loop in real time

This is the loop of `ScriptWorkers.World.Host` with the pauses of the settings.  Between two rounds
of the host the workers run on: every worker makes a step in each millisecond, and the host has a
round whenever its own pause is over.  The loop ends when the world is idle or when the time limit
has been reached (`driveTimed`, `runTimed`).
-/

namespace ScriptWorkers
namespace World

variable {κ : Type}

/-- Lets so many milliseconds pass. -/
def passMillis (engine : Engine κ) : Nat → Run (World κ) Unit
  | 0 => return ()
  | n + 1 => do
    stepEach engine (← get).live
    clockPlace.update (·.advance 0.001)
    passMillis engine n

/-- Drives the world until it is idle or its time is up; there are at most `fuel` rounds. -/
def driveTimed (engine : Engine κ) (s : Settings) (rounds : Nat) : Nat → Run (World κ) Unit
  | 0 => return ()
  | fuel + 1 => do
    let _ ← tickRoot engine
    let w ← get
    if w.isIdle then return ()
    else if s.expired rounds then
      note 0 (.log (.outOfTime (w.scope 0).kids.length (w.scope 0).timers.size))
    else
      passMillis engine s.pause
      driveTimed engine s (rounds + 1) fuel

/-- Loads a script, runs it in the root context and drives the world. -/
def runTimed (engine : Engine κ) (s : Settings) (id : String) :
    Run (World κ) (Except ScriptError Unit) := do
  match (← loaderPlace.read).load id with
  | .error text => return .error (.load id text)
  | .ok code =>
    match ← eval engine code id with
    | .error e => return .error e
    | .ok () =>
      driveTimed engine s 0 (s.maxMillis / s.pause + 2)
      return .ok ()

/-- Runs a script on a world and keeps what becomes of it, whatever happens. -/
def runTimedOn (engine : Engine κ) (s : Settings) (id : String) (w : World κ) : Answer × World κ :=
  match (runTimed engine s id).run { w with events := #[] } with
  | .ok r w' => (.ofScript r, w')
  | .error _ w' => (.panicked, w')

end World
end ScriptWorkers
