/-!
# The manual clock

This part is the clock by which intervals go when no real one is wanted.  It moves only when told
to.  It counts whole microseconds in a 64-bit word: seconds given as a double are rounded to the
nearest one, a half away from zero, and cut off at the ends of the word (`toMicros`).  `advance`
adds to the word and wraps around; `set` only ever moves forward.
-/

namespace ScriptWorkers

/-- Whole microseconds since the start. -/
structure Clock where
  micros : UInt64 := 0
deriving Repr, DecidableEq

namespace Clock

/-- Seconds as whole microseconds. -/
def toMicros (seconds : Float) : UInt64 :=
  let micros := seconds * 1e6
  let whole := micros.toUInt64
  -- from `2 ^ 53` on a double has no fraction left to round
  if micros < 9007199254740992.0 ∧ 0.5 ≤ micros - whole.toFloat then whole + 1 else whole

/-- The time in seconds. -/
def now (c : Clock) : Float := c.micros.toFloat / 1e6

/-- Moves on by a positive number of seconds; anything else leaves the clock as it is. -/
def advance (c : Clock) (seconds : Float) : Clock :=
  if seconds > 0.0 then ⟨c.micros + toMicros seconds⟩ else c

/-- Moves to a later time; an earlier one leaves the clock as it is. -/
def set (c : Clock) (seconds : Float) : Clock :=
  ⟨max c.micros (toMicros (if seconds > 0.0 then seconds else 0.0))⟩

end Clock

end ScriptWorkers
