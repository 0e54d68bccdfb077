import ScriptWorkers.Message

/-!
# Events

What can be observed of a run: calls of callbacks, output of scripts, results of actions, and the
log lines of the workers' core.

* `WorkerId` — by which number the world knows a worker, and by which the process does (`number`).
* `LogLine` — everything that the core may log, with its level and its wording.
* `ConsoleLine` — what scripts print.
* `Event` — one of these, as it is put down in the world.
-/

namespace ScriptWorkers

/-- The number by which the core knows a callback. -/
abbrev Slot := UInt32

/-- The place of a worker in the order in which the workers of a world are made; zero is the root.
The process knows workers by numbers of 32 bits instead, see `WorkerId.number`. -/
abbrev WorkerId := Nat

namespace WorkerId

/-- The number that the process has given a worker of a world, if `earlier` others were made before
the world was there.  The counter starts with one and wraps around. -/
def number (earlier : Nat) (id : WorkerId) : UInt32 := UInt32.ofNat (earlier + id)

/-- The first place in a world that has a number. -/
def ofNumber (earlier : Nat) (n : UInt32) : WorkerId := (n - UInt32.ofNat earlier).toNat

end WorkerId

/-- What was running when an error came out. -/
inductive Origin where
  /-- The delivery of a message. -/
  | message
  /-- An interval. -/
  | timer
  /-- A script. -/
  | script (id : String)
deriving Repr, DecidableEq

namespace Origin

/-- How the log names it. -/
def name : Origin → String
  | message => "onmessage"
  | timer => "setInterval"
  | script id => id

end Origin

/-- A log line of the core. -/
inductive LogLine where
  | uncaught (origin : Origin) (error : ScriptError)
  | undecodable (error : SerializationError)
  /-- The thread of a worker that has been joined had panicked. -/
  | crashed (worker : WorkerId) (script : String)
  | extraConstructorArguments (count : Nat)
  | extraPostArguments
  | unknownEvent (name : String)
  | badHandler
  | outOfTime (workers timers : Nat)
  /-- A name is declared twice. -/
  | semantic (file : String)
deriving Repr, DecidableEq

/-- How grave a line is. -/
inductive Level where
  | info
  | warn
  | error
deriving Repr, DecidableEq

namespace Level

/-- How the log names it. -/
def name : Level → String
  | info => "info"
  | warn => "warn"
  | error => "error"

end Level

namespace LogLine

/-- How grave the line is. -/
def level : LogLine → Level
  | uncaught .. | crashed .. | badHandler => .error
  | _ => .warn

/-- The wording of the line. -/
def message : LogLine → String
  | uncaught .. => "uncaught exception"
  | undecodable _ => "dropping undecodable message"
  | crashed .. => "worker thread panicked"
  | extraConstructorArguments _ => "Worker constructor only uses its first argument"
  | extraPostArguments => "only support 1 argument for postMessage"
  | unknownEvent name => "Trying to add listener for unknown event " ++ name
  | badHandler => "[set_onmessage]: argument is neither a function nor null"
  | outOfTime .. => "maximum runtime reached, shutting down"
  | semantic _ => "semantic"

end LogLine

/-- Checks the number of arguments that a worker is constructed with: there has to be one, and more
than one are worth a warning. -/
def checkConstructor : Nat → Except CreationError (List LogLine)
  | 0 => .error .missingScript
  | 1 => .ok []
  | n => .ok [.extraConstructorArguments n]

/-- What a line on the console is. -/
inductive ConsoleLine where
  /-- A script shows a value. -/
  | value (v : Json)
  /-- A script shows what has no JSON text. -/
  | text (s : String)
  | plain (s : String)

namespace ConsoleLine

/-- What stands in front of a value that a script shows. -/
def mark : String := "#emit "

/-- What a line says: behind the mark stands the JSON text of a value, or something in its place. -/
def ofString (s : String) : ConsoleLine :=
  if mark.toList.isPrefixOf s.toList then
    let rest := String.ofList (s.toList.drop mark.length)
    match Json.parse rest with
    | .ok v => value v
    | .error _ => text rest
  else plain s

end ConsoleLine

/-- Something that happened. -/
inductive Event where
  /-- The core invoked a callback. -/
  | call (slot : Slot) (args : List Json)
  /-- A program starts. -/
  | exec (name : String)
  | emit (value : Json)
  | console (level : Level) (text : String)
  /-- The callback that was replaced. -/
  | previous (slot : Option Slot)
  /-- A script has set up an interval. -/
  | interval (id : UInt32)
  | removed (slot : Option Slot)
  | spawned (id : WorkerId)
  /-- Whether this was the first termination. -/
  | terminated (first : Bool)
  | added (id : UInt32)
  | cleared (slots : List Slot)
  /-- A callback invoked for the record only. -/
  | recorded (slot : Slot) (args : List Json)
  | log (line : LogLine)

end ScriptWorkers
