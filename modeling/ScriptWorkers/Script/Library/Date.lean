import ScriptWorkers.Script.Builtin
import ScriptWorkers.Script.Calendar

/-!
# Functions on dates

A date is taken apart into fields, some of which are replaced, and put together again.  A field
that is too large or too small carries over into the next one.  The local time is that of the
zero meridian.
-/

namespace ScriptWorkers
namespace Script

open Eval

/-! ## Times -/

def noTime : Float := 0.0 / 0.0

/-- A number as a time: whole, and not too far off. -/
def timeOf (f : Float) : Float := if Calendar.isTime f then wholePart f + 0.0 else noTime

def timeOfUnits (s : Units) : Float :=
  match Calendar.read? s.text.toList with
  | some t => if Calendar.isTime (Float.ofInt t) then Float.ofInt t else noTime
  | none => noTime

/-- The fields of a time: year, month from zero, day, hours, minutes, seconds and milliseconds. -/
def timeFields (t : Int) : List Int :=
  let days := t.fdiv Calendar.day
  let ms := t - days * Calendar.day
  let (y, m, d) := Calendar.civil days
  [y, (m : Int) - 1, d, ms / 3600000, ms / 60000 % 60, ms / 1000 % 60, ms % 1000]

/-- The time of fields; what is missing is left at its start. -/
def timeOfFields (fields : List Int) : Float :=
  let field (i : Nat) (default : Int) : Int := (fields[i]?).getD default
  let m := field 1 0
  let days := Calendar.daysTo (field 0 1970 + m.fdiv 12) ((m.fmod 12).toNat + 1) 1 + (field 2 1 - 1)
  timeOf (Float.ofInt
    (days * Calendar.day + 3600000 * field 3 0 + 60000 * field 4 0 + 1000 * field 5 0 + field 6 0))

/-- The time of fields that are given as numbers, all of which have to be finite.  A year of two
digits is one of the last century. -/
def timeOfNumbers (fs : List Float) : Float :=
  if !fs.all Float.isFinite then noTime
  else
    match fs.map Number.truncated with
    | y :: rest => timeOfFields ((if 0 ≤ y && y ≤ 99 then 1900 + y else y) :: rest)
    | [] => noTime

/-- The time that arguments stand for. -/
def timeFrom (call : Caller) : List Value → Eval Float
  | [] => return 0.0
  | [v] => do
    let inner ← match v with
      | .object r =>
        match (← object r).kind with
        | .date t => pure (some t)
        | _ => pure none
      | _ => pure none
    match inner with
    | some t => return t
    | none =>
      match ← toPrimitive call .default v with
      | .string s => return timeOfUnits s
      | p => return timeOf (← floatOfSimple p)
  | parts => do return timeOfNumbers (← (parts.take 7).mapM (toNumber call))

/-- The date that a method is called on, and its time. -/
def thisDate (this : Value) : Eval (Ref × Float) := do
  match this with
  | .object r =>
    match (← object r).kind with
    | .date t => return (r, t)
    | _ => typeError "'this' is not a Date"
  | _ => typeError "'this' is not a Date"

/-! ## Reading and changing fields -/

/-- A method that tells something of a time, which may be nothing at all. -/
def timeGetter (f : Int → Value) : Caller → Value → List Value → Eval Value :=
  fun _ this _ ↦ do
    let (_, t) ← thisDate this
    return if t.isNaN then .number .nan else f (Number.truncated t)

def fieldGetter (i : Nat) : Caller → Value → List Value → Eval Value :=
  timeGetter fun t ↦ .number (.ofInt (((timeFields t)[i]?).getD 0))

/-- A method that tells the day of the week. -/
def weekdayGetter : Caller → Value → List Value → Eval Value :=
  timeGetter fun t ↦ .number (.ofInt ((t.fdiv Calendar.day + 4).fmod 7))

def putTime (r : Ref) (t : Float) : Eval Value := do
  change r fun o ↦ { o with kind := .date t }
  return .ofFloat t

/-- A method that replaces fields from one on, `count` of them at most.  A date without a time gets
one only by its year. -/
def fieldSetter (start count : Nat) : Caller → Value → List Value → Eval Value :=
  fun call this args ↦ do
    let (r, t) ← thisDate this
    let given := if args.isEmpty then [Value.undefined] else args.take count
    let fs ← given.mapM (toNumber call)
    let t := if t.isNaN && start = 0 then 0.0 else t
    if t.isNaN then return .number .nan
    if !fs.all Float.isFinite then return ← putTime r noTime
    let old := timeFields (Number.truncated t)
    putTime r
      (timeOfFields (old.take start ++ fs.map Number.truncated ++ old.drop (start + fs.length)))

/-! ## Text -/

/-- A method that writes a time; where there is none, it says so. -/
def timeText (f : Int → String) : Caller → Value → List Value → Eval Value :=
  fun _ this _ ↦ do
    let (_, t) ← thisDate this
    return .ofString (if t.isNaN then "Invalid Date" else f (Number.truncated t))

/-- A method that is there, but does not work. -/
def unimplemented : Caller → Value → List Value → Eval Value :=
  fun _ _ _ ↦ throwValue (.ofString "Function Unimplemented]")

/-! ## Tables -/

/-- Functions of the class of dates. -/
def dateStatics : List Builtin := [
  ⟨"now", 0, fun _ _ _ ↦ return .ofFloat 0.0⟩,
  ⟨"parse", 1,
    fun call _ args ↦ do return .ofFloat (timeOfUnits (← toUnits call (argument args 0)))⟩,
  ⟨"UTC", 7,
    fun call _ args ↦ do return .ofFloat (timeOfNumbers (← (args.take 7).mapM (toNumber call)))⟩]

/-- Methods that read or change a field, in local time and in that of the zero meridian. -/
def fieldMethods (zone : String) : List Builtin := [
  ⟨"get" ++ zone ++ "Date", 0, fieldGetter 2⟩,
  ⟨"get" ++ zone ++ "Day", 0, weekdayGetter⟩,
  ⟨"get" ++ zone ++ "FullYear", 0, fieldGetter 0⟩,
  ⟨"get" ++ zone ++ "Hours", 0, fieldGetter 3⟩,
  ⟨"get" ++ zone ++ "Milliseconds", 0, fieldGetter 6⟩,
  ⟨"get" ++ zone ++ "Minutes", 0, fieldGetter 4⟩,
  ⟨"get" ++ zone ++ "Month", 0, fieldGetter 1⟩,
  ⟨"get" ++ zone ++ "Seconds", 0, fieldGetter 5⟩,
  ⟨"set" ++ zone ++ "Date", 1, fieldSetter 2 1⟩,
  ⟨"set" ++ zone ++ "FullYear", 3, fieldSetter 0 3⟩,
  ⟨"set" ++ zone ++ "Hours", 4, fieldSetter 3 4⟩,
  ⟨"set" ++ zone ++ "Milliseconds", 1, fieldSetter 6 1⟩,
  ⟨"set" ++ zone ++ "Minutes", 3, fieldSetter 4 3⟩,
  ⟨"set" ++ zone ++ "Month", 2, fieldSetter 1 2⟩,
  ⟨"set" ++ zone ++ "Seconds", 2, fieldSetter 5 2⟩]

def dateMethods : List Builtin :=
  fieldMethods "" ++ fieldMethods "UTC" ++ [
  ⟨"getTime", 0, fun _ this _ ↦ do return .ofFloat (← thisDate this).2⟩,
  ⟨"getTimezoneOffset", 0, timeGetter fun _ ↦ .ofFloat 0.0⟩,
  ⟨"setTime", 1, fun call this args ↦ do
    let (r, _) ← thisDate this
    putTime r (timeOf (← toNumber call (argument args 0)))⟩,
  ⟨"toDateString", 0, timeText Calendar.plainDate⟩,
  ⟨"toISOString", 0, fun _ this _ ↦ do
    let (_, t) ← thisDate this
    if t.isNaN then rangeError "Invalid time value"
    return .ofString (Calendar.fullText (Number.truncated t))⟩,
  ⟨"toJSON", 1, fun call this _ ↦ do
    let o := Value.object (← toObject this)
    match ← toPrimitive call .number o with
    | .number x => if x.toFloat.isFinite then invokeMethod call o "toISOString" [] else return .null
    | _ => invokeMethod call o "toISOString" []⟩,
  ⟨"toLocaleDateString", 0, unimplemented⟩,
  ⟨"toLocaleString", 0, unimplemented⟩,
  ⟨"toLocaleTimeString", 0, unimplemented⟩,
  ⟨"toString", 0, timeText Calendar.plainText⟩,
  ⟨"toTimeString", 0, timeText Calendar.plainClock⟩,
  ⟨"toUTCString", 0, timeText Calendar.formalText⟩,
  ⟨"valueOf", 0, fun _ this _ ↦ do return .ofFloat (← thisDate this).2⟩,
  ⟨"[Symbol.toPrimitive]", 1, fun call this args ↦ do
    match this, argument args 0 with
    | .object r, .string hint =>
      if hint = Units.ofString "number" then usualPrimitive call false r
      else if hint = Units.ofString "string" ∨ hint = Units.ofString "default" then
        usualPrimitive call true r
      else typeError "invalid hint"
    | .object _, _ => typeError "invalid hint"
    | _, _ => typeError "Date.prototype[Symbol.toPrimitive] called on non object"⟩]

end Script
end ScriptWorkers
