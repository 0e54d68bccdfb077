import ScriptWorkers.Decimal.Layout
import ScriptWorkers.Script.Builtin

/-!
# The console

A console prints lines.  The first argument is a text with gaps, which the others fill; what is left
of them follows behind it.  A gap is a percent sign and a letter, and two percent signs are one.

The lines are events of the context that prints them.
-/

namespace ScriptWorkers
namespace Script

open Eval

/-! ## Lines -/

/-- The text of a value in a line; unlike elsewhere, a symbol has one. -/
def lineText (call : Caller) (v : Value) : Eval String := do
  match v with
  | .symbol id => return keyText (← get).symbols (.symbol id)
  | v => return (← toUnits call v).text

def sixPlaces (f : Float) : String :=
  if f.isFinite then String.ofList (Decimal.fixed .toEven 6 f) else plainNumber f

/-- What fills a gap: a whole number, a number with six places, a value as it is shown, or its text.
Another letter makes no gap. -/
def fillGap (call : Caller) (c : Char) (v : Value) : Eval (Option String) := do
  if c = 'd' ∨ c = 'i' then
    match ← numericOf (← toPrimitive call .number v) with
    | .inl f => return some (plainNumber (f.floor + 0.0))
    | .inr n => return some (toString n)
  else if c = 'f' then return some (sixPlaces (← toNumber call v))
  else if c = 'o' ∨ c = 'O' then return some ((← get).display v)
  else if c = 's' then return some (← lineText call v)
  else return none

def fillLine (call : Caller) : List Char → List Value → Eval String
  | '%' :: '%' :: rest, args => do return "%" ++ (← fillLine call rest args)
  | '%' :: c :: rest, args => do
    match ← fillGap call c (args.headD .undefined) with
    | some s => return s ++ (← fillLine call rest args.tail)
    | none => return "%" ++ String.ofList [c] ++ (← fillLine call rest args)
  | c :: rest, args => do return String.ofList [c] ++ (← fillLine call rest args)
  | [], args => do
    let texts ← args.mapM (lineText call)
    return String.join (texts.map (" " ++ ·))

/-- The line that arguments make.  A single value is printed as it is. -/
def lineOf (call : Caller) : List Value → Eval String
  | [] => return ""
  | [v] => lineText call v
  | v :: rest => do fillLine call (← lineText call v).toList rest

def print (level : Level) (text : String) : Eval Unit := note (.console level text)

/-- A function that prints its arguments in a line. -/
def printing (level : Level) (front : String) : Caller → Value → List Value → Eval Value :=
  fun call _ args ↦ do
    print level (front ++ (← lineOf call args))
    return .undefined

/-! ## Labels -/

/-- The label that arguments give. -/
def labelOf (call : Caller) : List Value → Eval Units
  | [] => return Units.ofString "default"
  | v :: _ => toUnits call v

/-- The complaint about a label that no time is taken for. -/
def noTimer (label : Units) : Eval Unit :=
  print .warn ("Timer '" ++ label.text ++ "' doesn't exist")

/-- What is printed if something does not hold. -/
def complaintOf (symbols : Array (Option Units)) : List Value → List Value
  | [] => [.ofString "Assertion failed"]
  | .string s :: rest => .ofString ("Assertion failed: " ++ showSimple symbols (.string s)) :: rest
  | args => .ofString "Assertion failed" :: args

/-! ## Functions -/

def showing : Caller → Value → List Value → Eval Value :=
  fun _ _ args ↦ do
    let r ← get
    print .info (showFields r.heap r.symbols (argument args 0))
    return .undefined

def consoleFunctions : List Builtin := [
  ⟨"assert", 0, fun call _ args ↦ do
    if !truthy (argument args 0) then
      print .error (← lineOf call (complaintOf (← get).symbols args.tail))
    return .undefined⟩,
  ⟨"clear", 0, fun _ _ _ ↦ return .undefined⟩,
  ⟨"debug", 0, printing .info ""⟩,
  ⟨"error", 0, printing .error ""⟩,
  ⟨"info", 0, printing .info ""⟩,
  ⟨"log", 0, printing .info ""⟩,
  ⟨"trace", 0, fun call _ args ↦ do
    print .info (← lineOf call args)
    (← get).stack.forM fun name ↦ print .info name.text
    return .undefined⟩,
  ⟨"warn", 0, printing .warn ""⟩,
  ⟨"count", 0, fun call _ args ↦ do
    let label ← labelOf call args
    let n := (((← get).counts.lookup label).getD 0) + 1
    modify fun r ↦ { r with counts := (label, n) :: r.counts.filter (·.1 != label) }
    print .info ("count " ++ label.text ++ ": " ++ toString n)
    return .undefined⟩,
  ⟨"countReset", 0, fun call _ args ↦ do
    let label ← labelOf call args
    modify fun r ↦ { r with counts := r.counts.filter (·.1 != label) }
    print .warn ("countReset " ++ label.text)
    return .undefined⟩,
  ⟨"group", 0, printing .info "group: "⟩,
  ⟨"groupCollapsed", 0, printing .info "group: "⟩,
  ⟨"groupEnd", 0, fun _ _ _ ↦ return .undefined⟩,
  ⟨"time", 0, fun call _ args ↦ do
    let label ← labelOf call args
    if (← get).timers.contains label then print .warn ("Timer '" ++ label.text ++ "' already exist")
    else modify fun r ↦ { r with timers := label :: r.timers }
    return .undefined⟩,
  ⟨"timeLog", 0, fun call _ args ↦ do
    let label ← labelOf call args
    if (← get).timers.contains label then
      let rest ← args.tail.mapM shownValue
      print .info (label.text ++ ": 0 ms" ++ String.join (rest.map (" " ++ ·)))
    else noTimer label
    return .undefined⟩,
  ⟨"timeEnd", 0, fun call _ args ↦ do
    let label ← labelOf call args
    if (← get).timers.contains label then
      modify fun r ↦ { r with timers := r.timers.filter (· != label) }
      print .info (label.text ++ ": 0 ms - timer removed")
    else noTimer label
    return .undefined⟩,
  ⟨"dir", 0, showing⟩,
  ⟨"dirxml", 0, showing⟩]

end Script
end ScriptWorkers
