import ScriptWorkers.Script.Library.Collection
import ScriptWorkers.Script.Library.Date
import ScriptWorkers.Script.Library.Number
import ScriptWorkers.Script.Library.Pattern
import ScriptWorkers.Script.Library.Promise
import ScriptWorkers.Script.Library.Typed
import ScriptWorkers.Script.Source

/-!
# Making objects

Every class can be asked for a new object, and some of them convert a value if they are called like
a function.
-/

namespace ScriptWorkers
namespace Script

open Eval

/-! ## Simple values -/

/-- The string of a value; here a symbol has one. -/
def stringFrom (call : Caller) : List Value → Eval Value
  | [] => return .string []
  | .symbol id :: _ => do return .ofString (keyText (← get).symbols (.symbol id))
  | v :: _ => do return .string (← toUnits call v)

def plainStringFrom (call : Caller) : List Value → Eval Value
  | [] => return .string []
  | v :: _ => do return .string (← toUnits call v)

/-! ## Errors -/

/-- An error with the message and the cause that are given, if any. -/
def errorFrom (call : Caller) (parent : Ref) (message options : Value) : Eval Obj := do
  let o : Obj := { kind := .error, parent := some parent }
  let o ← match message with
    | .undefined => pure o
    | v => do pure (o.put (.ofString "message") (.data (.string (← toUnits call v)) .hidden))
  match options with
  | .object _ =>
    if (memberField (← heap) options (.ofString "cause")).isSome then
      return o.put (.ofString "cause") (.data (← getNamed call options "cause") .hidden)
    else return o
  | _ => return o

/-- An error, which may be one of several errors. -/
def makeError (call : Caller) (k : ErrorKind) (parent : Ref) (args : List Value) : Eval Value := do
  match k with
  | .aggregate =>
    let o ← errorFrom call parent (argument args 1) (argument args 2)
    let errors ← makeValue (.ofValues (← iterate call (argument args 0)))
    makeValue (o.put (.ofString "errors") (.data errors .hidden))
  | _ => do makeValue (← errorFrom call parent (argument args 0) (argument args 1))

/-- Functions of the class of errors. -/
def errorStatics : List Builtin := [
  ⟨"isError", 1, fun _ _ args ↦ do
    match argument args 0 with
    | .object r =>
      match (← object r).kind with
      | .error => return .bool true
      | _ => return .bool false
    | _ => return .bool false⟩]

def errorMethods : List Builtin := [
  ⟨"toString", 0, fun call this _ ↦ do
    match this with
    | .object _ =>
      let part (name default : String) : Eval Units := do
        match ← getNamed call this name with
        | .undefined => return Units.ofString default
        | v => toUnits call v
      let name ← part "name" "Error"
      let message ← part "message" ""
      return .string (if name.isEmpty then message else if message.isEmpty then name
        else name ++ Units.ofString ": " ++ message)
    | _ => typeError "'this' is not an Object"⟩]

/-! ## Functions -/

/-- A function with its surroundings.  One that can make objects has an object for them to inherit
from. -/
def makeFunction (style : Style) (env : Env) (body : Body) (name : Units) : Eval Ref := do
  let arity := match style with
    | .plain => 1
    | .assembled parameters => parameters.length
    | _ => 0
  let f ← make (.ofFunction (.closure style body env) arity name)
  if (← object f).isConstructor then
    let proto ← make
      { Obj.ofClass .object .plain with
        fields := [(.ofString "constructor", .data (.object f) .hidden)] }
    change f (·.putNamed (.ofString "prototype") (.data (.object proto) ⟨true, false, false⟩))
  return f

/-- The function that texts make: the last is what it does, the others name its parameters. -/
def assemble (call : Caller) (args : List Value) : Eval Value := do
  let texts ← args.mapM fun v ↦ do return (← toUnits call v).text
  let parameters := ",".intercalate texts.dropLast
  match parametersOf? parameters, bodyOf? (texts.getLast?.getD "") with
  | some ps, some body =>
    let env : Env := { this := .object globalRef }
    return .object (← makeFunction (.assembled ps) env body (Units.ofString "anonymous"))
  | none, _ => raise .grammar "failed to parse function parameters: unexpected token"
  | _, none => raise .grammar "failed to parse function body: unexpected token"

/-! ## Classes -/

/-- Classes that also do something without being asked for a new object. -/
def isConversion : Class → Bool
  | .object | .function | .array | .string | .number | .boolean | .symbol | .bigint
  | .date | .regexp | .error _ => true
  | _ => false

/-- Lets a new object inherit from something else. -/
def inheriting (parent : Ref) (v : Value) : Eval Value := do
  match v with
  | .object r =>
    change r fun o ↦ { o with parent := some parent }
    return v
  | v => return v

/-- An object of a class that inherits from something. -/
def makeOf (parent : Ref) (k : Kind) : Eval Ref := make { kind := k, parent := some parent }

/-- A new object of a class, which inherits from `parent`. -/
def construct (call : Caller) (c : Class) (parent : Ref) (args : List Value) : Eval Value := do
  let first := argument args 0
  match c with
  | .object =>
    if first.isNothing || parent ≠ Class.object.proto then return .object (← makeOf parent .plain)
    else return .object (← toObject first)
  | .function => assemble call args
  | .array => do inheriting parent (← arrayFrom args)
  | .string => do inheriting parent (← makeValue (boxed (← plainStringFrom call args)))
  | .number => do inheriting parent (← makeValue (boxed (.ofFloat (← numberFrom call args))))
  | .boolean => do inheriting parent (← makeValue (boxed (.bool (truthy first))))
  | .symbol => typeError "Symbol is not a constructor"
  | .bigint => typeError "BigInt is not a constructor"
  | .date => do return .object (← makeOf parent (.date (← timeFrom call args)))
  | .regexp => patternFrom call parent args
  | .map =>
    let r ← makeOf parent (.map [])
    fillMap call r first
    return .object r
  | .set =>
    let r ← makeOf parent (.set [])
    fillSet call r first
    return .object r
  | .weakMap =>
    let r ← makeOf parent (.weakMap [])
    fillMap call r first
    return .object r
  | .weakSet =>
    let r ← makeOf parent (.weakSet [])
    fillSet call r first
    return .object r
  | .weakRef =>
    weakTarget .weakRef "" first
    return .object (← makeOf parent (.weakRef first))
  | .promise => promiseFrom call parent first
  | .error k => makeError call k parent args
  | .typed t => do return .object (← makeOf parent (← typedFrom call t args))
  | .typedArray => typeError "the TypedArray constructor should never be called directly"
  | .proxy =>
    match first, argument args 1 with
    | .object _, .object _ => return .object (← makeOf Class.object.proto .plain)
    | .object _, _ => typeError "Proxy constructor called with non-object handler"
    | _, _ => typeError "Proxy constructor called with non-object target"
  | .arrayBuffer => bufferFrom call false parent args
  | .sharedArrayBuffer => bufferFrom call true parent args
  | .dataView => dataViewFrom call parent args
  | _ => return .object (← makeOf parent .plain)

/-- A class that is called like a function. -/
def convert (call : Caller) (c : Class) (args : List Value) : Eval Value := do
  match c with
  | .string => stringFrom call args
  | .number => do return .ofFloat (← numberFrom call args)
  | .boolean => return .bool (truthy (argument args 0))
  | .symbol => do return .symbol (← makeSymbol (← descriptionFrom call (argument args 0)))
  | .bigint => bigintFrom call (argument args 0)
  | .date => return .ofString (Calendar.plainText 0)
  | .regexp =>
    match argument args 0, argument args 1 with
    | .object r, .undefined =>
      if (pattern? (← heap) (.object r)).isSome then return .object r
      else construct call c c.proto args
    | _, _ => construct call c c.proto args
  | .promise => typeError "Promise NewTarget cannot be undefined"
  | .worker => typeError "class constructor cannot be invoked without 'new'"
  | .typed t => typeError ("new target was undefined when constructing an " ++ t.name)
  | .typedArray => construct call c c.proto args
  | .arrayBuffer | .sharedArrayBuffer =>
    typeError (c.name ++ ".constructor called with undefined new target")
  | .dataView => typeError "new target is undefined"
  | .proxy => typeError "Proxy constructor called on undefined new target"
  | c =>
    if isConversion c then construct call c c.proto args
    else typeError ("calling a builtin " ++ c.name ++ " constructor without new is forbidden")

end Script
end ScriptWorkers
