import ScriptWorkers.Script.Clone
import ScriptWorkers.Script.Library.Object

/-!
# What scripts can do with workers

The functions that a script finds in its context.  They convert their arguments, which may throw,
and only then ask the world for anything.

Worker objects are built on top of these functions: their members call them by their names, so a
script that puts something else under such a name changes what the members do.

This part is the interface between the script engine and the workers, the prelude included.

* `setHandler`, `addListener`, `postMessage`, `setInterval`, `clearInterval` — for the context
  itself.
* `workerCreate`, `workerPost`, `workerGetHandler`, `workerSetHandler`, `workerTerminate` — for the
  workers that it holds.
* `constructWorker` — worker objects.
* `hostFunctions` and the tables after it — under which names all this is found.
-/

namespace ScriptWorkers
namespace Script

open Eval

/-! ## Functions -/

/-- What a value is as a handler. -/
def handlerOf (h : Heap) (v : Value) : Handler :=
  match v with
  | .object r => if (h.get r).isCallable then .function r else .invalid
  | .undefined | .null => .clear
  | _ => .invalid

/-- What a script sees of a registered handler. -/
def valueOfRegistered : Registered → Value
  | .nothing => .null
  | .released => .undefined
  | .function f => .object f

/-- Registers a handler. -/
def setHandler (s : Source) (v : Value) : Eval Value := do
  ask (.handle s (handlerOf (← heap) v))
  return .undefined

/-- Registers a handler for an event, of which there is only one. -/
def addListener (call : Caller) (event : Value) (register : Eval Value) : Eval Value := do
  let name ← toUnits call event
  if name = Units.ofString "message" then register
  else
    note (.log (.unknownEvent name.text))
    return .undefined

/-- Posts to the owner. -/
def postMessage (call : Caller) (args : List Value) : Eval Value := do
  if args.length > 1 then note (.log .extraPostArguments)
  let j ← toMessage call (argument args 0)
  ask (.post (.ofJson j))
  return .undefined

/-- Sets up an interval.  The delay is in milliseconds. -/
def setInterval (call : Caller) (args : List Value) : Eval Value := do
  match argument args 0 with
  | .object f =>
    if (← object f).isCallable then
      let period ← match argument args 1 with
        | .undefined => pure none
        | delay => do pure (some ((← toNumber call delay) / 1000.0))
      let id ← ask (.startInterval f period)
      return .ofNat id.toNat
    else typeError "setInterval: callback is not a function"
  | _ => typeError "setInterval: callback is not a function"

/-- Ends an interval. -/
def clearInterval (call : Caller) (args : List Value) : Eval Value := do
  let id := argument args 0
  if id.isNothing then return .undefined
  ask (.stopInterval (← toWord call id))
  return .undefined

/-- Creates a worker and returns its number. -/
def workerCreate (call : Caller) (args : List Value) : Eval Value := do
  match checkConstructor args.length with
  | .error e => typeError e.message
  | .ok warnings =>
    warnings.forM fun line ↦ note (.log line)
    let script ← toUnits call (argument args 0)
    match ← ask (.create script.text) with
    | .ok id => return .ofNat (id.number (← get).earlier).toNat
    | .error e => raise .error e.message

/-- The worker whose number an argument is. -/
def workerArgument (call : Caller) (args : List Value) : Eval WorkerId := do
  let number ← toWord call (argument args 0)
  return .ofNumber (← get).earlier number

/-- Posts to a worker.  A value for a worker that is not held is not even looked at. -/
def workerPost (call : Caller) (args : List Value) : Eval Value := do
  if args.length > 2 then note (.log .extraPostArguments)
  let id ← workerArgument call args
  if ← ask (.holds id) then
    let j ← toMessage call (argument args 1)
    ask (.send id (.ofJson j))
  return .undefined

/-- The handler for the messages of a worker. -/
def workerGetHandler (call : Caller) (args : List Value) : Eval Value := do
  let id ← workerArgument call args
  return valueOfRegistered (← ask (.handler (.worker id)))

/-- Registers a handler for the messages of a worker. -/
def workerSetHandler (call : Caller) (args : List Value) : Eval Value := do
  let id ← workerArgument call args
  if ← ask (.holds id) then setHandler (.worker id) (argument args 1)
  else return .undefined

/-- Registers a handler for an event of a worker. -/
def workerAddListener (call : Caller) (args : List Value) : Eval Value := do
  if args.length < 3 then return .undefined
  addListener call (argument args 1) (workerSetHandler call [argument args 0, argument args 2])

/-- Terminates a worker. -/
def workerTerminate (call : Caller) (args : List Value) : Eval Value := do
  let id ← workerArgument call args
  ask (.retire id)
  return .undefined

/-- Registers a handler for an event of the script's own. -/
def addEventListener (call : Caller) (args : List Value) : Eval Value := do
  if args.length < 2 then return .undefined
  addListener call (argument args 0) (setHandler .owner (argument args 1))

/-! ## Worker objects -/

/-- Calls what a global name stands for. -/
def callNamed (call : Caller) (name : String) (args : Eval (List Value)) : Eval Value := do
  let f ← getName call { strict := true } (Units.ofString name)
  callValue call f .undefined (← args)

/-- Calls what a global name stands for, and forgets the result. -/
def tellNamed (call : Caller) (name : String) (args : Eval (List Value)) : Eval Value := do
  let _ ← callNamed call name args
  return .undefined

/-- What the creation of the worker behind an object has returned. -/
def privateId (this : Value) : Eval Value := do
  match this with
  | .object r =>
    match (← object r).kind with
    | .worker id => return id
    | _ => typeError "Private element does not exist on object"
  | v => if v.isNothing then notAnObject else typeError "Private element does not exist on object"

/-- Values as they are after they have been put in an array and taken out again. -/
def throughArray (vs : List Value) : List Value :=
  (Obj.ofItems (vs.map some)).items.toList.filterMap fun (_, f) ↦ f.value?

/-- Makes a worker object, which inherits from `parent`. -/
def constructWorker (call : Caller) (parent : Ref) (args : List Value) : Eval Value := do
  let id ← callNamed call "__krait_worker_create" (return throughArray args)
  makeValue { kind := .worker id, parent := some parent }

/-! ## Tables -/

/-- Functions that deal with workers. -/
def hostFunctions : List Builtin := [
  ⟨"setInterval", 2, fun call _ args ↦ setInterval call args⟩,
  ⟨"clearInterval", 1, fun call _ args ↦ clearInterval call args⟩,
  ⟨"__krait_worker_create", 1, fun call _ args ↦ workerCreate call args⟩,
  ⟨"__krait_worker_post", 2, fun call _ args ↦ workerPost call args⟩,
  ⟨"__krait_worker_get_onmessage", 1, fun call _ args ↦ workerGetHandler call args⟩,
  ⟨"__krait_worker_set_onmessage", 2, fun call _ args ↦ workerSetHandler call args⟩,
  ⟨"__krait_worker_add_listener", 3, fun call _ args ↦ workerAddListener call args⟩,
  ⟨"__krait_worker_terminate", 1, fun call _ args ↦ workerTerminate call args⟩]

/-- Functions that only a worker has. -/
def workerFunctions : List Builtin := [
  ⟨"postMessage", 1, fun call _ args ↦ postMessage call args⟩,
  ⟨"addEventListener", 2, fun call _ args ↦ addEventListener call args⟩,
  ⟨"__krait_get_onmessage", 0, fun _ _ _ ↦ do return valueOfRegistered (← ask (.handler .owner))⟩,
  ⟨"__krait_set_onmessage", 1, fun _ _ args ↦ setHandler .owner (argument args 0)⟩]

/-- Methods of worker objects. -/
def workerMethods : List Builtin := [
  ⟨"postMessage", 0, fun call this args ↦
    tellNamed call "__krait_worker_post" do return throughArray ((← privateId this) :: args)⟩,
  ⟨"addEventListener", 0, fun call this args ↦
    tellNamed call "__krait_worker_add_listener" do
      return throughArray ((← privateId this) :: args)⟩,
  ⟨"terminate", 0, fun call this _ ↦
    tellNamed call "__krait_worker_terminate" do return [← privateId this]⟩]

/-- What can be read of worker objects. -/
def workerGetters : List Builtin := [
  ⟨"threadId", 0, fun _ this _ ↦ privateId this⟩,
  ⟨"onmessage", 0, fun call this _ ↦
    callNamed call "__krait_worker_get_onmessage" do return [← privateId this]⟩]

/-- What can be written to worker objects. -/
def workerSetters : List Builtin := [
  ⟨"onmessage", 1, fun call this args ↦
    tellNamed call "__krait_worker_set_onmessage" do return [← privateId this, argument args 0]⟩]

/-- What a worker can read of its own. -/
def scopeGetters : List Builtin := [
  ⟨"onmessage", 0, fun call _ _ ↦ callNamed call "__krait_get_onmessage" (return [])⟩]

/-- What a worker can write of its own. -/
def scopeSetters : List Builtin := [
  ⟨"onmessage", 1,
    fun call _ args ↦ tellNamed call "__krait_set_onmessage" (return [argument args 0])⟩]

/-- Queues a job that calls a function. -/
def queueMicrotask : Builtin := ⟨"queueMicrotask", 0, fun _ _ args ↦ do
  enqueue (.call (← functionArgument (argument args 0) "value is not a Function object"))
  return .undefined⟩

end Script
end ScriptWorkers
