import ScriptWorkers.Script.Builtin
import ScriptWorkers.Script.Promise

/-!
# Functions on promises

Several promises are waited for together by a tally: it has a place for each outcome and knows how
many are missing.  The last one that comes in settles the promise of them all.
-/

namespace ScriptWorkers
namespace Script

open Eval

/-- The promise that a method is called on. -/
def thisPromise (this : Value) : Eval Ref := do
  match promise? (← heap) this with
  | some p => return p
  | none => typeError "Promise.prototype.then called with invalid object"

/-- The class of promises that a function is called on has to be a class. -/
def requireClass (this : Value) : Eval Unit := do
  match this with
  | .object r =>
    if !(← object r).isConstructor then typeError "PromiseCapability: expected constructor"
  | _ => typeError "PromiseCapability: expected constructor"

/-- Makes a promise that a function settles. -/
def promiseFrom (call : Caller) (parent : Ref) (executor : Value) : Eval Value := do
  let f ← functionArgument executor "Promise executor is not callable"
  let p ← make { kind := .promise (.pending []), parent := some parent }
  let s ← settlersOf p
  handling
    (do let _ ← call f (.call .undefined) [s.good, s.bad])
    (settleOnce call p s.latch false)
  return .object p

/-! ## Several promises -/

/-- An outcome as an object that tells whether it is good. -/
def outcomeObject (good : Bool) (v : Value) : Eval Value :=
  makeValue { Obj.ofClass .object .plain with
    fields := [(.ofString "status", .plain (.ofString (if good then "fulfilled" else "rejected"))),
      (.ofString (if good then "value" else "reason"), .plain v)] }

def keptOutcome (how : Gathering) (v : Value) : Eval Value :=
  match how with
  | .value | .error => return v
  | .good => outcomeObject true v
  | .bad => outcomeObject false v

def aggregateObj (message : String) (errors : Value) : Obj :=
  let o := Obj.ofError .aggregate (Units.ofString message)
  o.put (.ofString "errors") (.data errors .hidden)

/-- Counts an outcome, or the end of all of them.  The last one settles the promise of them all. -/
def countDown (call : Caller) (tally : Ref) (isErrors : Bool) : Eval Unit := do
  match (← object tally).kind with
  | .tally missing values p =>
    change tally fun o ↦ { o with kind := .tally (missing - 1) values p }
    if missing = 1 then
      let all ← makeValue (.ofValues values.toList)
      if isErrors then
        settle p false (← makeValue (aggregateObj "no promise in Promise.any was fulfilled." all))
      else resolve call p all
  | _ => return ()

/-- Puts an outcome in its place. -/
def gather (call : Caller) (tally place latch : Ref) (how : Gathering) (v : Value) : Eval Unit := do
  if ← closeLatch latch then
    let kept ← keptOutcome how v
    change tally fun o ↦
      match o.kind with
      | .tally missing values p => { o with kind := .tally missing (values.set! place kept) p }
      | _ => o
    countDown call tally (how = .error)

/-- A function that puts an outcome in its place. -/
def gatherer (tally place latch : Ref) (how : Gathering) : Eval Value :=
  makeValue (.ofFunction (.native (.gather tally place latch how)) 1 [])

/-- Waits for the promises that one goes through in a value; `each` tells what is done with an
outcome, by its place and by the functions that settle the promise of them all. -/
def gatherAll (call : Caller) (this : Value) (v : Value) (isErrors : Bool)
    (each : Ref → Ref → Settlers → Eval (Value × Value)) : Eval Value := do
  requireClass this
  let p ← makePromise
  let s ← settlersOf p
  handling
    (do
      let toPromise ← functionArgument (← getNamed call this "resolve")
        "retrieving a non-callable promise resolver"
      let tally ← make { kind := .tally 1 #[] p }
      forEachOf call v fun x ↦ do
        let place ← match (← object tally).kind with
          | .tally missing values p =>
            change tally fun o ↦ { o with kind := .tally (missing + 1) (values.push .undefined) p }
            pure values.size
          | _ => pure 0
        let next ← call toPromise (.call this) [x]
        let (onGood, onBad) ← each tally place s
        let _ ← invokeMethod call next "then" [onGood, onBad]
      countDown call tally isErrors)
    (settleOnce call p s.latch false)
  return .object p

def makeLatch : Eval Ref := make { kind := .latch false }

/-! ## Tables -/

/-- Functions of the class of promises. -/
def promiseStatics : List Builtin := [
  ⟨"all", 1, fun call this args ↦
    gatherAll call this (argument args 0) false fun tally place s ↦ do
      return (← gatherer tally place (← makeLatch) .value, s.bad)⟩,
  ⟨"allSettled", 1, fun call this args ↦
    gatherAll call this (argument args 0) false fun tally place _ ↦ do
      let latch ← makeLatch
      return (← gatherer tally place latch .good, ← gatherer tally place latch .bad)⟩,
  ⟨"any", 1, fun call this args ↦
    gatherAll call this (argument args 0) true fun tally place s ↦ do
      return (s.good, ← gatherer tally place (← makeLatch) .error)⟩,
  ⟨"race", 1, fun call this args ↦ do
    requireClass this
    let p ← makePromise
    let s ← settlersOf p
    handling
      (do
        let toPromise ←
          functionArgument (← getNamed call this "resolve")
            "retrieving a non-callable promise resolver"
        forEachOf call (argument args 0) fun x ↦ do
          let next ← call toPromise (.call this) [x]
          let _ ← invokeMethod call next "then" [s.good, s.bad])
      (settleOnce call p s.latch false)
    return .object p⟩,
  ⟨"reject", 1, fun _ this args ↦ do
    requireClass this
    let p ← makePromise
    settle p false (argument args 0)
    return .object p⟩,
  ⟨"resolve", 1, fun call this args ↦ do
    match this with
    | .object _ => pure ()
    | _ => typeError "Promise.resolve() called on a non-object"
    let v := argument args 0
    let isOwn ← match promise? (← heap) v with
      | some _ => do pure ((← getNamed call v "constructor").same this)
      | none => pure false
    if isOwn then return v
    requireClass this
    let p ← makePromise
    resolve call p v
    return .object p⟩,
  ⟨"try", 1, fun call this args ↦ do
    match this with
    | .object _ => pure ()
    | _ => typeError "Promise.try() called on a non-object"
    requireClass this
    let p ← makePromise
    let outcome ← handling
      (do return Except.ok (← callFor call (argument args 0) .undefined args.tail))
      (fun e ↦ return .error e)
    match outcome with
    | .ok v => resolve call p v
    | .error e => settle p false e
    return .object p⟩,
  ⟨"withResolvers", 0, fun _ this _ ↦ do
    requireClass this
    let p ← makePromise
    let s ← settlersOf p
    makeValue { Obj.ofClass .object .plain with
      fields := [(.ofString "promise", .plain (.object p)), (.ofString "resolve", .plain s.good),
        (.ofString "reject", .plain s.bad)] }⟩]

def promiseMethods : List Builtin := [
  ⟨"then", 2, fun _ this args ↦ do
    let p ← thisPromise this
    let h ← heap
    waitFor p (h.function? (argument args 0)) (h.function? (argument args 1))⟩,
  ⟨"catch", 1, fun call this args ↦ invokeMethod call this "then" [.undefined, argument args 0]⟩,
  ⟨"finally", 1, fun call this args ↦ do
    match this with
    | .object _ => pure ()
    | _ => typeError "finally called with a non-object promise"
    match (← heap).function? (argument args 0) with
    | none => invokeMethod call this "then" [argument args 0, argument args 0]
    | some f =>
      let onGood ← makeValue (.ofFunction (.native (.afterwards f true)) 1 [])
      let onBad ← makeValue (.ofFunction (.native (.afterwards f false)) 1 [])
      invokeMethod call this "then" [onGood, onBad]⟩]

/-- Calls a function and then passes an outcome on. -/
def passAfter (call : Caller) (f : Ref) (good : Bool) (v : Value) : Eval Value := do
  let result ← call f (.call .undefined) []
  let p ← promiseOf call result
  let outcome ← makeValue (.ofFunction (.constant v good) 0 [])
  invokeMethod call p "then" [outcome]

end Script
end ScriptWorkers
