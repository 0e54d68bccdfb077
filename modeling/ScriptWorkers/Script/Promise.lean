import ScriptWorkers.Script.Convert

/-!
# Promises

A promise is settled once, for good or for bad.  Whoever waits for it gets the outcome in a job,
never at once, and what comes of that settles a promise again.

`settle` and `resolve` settle a promise, `waitFor` waits for one, and `runJob` runs what is due
after that.
-/

namespace ScriptWorkers
namespace Script

open Eval

/-- A promise that nothing is known of yet. -/
def makePromise : Eval Ref := make (.ofClass .promise (.promise (.pending [])))

def promise? (h : Heap) : Value → Option Ref
  | .object r =>
    match (h.get r).kind with
    | .promise _ => some r
    | _ => none
  | _ => none

/-! ## Settling -/

/-- Passes an outcome on in a job. -/
def passOn (good : Bool) (v : Value) (r : Reaction) : Eval Unit :=
  enqueue (.react (if good then r.onGood else r.onBad) good v r.derived)

/-- Settles a promise, unless it is settled. -/
def settle (p : Ref) (good : Bool) (v : Value) : Eval Unit := do
  match (← object p).kind with
  | .promise (.pending reactions) =>
    change p fun o ↦ { o with kind := .promise (if good then .good v else .bad v) }
    reactions.forM (passOn good v)
  | _ => return ()

/-- The function by which a promise would follow a value, if there is one. -/
def leaderMethod (call : Caller) (v : Value) : Eval (Except Value (Option Ref)) :=
  handling (do return .ok ((← heap).function? (← getNamed call v "then"))) (fun e ↦ return .error e)

/-- Settles a promise with a value, or lets it follow the value if that has a method for it. -/
def resolve (call : Caller) (p : Ref) (v : Value) : Eval Unit := do
  match v with
  | .object r =>
    if r = p then
      settle p false
        (← makeValue (.ofError .type (Units.ofString "cannot resolve promise with itself")))
    else
      match ← leaderMethod call v with
      | .error e => settle p false e
      | .ok (some f) => enqueue (.follow p v f)
      | .ok none => settle p true v
  | v => settle p true v

/-- Closes a latch.  Tells whether it was open. -/
def closeLatch (latch : Ref) : Eval Bool := do
  match (← object latch).kind with
  | .latch false =>
    change latch fun o ↦ { o with kind := .latch true }
    return true
  | _ => return false

/-- Settles a promise, unless its latch is closed. -/
def settleOnce (call : Caller) (p latch : Ref) (good : Bool) (v : Value) : Eval Unit := do
  if ← closeLatch latch then
    if good then resolve call p v else settle p false v

/-- The functions that settle a promise, which only one call of one of them does. -/
structure Settlers where
  latch : Ref
  good : Value
  bad : Value

/-- Makes the functions that settle a promise. -/
def settlersOf (p : Ref) : Eval Settlers := do
  let latch ← make { kind := .latch false }
  let good ← makeValue (.ofFunction (.native (.settle p latch true)) 1 [])
  let bad ← makeValue (.ofFunction (.native (.settle p latch false)) 1 [])
  return ⟨latch, good, bad⟩

/-! ## Waiting -/

/-- Waits for a promise; the result is a promise of what comes of it. -/
def waitFor (p : Ref) (onGood onBad : Option Ref) : Eval Value := do
  let derived ← makePromise
  let reaction : Reaction := ⟨onGood, onBad, derived⟩
  match (← object p).kind with
  | .promise (.pending rs) =>
    change p fun o ↦ { o with kind := .promise (.pending (rs ++ [reaction])) }
  | .promise (.good v) => passOn true v reaction
  | .promise (.bad v) => passOn false v reaction
  | _ => pure ()
  return .object derived

/-- A promise of a value; a promise is one of itself. -/
def promiseOf (call : Caller) (v : Value) : Eval Value := do
  if (promise? (← heap) v).isSome then return v
  let p ← makePromise
  resolve call p v
  return .object p

/-- Runs code that is to settle a promise: what it throws settles it for bad. -/
def settleBy (bad : Value → Eval Unit) (x : Eval Unit) : Eval Unit :=
  tryCatchThe Stop x fun stop ↦
    match stop with
    | .thrown e => bad e
    | .exhausted => bad .undefined

def runJob (call : Caller) : Job → Eval Unit
  | .call f => do
    let _ ← call f (.call .undefined) []
  | .react none good v derived => if good then resolve call derived v else settle derived false v
  | .react (some f) _ v derived =>
    settleBy (settle derived false) do
      let result ← call f (.call .undefined) [v]
      resolve call derived result
  | .follow p leader method => do
    let s ← settlersOf p
    settleBy (settleOnce call p s.latch false) do
      let _ ← call method (.call leader) [s.good, s.bad]

end Script
end ScriptWorkers
