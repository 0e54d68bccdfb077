import ScriptWorkers.Script.Property

/-!
# Walks

To go through a value is to ask it for a walk and the walk for one step after the other, both by
methods that a script may have written.  The walks that the language itself offers are objects that
remember how far they have got.

`startWalk` starts a walk, `takeStep` takes a step, `abandon` ends a walk early, and `forEachOf`
does all three.
-/

namespace ScriptWorkers
namespace Script

open Eval

/-- Calls a value for a function of the context. -/
def callFor (call : Caller) (f this : Value) (args : List Value) : Eval Value := do
  match (← heap).function? f with
  | some r => call r (.call this) args
  | none => typeError ("value with type \x60" ++ typeName (← heap) f ++ "\x60 is not callable")

/-- Calls a method of a value by its name. -/
def invokeMethod (call : Caller) (v : Value) (name : String) (args : List Value) : Eval Value := do
  callFor call (← getNamed call v name) v args

/-! ## Steps -/

/-- What a step of a walk tells: a value, or that there is none left. -/
def stepResult (v : Value) (done : Bool) : Eval Value :=
  makeValue { Obj.ofClass .object .plain with
    fields := [(.ofString "value", .plain v), (.ofString "done", .plain (.bool done))] }

def makeWalk (c : Class) (w : Walk) : Eval Value := makeValue (.ofClass c (.walk c w))

/-- The first character of a string, or a surrogate that stands alone, and what follows. -/
def splitChar : Units → Option (Units × Units)
  | [] => none
  | hi :: lo :: rest =>
    if Units.isHigh hi && Units.isLow lo then some ([hi, lo], rest) else some ([hi], lo :: rest)
  | [u] => some ([u], [])

/-- The next entry of a collection from a place on, and the place after it. -/
def nextEntry (next : Nat) : Entries → Option (Value × Value × Nat)
  | [] => none
  | some (k, v) :: _ => some (k, v, next + 1)
  | none :: rest => nextEntry (next + 1) rest

def Kind.entries? : Kind → Option Entries
  | .map es | .set es | .weakMap es | .weakSet es => some es
  | _ => none

/-- The part of an entry that a walk gives. -/
def portionOf (portion : Portion) (k v : Value) : Eval Value :=
  match portion with
  | .keys => return k
  | .values => return v
  | .entries => makeValue (.ofValues [k, v])

/-- The next value of a walk and the walk after it, if there is one. -/
def advance (call : Caller) : Walk → Eval (Option (Value × Walk))
  | .ended | .finds .. => return none
  | .items target next portion => do
    let length ← match (← object target).kind with
      | .typed _ items => pure items.size
      | _ => lengthOf call (.object target)
    if length ≤ next then return none
    let v ← if portion = .keys then pure .undefined
      else getMember call (.object target) (.index next)
    return some (← portionOf portion (.ofNat next) v, .items target (next + 1) portion)
  | .units rest =>
    match splitChar rest with
    | some (c, rest) => return some (.string c, .units rest)
    | none => return none
  | .entries target next portion => do
    let entries := (Kind.entries? (← object target).kind).getD []
    match nextEntry next (entries.drop next) with
    | some (k, v, next) => return some (← portionOf portion k v, .entries target next portion)
    | none => return none

/-- Takes the next step of a walk of a class. -/
def walkNext (c : Class) (call : Caller) (this : Value) (_ : List Value) : Eval Value := do
  let complain {α : Type} : Eval α :=
    typeError ("\x60this\x60 is not an " ++ (String.ofList (c.name.toList.filter (· ≠ ' '))))
  match this with
  | .object r =>
    match (← object r).kind with
    | .walk d w =>
      if c ≠ d then complain
      match ← advance call w with
      | some (v, w) =>
        change r fun o ↦ { o with kind := .walk c w }
        stepResult v false
      | none =>
        change r fun o ↦ { o with kind := .walk c .ended }
        stepResult .undefined true
    | _ => complain
  | _ => complain

/-! ## Going through a value -/

/-- A walk with the method that takes its steps. -/
structure Iteration where
  iterator : Value
  next : Value

/-- Starts a walk by a method of a value. -/
def startBy (call : Caller) (v : Value) (method : Ref) : Eval Iteration := do
  match ← call method (.call v) [] with
  | .object r => return ⟨.object r, ← getNamed call (.object r) "next"⟩
  | _ => typeError "returned iterator is not an object"

/-- Starts a walk through a value. -/
def startWalk (call : Caller) (v : Value) : Eval Iteration := do
  match ← getMethod call v (.symbol iteratorSymbol) with
  | some m => startBy call v m
  | none => typeError ("value with type \x60" ++ typeName (← heap) v ++ "\x60 is not iterable")

/-- The next value of a walk, if there is one. -/
def takeStep (call : Caller) (it : Iteration) : Eval (Option Value) := do
  match ← callFor call it.next it.iterator [] with
  | .object r =>
    if truthy (← getNamed call (.object r) "done") then return none
    else return some (← getNamed call (.object r) "value")
  | _ => typeError "next value should be an object"

/-- Ends a walk early because of something that has been thrown, which is thrown on. -/
def abandon {α : Type} (call : Caller) (it : Iteration) (e : Value) : Eval α := do
  handling
    (do
      if let some m ← getMethod call it.iterator (.ofString "return") then
        let _ ← call m (.call it.iterator) [])
    (fun _ ↦ return ())
  throwValue e

/-- Passes the values of a walk on, together with what came of those before, at most `n` of them. -/
def foldSteps {σ : Type} (call : Caller) (it : Iteration) (f : σ → Value → Eval σ) (s : σ) :
    Nat → Eval σ
  | 0 => throwThe Stop .exhausted
  | n + 1 => do
    match ← takeStep call it with
    | none => return s
    | some v =>
      let s ← handling (f s v) (abandon call it)
      foldSteps call it f s n

def stepBound : Nat := 10000000

def forEachOf (call : Caller) (v : Value) (f : Value → Eval Unit) : Eval Unit := do
  foldSteps call (← startWalk call v) (fun _ v ↦ f v) () stepBound

/-- The values that one goes through in a value. -/
def iterate (call : Caller) (v : Value) : Eval (List Value) := do
  let vs ← foldSteps call (← startWalk call v) (fun vs v ↦ return vs.push v) #[] stepBound
  return vs.toList

end Script
end ScriptWorkers
