import ScriptWorkers.Script.Library.Object
import ScriptWorkers.Script.Quoted

/-!
# Functions

What scripts can do with functions as objects: call them in other ways, tie arguments to them, and
read how they are written.
-/

namespace ScriptWorkers
namespace Script

open Eval

def simpleText : Expr → Units
  | .undefined => Units.ofString "undefined"
  | .null => Units.ofString "null"
  | .bool b => Units.ofString (if b then "true" else "false")
  | .number x => if x.isNegativeZero then Units.ofString "-0" else x.text
  | .bigint n => Units.ofString (toString n ++ "n")
  | .string s => quoted s
  | .name s => s
  | _ => Units.ofString "..."

/-- The text of a function as it is written. -/
def sourceText (style : Style) (body : Body) : Units :=
  match style, body with
  | .arrow, .expression e => Units.ofString "() => (" ++ simpleText e ++ Units.ofString ")"
  | .arrow, .statements [] => Units.ofString "() => \x7b \x7d"
  | .plain, .statements [] => Units.ofString "function (event) \x7b \x7d"
  | .plain, _ => Units.ofString "function (event) \x7b ... \x7d"
  | _, _ => Units.ofString "() => \x7b ... \x7d"

/-- A member of a class as it is written: its head, and a body of one statement. -/
def memberText (head statement : String) : String :=
  head ++ " \x7b\n            " ++ statement ++ "\n        \x7d"

/-- The members of worker objects as they are written, and the accessors of a worker's own
handler. -/
def memberSource? : Native → Option String
  | .member (.methods .worker) "postMessage" =>
    some (memberText "postMessage(...args)" "__krait_worker_post(this.#id, ...args);")
  | .member (.methods .worker) "addEventListener" =>
    some (memberText "addEventListener(...args)" "__krait_worker_add_listener(this.#id, ...args);")
  | .member (.methods .worker) "terminate" =>
    some (memberText "terminate()" "__krait_worker_terminate(this.#id);")
  | .member (.getters .worker) "threadId" =>
    some (memberText "get threadId()" "return this.#id;")
  | .member (.getters .worker) "onmessage" =>
    some (memberText "get onmessage()" "return __krait_worker_get_onmessage(this.#id);")
  | .member (.setters .worker) "onmessage" =>
    some (memberText "set onmessage(listener)" "__krait_worker_set_onmessage(this.#id, listener);")
  | .member .scopeGetters "onmessage" => some "get() \x7b return __krait_get_onmessage(); \x7d"
  | .member .scopeSetters "onmessage" =>
    some "set(listener) \x7b __krait_set_onmessage(listener); \x7d"
  | _ => none

/-- The text of a function.  One that is not written as a script has only a name. -/
def functionText (call : Caller) (this : Value) : Eval Value := do
  let f ← functionArgument this "not a function"
  let source := match (← object f).kind with
    | .function (.closure (.assembled _) _ _) => none
    | .function (.closure style body _) => some (sourceText style body)
    | .function (.native n) => (memberSource? n).map Units.ofString
    | _ => none
  match source with
  | some s => return .string s
  | none =>
    let v ← getNamed call this "name"
    let name ← if v.isNothing then pure [] else toUnits call v
    return .string
      (Units.ofString "function " ++ name ++ Units.ofString "() \x7b [native code] \x7d")

/-- The list that a value like an array stands for. -/
def listOf (call : Caller) (v : Value) : Eval (List Value) :=
  match v with
  | .object _ => itemsOf call v
  | _ => typeError "cannot create list from a primitive"

/-- The function that a method is called on. -/
def thisFunction (this : Value) : Eval Ref := do
  match (← heap).function? this with
  | some f => return f
  | none => typeError ((← shownValue this) ++ " is not a function")

/-- The number of parameters that are left of those that a length announces. -/
def lengthLeft (announced : Value) (taken : Nat) : Value :=
  match announced with
  | .number x =>
    let f := wholePart x.toFloat
    if f.isInf then (if f > 0.0 then .ofFloat f else .ofNat 0)
    else
      let rest := Number.truncated f - taken
      .number (.ofInt (max 0 rest))
  | _ => .ofNat 0

/-- Ties `this` and the first arguments to a function. -/
def bindFunction (call : Caller) (this : Value) (args : List Value) : Eval Value := do
  let f ← functionArgument this
    "cannot bind \x60this\x60 without a \x60[[Call]]\x60 internal method"
  let o ← object f
  let length ← if (o.own? Obj.lengthKey).isSome then getMember call this Obj.lengthKey
    else pure .undefined
  let name ← match ← getNamed call this "name" with
    | .string s => pure s
    | _ => pure []
  let bound := Callable.bound f (argument args 0) args.tail o.isConstructor
  makeValue { Obj.ofFunction bound 0 (Units.ofString "bound " ++ name) with
    parent := o.parent
    fields := [(Obj.lengthKey, .data (lengthLeft length args.tail.length) .fixed),
      (.ofString "name", .data (.string (Units.ofString "bound " ++ name)) .fixed)] }

def functionMethods : List Builtin := [
  ⟨"apply", 2, fun call this args ↦ do
    let f ← thisFunction this
    let list ← if (argument args 1).isNothing then pure [] else listOf call (argument args 1)
    call f (.call (argument args 0)) list⟩,
  ⟨"bind", 1, fun call this args ↦ bindFunction call this args⟩,
  ⟨"call", 1,
    fun call this args ↦ do call (← thisFunction this) (.call (argument args 0)) args.tail⟩,
  ⟨"toString", 0, fun call this _ ↦ functionText call this⟩,
  ⟨"[Symbol.hasInstance]", 1, fun call this args ↦ do
    match (← heap).function? this, argument args 0 with
    | some _, .object s =>
      match ← getNamed call this "prototype" with
      | .object p =>
        let h ← heap
        return .bool (isAncestor h p (h.size + 1) s)
      | _ => typeError "function has non-object prototype in instanceof check"
    | _, _ => return .bool false⟩]

end Script
end ScriptWorkers
