import ScriptWorkers.Script.Display
import ScriptWorkers.Script.Iteration

/-!
# Listed functions

The functions of a context are listed in tables, each with its name, the number of parameters that
it announces, and what it does.
-/

namespace ScriptWorkers
namespace Script

open Eval

/-- A function of a context. -/
structure Builtin where
  /-- A name in brackets is that of a symbol. -/
  name : String
  /-- The number of parameters that it announces. -/
  length : Nat
  /-- What it does with `this` and its arguments. -/
  run : Caller → Value → List Value → Eval Value

namespace Builtin

def find? (table : List Builtin) (name : String) : Option Builtin := table.find? (·.name == name)

/-- The key under which a function of a name is found. -/
def key (name : String) : Key :=
  match name.toList with
  | '[' :: rest =>
    let word := String.ofList (rest.dropLast.drop "Symbol.".length)
    match firstSymbols.findIdx? (· == word) with
    | some i => .symbol i
    | none => .ofString name
  | _ => .ofString name

end Builtin

/-! ## Arguments -/

def shownValue (v : Value) : Eval String := return (← get).display v

/-- The function that an argument is, which has to be one. -/
def functionArgument (v : Value) (complaint : String) : Eval Ref := do
  match (← heap).function? v with
  | some f => return f
  | none => typeError complaint

/-- The value that nothing else would do for. -/
def requireSomething (v : Value) : Eval Unit := do
  if v.isNothing then typeError "cannot convert null or undefined to Object"

/-- The first answer that a question gets, asked about the numbers from `i` on, `n` of them. -/
def firstFrom {α : Type} (question : Nat → Eval (Option α)) (i : Nat) : Nat → Eval (Option α)
  | 0 => return none
  | n + 1 => do
    match ← question i with
    | some a => return some a
    | none => firstFrom question (i + 1) n

/-- The first answer that a question gets, asked about the numbers below `n` from the greatest
down. -/
def firstBelow {α : Type} (question : Nat → Eval (Option α)) : Nat → Eval (Option α)
  | 0 => return none
  | n + 1 => do
    match ← question n with
    | some a => return some a
    | none => firstBelow question n

/-- Does something for the numbers from `i` on, `n` of them. -/
def forFrom (action : Nat → Eval Unit) (i : Nat) : Nat → Eval Unit
  | 0 => return ()
  | n + 1 => do
    action i
    forFrom action (i + 1) n

/-- Asks a value for a new object. -/
def constructFor (call : Caller) (f : Value) (args : List Value) : Eval Value := do
  match f with
  | .object r =>
    if (← object r).isConstructor then call r (.new r) args else typeError "not a constructor"
  | _ => typeError "not a constructor"

end Script
end ScriptWorkers
