import ScriptWorkers.Script.Realm

/-!
# Conversions

Values are converted to strings and numbers by the rules of the language.  Converting an object
calls its methods.

* `toPrimitive` — the simple value of an object, by its own methods.
* `toUnits`, `toKey`, `toNumber`, `toWord` — strings, keys and numbers.
* `sum` and `arithmetic` — operations that convert their operands.
-/

namespace ScriptWorkers
namespace Script

open Eval

/-- The word for the type of a value. -/
def typeName (h : Heap) : Value → String
  | .undefined => "undefined"
  | .null => "object"
  | .bool _ => "boolean"
  | .number _ => "number"
  | .bigint _ => "bigint"
  | .string _ => "string"
  | .symbol _ => "symbol"
  | .object r => if (h.get r).isCallable then "function" else "object"

def truthy : Value → Bool
  | .undefined | .null => false
  | .bool b => b
  | .number x => !(x.toFloat == 0.0 || x.toFloat.isNaN)
  | .bigint n => n != 0
  | .string s => !s.isEmpty
  | .symbol _ | .object _ => true

/-! ## Objects -/

/-- The object around a simple value. -/
def boxed (v : Value) : Obj :=
  let o := Obj.ofClass (classOf v) (.boxed v)
  match v with
  | .string s => { o with fields := [(Obj.lengthKey, .data (.ofNat s.length) .frozen)] }
  | _ => o

def toObject (v : Value) : Eval Ref := do
  match v with
  | .object r => return r
  | .undefined | .null => notAnObject
  | v => make (boxed v)

/-- A method of a value, if it has one. -/
def getMethod (call : Caller) (v : Value) (k : Key) : Eval (Option Ref) := do
  match ← getMember call v k with
  | .undefined | .null => return none
  | m =>
    match (← heap).function? m with
    | some f => return some f
    | none => typeError "value returned for property of object is not a function"

/-- What a simple value is wanted for. -/
inductive Hint where
  | default
  | string
  | number
deriving DecidableEq

def Hint.word : Hint → String
  | default => "default"
  | string => "string"
  | number => "number"

/-- What a method of an object gives, if that is a simple value. -/
def simpleBy (call : Caller) (r : Ref) (method : String) : Eval (Option Value) := do
  match (← heap).function? (← getNamed call (.object r) method) with
  | some m =>
    match ← call m (.call (.object r)) [] with
    | .object _ => return none
    | v => return some v
  | none => return none

/-- The simple value that one of the two usual methods of an object gives.  An object that is being
converted already is empty. -/
def usualPrimitive (call : Caller) (asText : Bool) (r : Ref) : Eval Value := do
  let converting := (← get).converting
  if converting.contains r then return if asText then .string [] else .ofNat 0
  modify fun s ↦ { s with converting := r :: converting }
  restoring (fun s ↦ { s with converting := converting }) do
    let (first, second) := if asText then ("toString", "valueOf") else ("valueOf", "toString")
    match ← simpleBy call r first with
    | some v => return v
    | none =>
      match ← simpleBy call r second with
      | some v => return v
      | none => typeError "cannot convert object to primitive value"

/-- The simple value of a value.  An object may have a method of its own for that. -/
def toPrimitive (call : Caller) (hint : Hint) (v : Value) : Eval Value := do
  match v with
  | .object r =>
    match ← getMethod call v (.symbol toPrimitiveSymbol) with
    | some m =>
      match ← call m (.call v) [.ofString hint.word] with
      | .object _ => typeError "Symbol.toPrimitive cannot return an object"
      | p => return p
    | none => usualPrimitive call (hint = .string) r
  | v => return v

/-! ## Strings and numbers -/

/-- The string of a simple value. -/
def unitsOfSimple : Value → Eval Units
  | .undefined => return Units.ofString "undefined"
  | .null => return Units.ofString "null"
  | .bool b => return Units.ofString (if b then "true" else "false")
  | .number x => return x.text
  | .bigint k => return Units.ofString (toString k)
  | .string s => return s
  | .symbol _ => typeError "can't convert symbol to string"
  | .object _ => typeError "cannot convert object to primitive value"

def toUnits (call : Caller) (v : Value) : Eval Units := do
  unitsOfSimple (← toPrimitive call .string v)

def toKey (call : Caller) (v : Value) : Eval Key := do
  match ← toPrimitive call .string v with
  | .symbol id => return .symbol id
  | v => return .ofUnits (← unitsOfSimple v)

/-- The number of a simple value. -/
def floatOfSimple : Value → Eval Float
  | .undefined => return 0.0 / 0.0
  | .null => return 0.0
  | .bool b => return if b then 1.0 else 0.0
  | .number x => return x.toFloat
  | .string s => return numberOfUnits s
  | .bigint _ => typeError "argument must not be a bigint"
  | .symbol _ => typeError "argument must not be a symbol"
  | .object _ => return 0.0 / 0.0

def toNumber (call : Caller) (v : Value) : Eval Float := do
  floatOfSimple (← toPrimitive call .number v)

/-- The 32-bit number of a value. -/
def toWord (call : Caller) (v : Value) : Eval UInt32 := return wordOf (← toNumber call v)

/-- A number cut to a whole one, toward zero; what is no number is zero. -/
def wholePart (f : Float) : Float :=
  if f.isNaN then 0.0 else (if f < 0.0 then f.ceil else f.floor) + 0.0

def toWhole (call : Caller) (v : Value) : Eval Float := return wholePart (← toNumber call v)

/-- The length that a number stands for, zero if it is negative. -/
def lengthOfFloat (f : Float) : Nat :=
  let f := wholePart f
  if f < 0.0 then 0 else (if f > 9007199254740991.0 then 9007199254740991.0 else f).toUInt64.toNat

/-- The value as a name for a field of arrays and the like: a whole number that is not negative. -/
def toIndex (call : Caller) (v : Value) : Eval Nat := do
  let f ← toWhole call v
  if f < 0.0 || f > 9007199254740991.0 then rangeError "Index must be between 0 and  2^53 - 1"
  return f.toUInt64.toNat

/-! ## Operations -/

/-- The complaint about a number without bounds and one of another kind. -/
def mixedNumbers {α : Type} : Eval α :=
  typeError "cannot mix BigInt and other types, use explicit conversions"

/-- A simple value as a number, which may be one without bounds. -/
def numericOf (v : Value) : Eval (Float ⊕ Int) := do
  match v with
  | .bigint n => return .inr n
  | v => return .inl (← floatOfSimple v)

/-- An operation on the numbers of two simple values. -/
def onNumerics (real : Float → Float → Float) (whole : Int → Int → Int) (a b : Value) :
    Eval Value := do
  match ← numericOf a, ← numericOf b with
  | .inl x, .inl y => return .ofFloat (real x y)
  | .inr m, .inr n => return .bigint (whole m n)
  | _, _ => mixedNumbers

/-- The sum of two values: of strings if one of them is one. -/
def sum (call : Caller) (a b : Value) : Eval Value := do
  match a, b with
  | .number x, .number y => return .number (x.add y)
  | a, b =>
    let p ← toPrimitive call .default a
    let q ← toPrimitive call .default b
    match p, q with
    | .string s, q => return .string (s ++ (← unitsOfSimple q))
    | p, .string t => return .string ((← unitsOfSimple p) ++ t)
    | p, q => onNumerics (· + ·) (· + ·) p q

def arithmetic (call : Caller) (f : Number → Number → Number) (whole : Int → Int → Int)
    (a b : Value) : Eval Value := do
  match a, b with
  | .number x, .number y => return .number (f x y)
  | a, b =>
    let p ← toPrimitive call .number a
    let q ← toPrimitive call .number b
    onNumerics (fun x y ↦ (f (.double x) (.double y)).toFloat) whole p q

/-- The number with the other sign. -/
def negated (call : Caller) (v : Value) : Eval Value := do
  match v with
  | .number x => return .number x.neg
  | v =>
    match ← numericOf (← toPrimitive call .number v) with
    | .inl f => return .ofFloat (-f)
    | .inr n => return .bigint (-n)

/-! ## Arrays -/

/-- Strings with something between. -/
def joined (separator : Units) : List Units → Units
  | [] => []
  | [s] => s
  | s :: rest => s ++ separator ++ joined separator rest

def commaJoined (ss : List Units) : Units := joined [44] ss

/-- The length that a value has like an array. -/
def lengthOf (call : Caller) (v : Value) : Eval Nat := do
  return lengthOfFloat (← toNumber call (← getMember call v Obj.lengthKey))

/-- The items of a value that is like an array. -/
def itemsOf (call : Caller) (v : Value) : Eval (List Value) := do
  (List.range (← lengthOf call v)).mapM fun i ↦ getMember call v (.index i)

end Script
end ScriptWorkers
