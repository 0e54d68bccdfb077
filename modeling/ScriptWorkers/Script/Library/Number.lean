import ScriptWorkers.Script.Figures
import ScriptWorkers.Script.Builtin

/-!
# Numbers and other simple values

The functions and methods of numbers, of numbers without bounds, of truth values and of symbols, and
the functions of mathematics.
-/

namespace ScriptWorkers
namespace Script

open Eval

/-! ## Simple values -/

/-- The simple value of a class that a value is or has inside. -/
def simpleOf? (h : Heap) (c : Class) (v : Value) : Option Value :=
  match v with
  | .object r =>
    match (h.get r).kind with
    | .boxed v => if classOf v = c then some v else none
    | _ => none
  | .undefined | .null => none
  | v => if classOf v = c then some v else none

/-- The simple value of a class that a method is called on. -/
def thisSimple (c : Class) (this : Value) : Eval Value := do
  match simpleOf? (← heap) c this with
  | some v => return v
  | none =>
    typeError ("'this' is not a " ++ (if c = .symbol ∨ c = .bigint then c.name else c.name.toLower))

/-- The method that returns the simple value itself. -/
def valueMethod (name : String) (c : Class) : Builtin := ⟨name, 0, fun _ this _ ↦ thisSimple c this⟩

/-- The method that returns the text of the simple value. -/
def textMethod (c : Class) : Builtin :=
  ⟨"toString", 0, fun _ this _ ↦ do return .string (← unitsOfSimple (← thisSimple c this))⟩

/-- The base that an argument asks for. -/
def baseOf (call : Caller) (v : Value) : Eval Nat := do
  match v with
  | .undefined => return 10
  | v =>
    let f ← toWhole call v
    if f < 2.0 || f > 36.0 then
      rangeError "radix must be an integer at least 2 and no greater than 36"
    return f.toUInt64.toNat

/-! ## Numbers -/

/-- The number that a method is called on. -/
def thisNumber (this : Value) : Eval Number := do
  match ← thisSimple .number this with
  | .number x => return x
  | _ => return .nan

/-- Digits in a base, taken up one after the other. -/
def accumulate (base : Nat) (ds : List Nat) : Float :=
  if base ≤ 16 && ds.length ≤ 16 then Float.ofNat (ds.foldl (fun n d ↦ n * base + d) 0)
  else ds.foldl (fun f d ↦ f * base.toFloat + d.toFloat) 0.0

/-- The whole number at the front of a text. -/
def wholeAtFront (base : Nat) (cs : List Char) : Float :=
  let (negative, cs) := Decimal.splitSign (cs.dropWhile isSpace)
  let (base, cs) := match base, Text.base? cs with
    | 0, some (16, ds) => (16, ds)
    | 16, some (16, ds) => (16, ds)
    | 0, _ => (10, cs)
    | b, _ => (b, cs)
  let ds := (cs.map Text.digitValue?).takeWhile fun d ↦ d.any (· < base)
  let f := accumulate base (ds.filterMap id)
  if ds.isEmpty then 0.0 / 0.0 else if negative then -f else f

/-- The longest part at the front of a text that is a number, among those of at most `n`
characters. -/
def numberAtFront (cs : List Char) : Nat → Float
  | 0 => 0.0 / 0.0
  | n + 1 =>
    match decimalOf? (cs.take (n + 1)) with
    | some f => f
    | none => numberAtFront cs n

/-- The whole number at the front of a value's text. -/
def parseInt : Builtin := ⟨"parseInt", 2, fun call _ args ↦ do
  let s ← toUnits call (argument args 0)
  let base := (← toWord call (argument args 1)).toNat
  if base = 1 ∨ base > 36 then return .number .nan
  return .ofFloat (wholeAtFront base (Units.chars (Units.escaped true) s))⟩

/-- The number at the front of a value's text. -/
def parseFloat : Builtin := ⟨"parseFloat", 1, fun call _ args ↦ do
  let s ← toUnits call (argument args 0)
  let cs := (Units.chars (Units.escaped true) s).dropWhile isSpace
  return .ofFloat (numberAtFront cs cs.length)⟩

def isWhole (f : Float) : Bool := f.isFinite && f.floor == f

/-- A question about a value that only numbers can answer with yes. -/
def numberQuestion (name : String) (p : Float → Bool) : Builtin :=
  ⟨name, 1, fun _ _ args ↦ return .bool (match argument args 0 with
    | .number x => p x.toFloat
    | _ => false)⟩

/-- Functions of the class of numbers. -/
def numberStatics : List Builtin := [
  parseFloat,
  parseInt,
  numberQuestion "isFinite" Float.isFinite,
  numberQuestion "isInteger" isWhole,
  numberQuestion "isNaN" Float.isNaN,
  numberQuestion "isSafeInteger" fun f ↦ isWhole f && f.abs ≤ 9007199254740991.0]

def numberMethods : List Builtin := [
  ⟨"toExponential", 1, fun call this args ↦ do
    let x ← thisNumber this
    let places ← match argument args 0 with
      | .undefined => pure none
      | v => do pure (some (← toWhole call v))
    if !x.toFloat.isFinite then return .string x.text
    if places.any fun p ↦ p < 0.0 || p > 100.0 then
      rangeError "toExponential() argument must be between 0 and 100"
    return .ofString (Figures.exponential (places.map (·.toUInt64.toNat)) x.toFloat)⟩,
  ⟨"toFixed", 1, fun call this args ↦ do
    let x ← thisNumber this
    let places ← toWhole call (argument args 0)
    if places < 0.0 || places > 100.0 then
      rangeError "toFixed() digits argument must be between 0 and 100"
    if !x.toFloat.isFinite || x.toFloat.abs ≥ 1e21 then return .string x.text
    return .ofString (Figures.fixed places.toUInt64.toNat x.toFloat)⟩,
  ⟨"toLocaleString", 0,
    fun _ this _ ↦ do return .ofString (plainNumber (← thisNumber this).toFloat)⟩,
  ⟨"toPrecision", 1, fun call this args ↦ do
    let x ← thisNumber this
    match argument args 0 with
    | .undefined => return .string x.text
    | v =>
      let count ← toWhole call v
      if !x.toFloat.isFinite then return .string x.text
      if count < 1.0 || count > 100.0 then
        rangeError "precision must be an integer at least 1 and no greater than 100"
      return .ofString (Figures.precise count.toUInt64.toNat x.toFloat)⟩,
  ⟨"toString", 1, fun call this args ↦ do
    let x ← thisNumber this
    let base ← baseOf call (argument args 0)
    if base = 10 || !x.toFloat.isFinite then return .string x.text
    return .ofString (Figures.inBase base x.toFloat)⟩,
  valueMethod "valueOf" .number]

def numberGlobals : List Builtin := [
  parseFloat,
  parseInt,
  ⟨"isFinite", 1, fun call _ args ↦ do return .bool (← toNumber call (argument args 0)).isFinite⟩,
  ⟨"isNaN", 1, fun call _ args ↦ do return .bool (← toNumber call (argument args 0)).isNaN⟩]

/-- The number of a value; here one without bounds has one. -/
def numberFrom (call : Caller) : List Value → Eval Float
  | [] => return 0.0
  | v :: _ => do
    match ← toPrimitive call .number v with
    | .bigint n => return Float.ofInt n
    | p => floatOfSimple p

/-! ## Numbers without bounds -/

/-- The number without bounds of a value; here a number has one, if it is whole. -/
def bigintFrom (call : Caller) (v : Value) : Eval Value := do
  match ← toPrimitive call .number v with
  | .number x =>
    if isWhole x.toFloat then return .bigint (Number.truncated x.toFloat)
    else rangeError ("cannot convert " ++ plainNumber x.toFloat ++ " to a BigInt")
  | p => return .bigint (← bigintOfSimple p)

/-- Cuts a number without bounds to so many bits. -/
def cutTo (signed : Bool) : Caller → Value → List Value → Eval Value :=
  fun call _ args ↦ do
    let bits ← toIndex call (argument args 0)
    let n ← toBigint call (argument args 1)
    return .bigint (if bits = 0 then 0 else wrapped bits signed n)

/-- Functions of the class of numbers without bounds. -/
def bigintStatics : List Builtin := [⟨"asIntN", 2, cutTo true⟩, ⟨"asUintN", 2, cutTo false⟩]

/-- The text of a number without bounds in a base. -/
def bigintText (call : Caller) (this base : Value) : Eval Value := do
  match ← thisSimple .bigint this with
  | .bigint n => return .ofString (Figures.intText (← baseOf call base) n)
  | _ => return .undefined

/-- Methods of numbers without bounds. -/
def bigintMethods : List Builtin := [
  ⟨"toLocaleString", 0, fun call this _ ↦ bigintText call this .undefined⟩,
  ⟨"toString", 0, fun call this args ↦ bigintText call this (argument args 0)⟩,
  valueMethod "valueOf" .bigint]

/-! ## Truth values and symbols -/

def booleanMethods : List Builtin := [textMethod .boolean, valueMethod "valueOf" .boolean]

/-- Methods of strings that get at the string itself. -/
def stringValueMethods : List Builtin := [textMethod .string, valueMethod "valueOf" .string]

/-- The description of a new symbol. -/
def descriptionFrom (call : Caller) (v : Value) : Eval (Option Units) := do
  match v with
  | .undefined => return none
  | v => return some (← toUnits call v)

/-- Functions of the class of symbols. -/
def symbolStatics : List Builtin := [
  ⟨"for", 1, fun call _ args ↦ do
    let key ← toUnits call (argument args 0)
    match (← get).registry.lookup key with
    | some id => return .symbol id
    | none =>
      let id ← makeSymbol (some key)
      modify fun r ↦ { r with registry := (key, id) :: r.registry }
      return .symbol id⟩,
  ⟨"keyFor", 1, fun _ _ args ↦ do
    match argument args 0 with
    | .symbol id =>
      match (← get).registry.find? (·.2 == id) with
      | some (key, _) => return .string key
      | none => return .undefined
    | _ => typeError "Symbol.keyFor: sym is not a symbol"⟩]

def symbolMethods : List Builtin := [
  ⟨"toString", 0, fun _ this _ ↦ do
    match ← thisSimple .symbol this with
    | .symbol id => return .ofString (keyText (← get).symbols (.symbol id))
    | _ => return .undefined⟩,
  valueMethod "valueOf" .symbol,
  { valueMethod "[Symbol.toPrimitive]" .symbol with length := 1 }]

/-- What can be read of a symbol. -/
def symbolGetters : List Builtin := [
  ⟨"description", 0, fun _ this _ ↦ do
    match ← thisSimple .symbol this with
    | .symbol id =>
      match ((← get).symbols[id]?).join with
      | some s => return .string s
      | none => return .undefined
    | _ => return .undefined⟩]

/-! ## Mathematics -/

/-- The better of two doubles in some order; what is no number wins. -/
def pick (better : Float → Float → Bool) (a b : Float) : Float :=
  if a.isNaN then a else if b.isNaN then b else if better a b then a else b

/-- Rounds to the nearest whole number; a half goes up. -/
def roundHalf (f : Float) : Float :=
  let whole := if f < 0.0 then f.ceil else f.floor
  if !f.isFinite then f
  else if (f - whole + 0.5).abs < Float.scaleB 1.0 (-52) then f.ceil
  else
    let r := f.round
    if r == 0.0 && Decimal.isNegative f then -0.0 else r

/-- The power of a number; one to an infinite power is no number. -/
def power (x y : Float) : Float :=
  if y.isNaN || (x.abs == 1.0 && y.isInf) then 0.0 / 0.0 else x.pow y

def leadingZeroBits (w : UInt32) : Nat := if w = 0 then 32 else 31 - w.toNat.log2

def ofNumber (name : String) (f : Float → Float) : Builtin :=
  ⟨name, 1, fun call _ args ↦ do return .ofFloat (f (← toNumber call (argument args 0)))⟩

def ofNumbers (name : String) (f : Float → Float → Float) : Builtin :=
  ⟨name, 2, fun call _ args ↦ do
    let x ← toNumber call (argument args 0)
    let y ← toNumber call (argument args 1)
    return .ofFloat (f x y)⟩

/-- The sum of all numbers of a collection, rounded only once.  Of no numbers, or of negative zeros
only, it is the negative zero. -/
def sumPrecisely (call : Caller) (v : Value) : Eval Float := do
  let fs ← (← iterate call v).mapM fun v ↦
    match v with
    | .number x => return x.toFloat
    | _ => typeError "Math.sumPrecise: all items must be numbers"
  let infinite (f : Float) : Bool := fs.any fun g ↦ g.isInf && g == f
  if fs.any Float.isNaN || (infinite (1.0 / 0.0) && infinite (-1.0 / 0.0)) then return 0.0 / 0.0
  if infinite (1.0 / 0.0) then return 1.0 / 0.0
  if infinite (-1.0 / 0.0) then return -1.0 / 0.0
  if fs.all fun f ↦ f == 0.0 && Decimal.isNegative f then return -0.0
  return Elementary.sumOf fs

def mathFunctions : List Builtin := [
  ofNumber "abs" Float.abs,
  ofNumber "acos" Float.acos,
  ofNumber "acosh" fun x ↦
    if x < 1.0 then 0.0 / 0.0 else (x + (x - 1.0).sqrt * (x + 1.0).sqrt).log,
  ofNumber "asin" Float.asin,
  ofNumber "asinh" fun x ↦
    let a := x.abs
    let r := Elementary.logOnePlus (a + a / (Elementary.hypotenuse 1.0 (1.0 / a) + 1.0 / a))
    if Decimal.isNegative x then -r else r,
  ofNumber "atan" Float.atan,
  ofNumber "atanh" fun x ↦ 0.5 * Elementary.logOnePlus (2.0 * x / (1.0 - x)),
  ofNumbers "atan2" Float.atan2,
  ofNumber "cbrt" Float.cbrt,
  ofNumber "ceil" Float.ceil,
  ⟨"clz32", 1,
    fun call _ args ↦ do return .ofNat (leadingZeroBits (← toWord call (argument args 0)))⟩,
  ofNumber "cos" Float.cos,
  ofNumber "cosh" Float.cosh,
  ofNumber "exp" Float.exp,
  ofNumber "expm1" Elementary.expLessOne,
  ofNumber "f16round" fun x ↦ Half.toFloat (Half.bits x),
  ofNumber "floor" Float.floor,
  ofNumber "fround" fun x ↦ x.toFloat32.toFloat,
  ⟨"hypot", 2, fun call _ args ↦ do
    return .ofFloat ((← args.mapM (toNumber call)).foldl Elementary.hypotenuse 0.0)⟩,
  ⟨"imul", 2, fun call _ args ↦ do
    let a ← toWord call (argument args 0)
    let b ← toWord call (argument args 1)
    return .number (.ofInt (wrapped 32 true (a * b).toNat))⟩,
  ofNumber "log" fun x ↦ if x < 0.0 then 0.0 / 0.0 else x.log,
  ofNumber "log1p" Elementary.logOnePlus,
  ofNumber "log10" fun x ↦ if x < 0.0 then 0.0 / 0.0 else x.log10,
  ofNumber "log2" fun x ↦ if x < 0.0 then 0.0 / 0.0 else x.log2,
  ⟨"max", 2, fun call _ args ↦ do
    let fs ← args.mapM (toNumber call)
    return .ofFloat
      (fs.foldl (pick fun a b ↦ b < a || (a == b && !Decimal.isNegative a)) (-1.0 / 0.0))⟩,
  ⟨"min", 2, fun call _ args ↦ do
    let fs ← args.mapM (toNumber call)
    return .ofFloat
      (fs.foldl (pick fun a b ↦ a < b || (a == b && Decimal.isNegative a)) (1.0 / 0.0))⟩,
  ofNumbers "pow" power,
  ⟨"random", 0, fun _ _ _ ↦ return .ofFloat 0.5⟩,
  ofNumber "round" roundHalf,
  ofNumber "sign" fun x ↦ if x > 0.0 then 1.0 else if x < 0.0 then -1.0 else x,
  ofNumber "sin" Float.sin,
  ofNumber "sinh" Float.sinh,
  ofNumber "sqrt" Float.sqrt,
  ⟨"sumPrecise", 1, fun call _ args ↦ do return .ofFloat (← sumPrecisely call (argument args 0))⟩,
  ofNumber "tan" Float.tan,
  ofNumber "tanh" Float.tanh,
  ofNumber "trunc" fun x ↦ if x < 0.0 then x.ceil else x.floor]

end Script
end ScriptWorkers
