import ScriptWorkers.Script.Element

/-!
# Changing fields

A field is changed by a description of which parts may be missing; what is missing stays as it is,
or is the least for a new field.  `Descriptor.result?` says which changes a field admits,
`defineOwn` makes them, and an assignment is such a change at the end of a search along the line
of inheritance.

`findName`, `setName` and `fillName` do the same for names, of which some are fields of the global
object.
-/

namespace ScriptWorkers
namespace Script

open Eval

/-! ## Descriptions -/

/-- A description of a field. -/
structure Descriptor where
  value : Option Value := none
  getter : Option (Option Ref) := none
  setter : Option (Option Ref) := none
  writable : Option Bool := none
  enumerable : Option Bool := none
  configurable : Option Bool := none

namespace Descriptor

/-- It speaks of functions to read and to write. -/
def isAccessor (d : Descriptor) : Bool := d.getter.isSome || d.setter.isSome

def isData (d : Descriptor) : Bool := d.value.isSome || d.writable.isSome

/-- The description of a field as a whole. -/
def ofField : Field → Descriptor
  | .data v f =>
    { value := some v, writable := some f.writable, enumerable := some f.enumerable,
      configurable := some f.configurable }
  | .accessor g s f =>
    { getter := some g, setter := some s, enumerable := some f.enumerable,
      configurable := some f.configurable }

/-- The description of an ordinary field. -/
def plain (v : Value) : Descriptor := ofField (.plain v)

/-- The field that is made where there was none. -/
def fresh (d : Descriptor) : Field :=
  let enumerable := d.enumerable.getD false
  let configurable := d.configurable.getD false
  if d.isAccessor then
    .accessor (d.getter.getD none) (d.setter.getD none) ⟨false, enumerable, configurable⟩
  else .data (d.value.getD .undefined) ⟨d.writable.getD false, enumerable, configurable⟩

/-- The field that comes of a field. -/
def merge (d : Descriptor) (f : Field) : Field :=
  let enumerable := d.enumerable.getD f.flags.enumerable
  let configurable := d.configurable.getD f.flags.configurable
  match f with
  | .data v flags =>
    if d.isAccessor then
      .accessor (d.getter.getD none) (d.setter.getD none) ⟨false, enumerable, configurable⟩
    else .data (d.value.getD v) ⟨d.writable.getD flags.writable, enumerable, configurable⟩
  | .accessor g s _ =>
    if d.isData then
      .data (d.value.getD .undefined) ⟨d.writable.getD false, enumerable, configurable⟩
    else .accessor (d.getter.getD g) (d.setter.getD s) ⟨false, enumerable, configurable⟩

/-- A field that is there for good admits the change: nothing but its value changes, and that only
if it can be written. -/
def admittedBy (d : Descriptor) (f : Field) : Bool :=
  d.configurable != some true && (d.enumerable.all (· == f.flags.enumerable)) &&
    (match f with
      | .data v flags =>
        !d.isAccessor && (flags.writable || (d.writable != some true && d.value.all (Value.same v)))
      | .accessor g s _ => !d.isData && d.getter.all (· == g) && d.setter.all (· == s))

/-- The field after the change, if it is admitted. -/
def result? (d : Descriptor) (extensible : Bool) : Option Field → Option Field
  | none => if extensible then some d.fresh else none
  | some f => if f.flags.configurable || d.admittedBy f then some (d.merge f) else none

end Descriptor

/-! ## Changes -/

/-- The length that a value stands for, if the array can have it. -/
def toArrayLength (call : Caller) (v : Value) : Eval Nat := do
  let n := (wordOf (← toNumber call v)).toNat
  let f ← toNumber call v
  if f == n.toFloat then return n else rangeError "bad length for array"

/-- The length that is left if an array is to be cut off at a length: items that are there for good
stay, with all before them. -/
def cutLength (o : Obj) (n : Nat) : Nat :=
  (o.items.toList.filter fun (_, f) ↦ !f.flags.configurable).foldl (fun n (i, _) ↦ max n (i + 1)) n

/-- Changes the length of an array. -/
def defineLength (call : Caller) (r : Ref) (d : Descriptor) : Eval Bool := do
  let value ← d.value.mapM (toArrayLength call)
  let o ← object r
  let d := { d with value := value.map .ofNat }
  match d.result? false (o.own? Obj.lengthKey), value with
  | some f, some n =>
    let left := cutLength o n
    change r (·.put Obj.lengthKey (.data (.ofNat left) f.flags))
    return left == n
  | some f, none =>
    change r (·.put Obj.lengthKey f)
    return true
  | none, _ => return false

/-- A description of an element leaves it as open as it always is. -/
def Descriptor.suitsElement (d : Descriptor) : Bool :=
  d.configurable != some false && d.enumerable != some false && d.writable != some false &&
    !d.isAccessor

/-- Changes an element of a typed array, which has to be there. -/
def defineElement (call : Caller) (r : Ref) (t : Element) (size i : Nat) (d : Descriptor) :
    Eval Bool := do
  if size ≤ i || !d.suitsElement then return false
  if let some v := d.value then
    let e ← elementOf call t v
    change r (·.put (.index i) (.plain e))
  return true

/-- Changes a field of an object, or adds one.  Tells whether that was possible. -/
def defineOwn (call : Caller) (r : Ref) (k : Key) (d : Descriptor) : Eval Bool := do
  let o ← object r
  if o.isArray && k = Obj.lengthKey then return ← defineLength call r d
  if let (.typed t items, .index i) := (o.kind, k) then
    return ← defineElement call r t items.size i d
  let beyond := match o.kind, k with
    | .array n, .index i => o.fixedLength && n ≤ i
    | _, _ => false
  if beyond then return false
  match d.result? o.extensible (o.own? k) with
  | some f =>
    change r (·.put k f)
    return true
  | none => return false

/-- Changes a field of an object, which has to be possible. -/
def defineOrThrow (call : Caller) (r : Ref) (k : Key) (d : Descriptor) : Eval Unit := do
  if !(← defineOwn call r k d) then
    typeError ("cannot redefine property: " ++ keyText (← get).symbols k)

def createData (call : Caller) (r : Ref) (k : Key) (v : Value) : Eval Unit :=
  defineOrThrow call r k (.plain v)

/-- Takes a field away from an object.  Tells whether it is gone. -/
def deleteOwn (r : Ref) (k : Key) : Eval Bool := do
  match (← object r).own? k with
  | none => return true
  | some f =>
    if f.flags.configurable && !(match (← object r).kind, k with
        | .typed .., .index _ => true
        | _, _ => false) then
      change r (·.erase k)
      return true
    else return false

/-- Takes a field away from an object, which has to be possible. -/
def deleteOrThrow (r : Ref) (k : Key) : Eval Unit := do
  if !(← deleteOwn r k) then typeError ("cannot delete property: " ++ keyText (← get).symbols k)

/-! ## Assignments -/

/-- Assigns to a field of an object itself, which may be new.  Tells whether that was possible. -/
def putOwn (call : Caller) (r : Ref) (k : Key) (x : Value) : Eval Bool := do
  match (← object r).own? k with
  | some (.data _ flags) =>
    if flags.writable then defineOwn call r k { value := some x } else return false
  | some (.accessor ..) => return false
  | none => defineOwn call r k (.plain x)

/-- The kind of the elements of an object, if it has any and the key is a number. -/
def elementAt? (h : Heap) (v : Value) (k : Key) : Option (Ref × Element) :=
  match v, k with
  | .object r, .index _ =>
    match (h.get r).kind with
    | .typed t _ => some (r, t)
    | _ => none
  | _, _ => none

/-- Assigns to a member of a value, on behalf of a receiver.  An accessor is called, wherever it
comes from; an element is converted first, and put nowhere if there is no room for it.  Tells
whether the assignment was possible. -/
def trySet (call : Caller) (v : Value) (k : Key) (x receiver : Value) : Eval Bool := do
  if let some (r, t) := elementAt? (← heap) v k then
    let e ← elementOf call t x
    change r (·.put k (.plain e))
    return true
  match memberField (← heap) v k with
  | some (.accessor _ (some s) _) =>
    let _ ← call s (.call receiver) [x]
    return true
  | some (.accessor _ none _) => return false
  | some (.data _ flags) =>
    if !flags.writable then return false
    match receiver with
    | .object r => putOwn call r k x
    | _ => return false
  | none =>
    match receiver with
    | .object r => putOwn call r k x
    | _ => return false

/-- Assigns to a member of a value.  An assignment that does not work is lost, unless the rules are
strict. -/
def setMember (call : Caller) (strict : Bool) (v : Value) (k : Key) (x : Value) : Eval Unit := do
  if v.isNothing then notAnObject
  if !(← trySet call v k x v) && strict then
    typeError ("cannot set non-writable property: " ++ keyText (← get).symbols k)

/-! ## Names -/

/-- What a name stands for, if anything. -/
def findName (call : Caller) (env : Env) (name : Units) : Eval (Option Value) := do
  match env.locals.lookup name with
  | some v => return some v
  | none =>
    match (← get).globals.lookup name with
    | some ⟨some v, _⟩ => return some v
    | some ⟨none, _⟩ => raise .reference "access of uninitialized binding"
    | none =>
      match (← heap).lookup globalRef (.ofUnits name) with
      | none => return none
      | f => return some (← readField call (.object globalRef) f)

def getName (call : Caller) (env : Env) (name : Units) : Eval Value := do
  match ← findName call env name with
  | some v => return v
  | none => raise .reference (name.text ++ " is not defined")

/-- Gives a declared name its value. -/
def fillName (name : Units) (v : Value) : Eval Unit :=
  modify fun r ↦
    { r with
      globals := r.globals.map fun (x, g) ↦
        (x, if x == name then { g with value := some v } else g) }

/-- Assigns to a name.  A new name becomes a field of the global object, unless the rules are
strict. -/
def setName (call : Caller) (env : Env) (name : Units) (v : Value) : Eval Unit := do
  match (← get).globals.lookup name with
  | some ⟨none, _⟩ =>
    raise .reference ("cannot assign to uninitialized binding \x60" ++ name.text ++ "\x60")
  | some ⟨some _, true⟩ => typeError ("cannot mutate an immutable binding '" ++ name.text ++ "'")
  | some ⟨some _, false⟩ => fillName name v
  | none =>
    let k := Key.ofUnits name
    if env.strict && ((← heap).lookup globalRef k).isNone then
      raise .reference
        ("cannot assign to uninitialized global property \x60" ++ name.text ++ "\x60")
    else setMember call env.strict (.object globalRef) k v

end Script
end ScriptWorkers
