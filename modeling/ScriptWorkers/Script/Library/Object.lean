import ScriptWorkers.Script.Builtin

/-!
# Objects

What scripts can do with any object: list its fields, describe and change them, and look at what it
inherits from.
-/

namespace ScriptWorkers
namespace Script

open Eval

/-! ## Descriptions as objects -/

/-- The object that describes a field. -/
def describe (f : Field) : Eval Value := do
  let part (name : String) (v : Value) : Key × Field := (.ofString name, .plain v)
  let function (f : Option Ref) : Value := (f.map Value.object).getD .undefined
  let first := match f with
    | .data v flags => [part "value" v, part "writable" (.bool flags.writable)]
    | .accessor g s _ => [part "get" (function g), part "set" (function s)]
  makeValue { Obj.ofClass .object .plain with
    fields := first ++ [part "enumerable" (.bool f.flags.enumerable),
      part "configurable" (.bool f.flags.configurable)] }

/-- A part of a description, if it is there. -/
def partOf (call : Caller) (d : Value) (name : String) : Eval (Option Value) := do
  if (memberField (← heap) d (.ofString name)).isSome then return some (← getNamed call d name)
  else return none

/-- A function in a description, if it is there. -/
def accessorPart (call : Caller) (d : Value) (name word : String) : Eval (Option (Option Ref)) := do
  match ← partOf call d name with
  | none => return none
  | some .undefined => return some none
  | some v =>
    let f ← functionArgument v ("Property descriptor " ++ word ++ " must be callable")
    return some (some f)

def toDescriptor (call : Caller) (d : Value) : Eval Descriptor := do
  match d with
  | .object _ =>
    let enumerable ← partOf call d "enumerable"
    let configurable ← partOf call d "configurable"
    let value ← partOf call d "value"
    let writable ← partOf call d "writable"
    let getter ← accessorPart call d "get" "getter"
    let setter ← accessorPart call d "set" "setter"
    let result : Descriptor :=
      { value := value, getter := getter, setter := setter, writable := writable.map truthy,
        enumerable := enumerable.map truthy, configurable := configurable.map truthy }
    if result.isAccessor && result.isData then
      typeError
        ("Invalid property descriptor. " ++
          "Cannot both specify accessors and a value or writable attribute")
    return result
  | _ => typeError "Cannot construct a property descriptor from a non-object"

/-- Changes the fields of an object by the descriptions that another one holds. -/
def defineAll (call : Caller) (r : Ref) (descriptions : Value) : Eval Unit := do
  let ds ← toObject descriptions
  let o ← object ds
  let keys := o.ownKeys.filter fun k ↦ ((o.own? k).map Field.enumerable).getD false
  let all ← keys.mapM fun k ↦ do return (k, ← toDescriptor call (← getMember call (.object ds) k))
  all.forM fun (k, d) ↦ defineOrThrow call r k d

/-! ## Inheritance -/

/-- What an object inherits from, or nothing. -/
def parentValue (r : Ref) : Eval Value := do
  match (← object r).parent with
  | some p => return .object p
  | none => return .null

/-- An object is among those that another one inherits from, at most `n` generations up. -/
def isAncestor (h : Heap) (r : Ref) : Nat → Ref → Bool
  | 0, _ => false
  | n + 1, s =>
    match (h.get s).parent with
    | some p => p == r || isAncestor h r n p
    | none => false

/-- Lets an object inherit from another one, or from nothing.  Tells whether that was possible:
nothing can inherit from itself, and the object that all others inherit from inherits from
nothing. -/
def setParent (r : Ref) (parent : Option Ref) : Eval Bool := do
  let h ← heap
  let o := h.get r
  if o.parent = parent then return true
  if !o.extensible || r = Class.object.proto then return false
  if parent.any fun p ↦ p = r || isAncestor h r (h.size + 1) p then return false
  change r fun o ↦ { o with parent := parent }
  return true

/-- The object, or nothing, that something may inherit from. -/
def parentOf? : Value → Option (Option Ref)
  | .object p => some (some p)
  | .null => some none
  | _ => none

/-! ## Lists of fields -/

/-- The names of the fields that show up in enumerations. -/
def shownNames (o : Obj) : List Units :=
  (o.ownKeys.filter fun k ↦ ((o.own? k).map Field.enumerable).getD false).filterMap Key.units?

/-- The keys of the fields that show up in enumerations, symbols included. -/
def shownKeys (o : Obj) : List Key :=
  o.ownKeys.filter fun k ↦ ((o.own? k).map Field.enumerable).getD false

def keyValue : Key → Value
  | .symbol id => .symbol id
  | k => .string (k.units?.getD [])

/-- The values of the fields that show up in enumerations, with their names.  A field that is gone
or hidden by the time it is its turn is left out. -/
def shownEntries (call : Caller) (v : Value) : Eval (List (Units × Value)) := do
  let r ← toObject v
  (shownNames (← object r)).filterMapM fun k ↦ do
    match (← object r).own? (.ofUnits k) with
    | some f =>
      if f.enumerable then return some (k, ← getMember call (.object r) (.ofUnits k))
      else return none
    | none => return none

/-- Copies the fields of a value that show up in enumerations to an object. -/
def assignFrom (call : Caller) (r : Ref) (source : Value) : Eval Unit := do
  if !source.isNothing then
    let s ← toObject source
    (shownKeys (← object s)).forM fun k ↦ do
      match (← object s).own? k with
      | some f =>
        if f.enumerable then
          setMember call true (.object r) k (← getMember call (.object s) k)
      | none => return ()

/-! ## Integrity -/

/-- Changes all fields of an object so that they stay, and their values too if it is frozen. -/
def sealFields (frozen : Bool) (o : Obj) : Obj :=
  let fix : Field → Field
    | .data v f => .data v ⟨f.writable && !frozen, f.enumerable, false⟩
    | .accessor g s f => .accessor g s ⟨f.writable, f.enumerable, false⟩
  let items := match o.items.toList with
    | [] => o.items
    | items => .sparse (items.map fun (i, f) ↦ (i, fix f))
  { o with
    items := items
    fields := o.fields.map fun (k, f) ↦ (k, fix f)
    extensible := false
    fixedLength := o.fixedLength || frozen }

/-- Makes all fields of an object stay, and their values too if it is to be frozen.  The elements of
a typed array never do. -/
def fixFields (call : Caller) (frozen : Bool) (r : Ref) : Eval Unit := do
  if let .typed _ items := (← object r).kind then
    change r fun o ↦ { o with extensible := false }
    if 0 < items.size then defineOrThrow call r (.index 0) { configurable := some false }
  change r (sealFields frozen)

/-- All fields of an object stay, and their values too if it is to be frozen. -/
def isSealed (frozen : Bool) (o : Obj) : Bool :=
  !o.extensible && o.ownKeys.all fun k ↦
    match o.own? k with
    | some (.data _ f) => !f.configurable && !(frozen && f.writable)
    | some (.accessor _ _ f) => !f.configurable
    | none => true

/-! ## Text -/

/-- The word in the text of an object that has no tag. -/
def builtinTag (o : Obj) : String :=
  match o.kind with
  | .array _ => "Array"
  | .function _ => "Function"
  | .error => "Error"
  | .boxed (.bool _) => "Boolean"
  | .boxed (.number _) => "Number"
  | .boxed (.string _) => "String"
  | .date _ => "Date"
  | .regexp .. => "RegExp"
  | _ => "Object"

/-- The text of any value as an object. -/
def objectText (call : Caller) (this : Value) : Eval Value := do
  match this with
  | .undefined => return .ofString "[object Undefined]"
  | .null => return .ofString "[object Null]"
  | v =>
    let r ← toObject v
    let tag ← match ← getMember call (.object r) (.symbol tagSymbol) with
      | .string s => pure s
      | _ => do pure (Units.ofString (builtinTag (← object r)))
    return .string (Units.ofString "[object " ++ tag ++ [93])

/-! ## Groups -/

/-- Puts a value into its group, which may be new. -/
def addToGroup {α : Type} (same : α → α → Bool) (k : α) (v : Value) :
    List (α × List Value) → List (α × List Value)
  | [] => [(k, [v])]
  | (j, vs) :: rest =>
    if same j k then (j, vs ++ [v]) :: rest else (j, vs) :: addToGroup same k v rest

/-- The values that one goes through in a value, in groups by what a function makes of each. -/
def groupsOf {α : Type} (call : Caller) (args : List Value) (toGroup : Value → Eval α)
    (same : α → α → Bool) : Eval (List (α × List Value)) := do
  requireSomething (argument args 0)
  let f ← functionArgument (argument args 1) "callback must be a callable object"
  let it ← startWalk call (argument args 0)
  let (groups, _) ← foldSteps call it (fun (groups, i) v ↦ do
    let k ← toGroup (← call f (.call .undefined) [v, .ofNat i])
    return (addToGroup same k v groups, i + 1)) ([], 0) stepBound
  return groups

/-! ## Tables -/

/-- The complaint about too few arguments. -/
def tooFew {α : Type} (name : String) (wanted found : Nat) : Eval α :=
  typeError (name ++ ": At least " ++ toString wanted ++
    (if wanted = 1 then " argument" else " arguments") ++
    " required, but only " ++ toString found ++ " passed")

/-- Functions of the class of all objects. -/
def objectStatics : List Builtin := [
  ⟨"assign", 2, fun call _ args ↦ do
    let r ← toObject (argument args 0)
    args.tail.forM (assignFrom call r)
    return .object r⟩,
  ⟨"create", 2, fun call _ args ↦ do
    match parentOf? (argument args 0) with
    | none =>
      typeError ("Object prototype may only be an Object or null: " ++
        (← shownValue (argument args 0)))
    | some parent =>
      let r ← make { parent := parent }
      match argument args 1 with
      | .undefined => pure ()
      | ds => defineAll call r ds
      return .object r⟩,
  ⟨"setPrototypeOf", 2, fun _ _ args ↦ do
    if args.length < 2 then tooFew "Object.setPrototypeOf" 2 args.length
    requireSomething (argument args 0)
    match parentOf? (argument args 1) with
    | none =>
      typeError ("expected an object or null, got " ++ typeName (← heap) (argument args 1))
    | some parent =>
      match argument args 0 with
      | .object r => if !(← setParent r parent) then typeError "can't set prototype of this object"
      | _ => pure ()
      return argument args 0⟩,
  ⟨"getPrototypeOf", 1, fun _ _ args ↦ do
    if args.isEmpty then tooFew "Object.getPrototypeOf" 1 0
    parentValue (← toObject (argument args 0))⟩,
  ⟨"defineProperty", 3, fun call _ args ↦ do
    match argument args 0 with
    | .object r =>
      let k ← toKey call (argument args 1)
      let d ← toDescriptor call (argument args 2)
      defineOrThrow call r k d
      return .object r
    | _ => typeError "Object.defineProperty called on non-object"⟩,
  ⟨"defineProperties", 2, fun call _ args ↦ do
    match argument args 0 with
    | .object r =>
      defineAll call r (argument args 1)
      return .object r
    | _ => typeError "Expected an object"⟩,
  ⟨"is", 2, fun _ _ args ↦ return .bool ((argument args 0).same (argument args 1))⟩,
  ⟨"keys", 1, fun _ _ args ↦ do
    let r ← toObject (argument args 0)
    makeValue (.ofValues ((shownNames (← object r)).map .string))⟩,
  ⟨"values", 1, fun call _ args ↦ do
    makeValue (.ofValues ((← shownEntries call (argument args 0)).map (·.2)))⟩,
  ⟨"entries", 1, fun call _ args ↦ do
    let entries ← shownEntries call (argument args 0)
    makeValue (.ofValues (← entries.mapM fun (k, v) ↦ makeValue (.ofValues [.string k, v])))⟩,
  ⟨"fromEntries", 1, fun call _ args ↦ do
    requireSomething (argument args 0)
    let r ← make (.ofClass .object .plain)
    forEachOf call (argument args 0) fun v ↦ do
      match v with
      | .object _ =>
        let k ← getMember call v (.index 0)
        let x ← getMember call v (.index 1)
        createData call r (← toKey call k) x
      | _ => typeError "cannot get key and value from primitive item of \x60iterable\x60"
    return .object r⟩,
  ⟨"getOwnPropertyDescriptor", 2, fun call _ args ↦ do
    let r ← toObject (argument args 0)
    let k ← toKey call (argument args 1)
    match (← object r).own? k with
    | some f => describe f
    | none => return .undefined⟩,
  ⟨"getOwnPropertyDescriptors", 1, fun call _ args ↦ do
    let r ← toObject (argument args 0)
    let result ← make (.ofClass .object .plain)
    (← object r).ownKeys.forM fun k ↦ do
      if let some f := (← object r).own? k then createData call result k (← describe f)
    return .object result⟩,
  ⟨"getOwnPropertyNames", 1, fun _ _ args ↦ do
    let r ← toObject (argument args 0)
    makeValue (.ofValues ((← object r).ownKeys.filterMap fun k ↦ k.units?.map .string))⟩,
  ⟨"getOwnPropertySymbols", 1, fun _ _ args ↦ do
    let r ← toObject (argument args 0)
    makeValue (.ofValues (((← object r).ownKeys.filter Key.isSymbol).map keyValue))⟩,
  ⟨"hasOwn", 2, fun call _ args ↦ do
    let r ← toObject (argument args 0)
    let k ← toKey call (argument args 1)
    return .bool ((← object r).own? k).isSome⟩,
  ⟨"seal", 1, fun call _ args ↦ do
    if let .object r := argument args 0 then fixFields call false r
    return argument args 0⟩,
  ⟨"freeze", 1, fun call _ args ↦ do
    if let .object r := argument args 0 then fixFields call true r
    return argument args 0⟩,
  ⟨"preventExtensions", 1, fun _ _ args ↦ do
    if let .object r := argument args 0 then change r fun o ↦ { o with extensible := false }
    return argument args 0⟩,
  ⟨"isSealed", 1, fun _ _ args ↦ do
    match argument args 0 with
    | .object r => return .bool (isSealed false (← object r))
    | _ => return .bool true⟩,
  ⟨"isFrozen", 1, fun _ _ args ↦ do
    match argument args 0 with
    | .object r => return .bool (isSealed true (← object r))
    | _ => return .bool true⟩,
  ⟨"isExtensible", 1, fun _ _ args ↦ do
    match argument args 0 with
    | .object r => return .bool (← object r).extensible
    | _ => return .bool false⟩,
  ⟨"groupBy", 2, fun call _ args ↦ do
    let groups ← groupsOf call args (toKey call) (· == ·)
    let r ← make {}
    groups.forM fun (k, vs) ↦ do createData call r k (← makeValue (.ofValues vs))
    return .object r⟩]

/-- Makes an accessor that shows and can be taken away again. -/
def defineAccessor (call : Caller) (this : Value) (args : List Value) (name : String)
    (toDescriptor : Ref → Descriptor) : Eval Value := do
  let r ← toObject this
  let f ← functionArgument (argument args 1) ("Object.prototype." ++ name ++ ": Expecting function")
  let k ← toKey call (argument args 0)
  defineOrThrow call r k { toDescriptor f with enumerable := some true, configurable := some true }
  return .undefined

/-- One of the two functions of the accessor that a key leads to. -/
def accessorHalf (call : Caller) (this : Value) (args : List Value)
    (part : Option Ref → Option Ref → Option Ref) : Eval Value := do
  let r ← toObject this
  let k ← toKey call (argument args 0)
  match (← heap).lookup r k with
  | some (.accessor g s _) => return ((part g s).map .object).getD .undefined
  | _ => return .undefined

def objectMethods : List Builtin := [
  ⟨"hasOwnProperty", 1, fun call this args ↦ do
    let k ← toKey call (argument args 0)
    let r ← toObject this
    return .bool ((← object r).own? k).isSome⟩,
  ⟨"propertyIsEnumerable", 1, fun call this args ↦ do
    if args.isEmpty then return .bool false
    let k ← toKey call (argument args 0)
    let r ← toObject this
    return .bool ((((← object r).own? k).map Field.enumerable).getD false)⟩,
  ⟨"toString", 0, fun call this _ ↦ objectText call this⟩,
  ⟨"toLocaleString", 0, fun call this _ ↦ invokeMethod call this "toString" []⟩,
  ⟨"valueOf", 0, fun _ this _ ↦ do return .object (← toObject this)⟩,
  ⟨"isPrototypeOf", 1, fun _ this args ↦ do
    match argument args 0 with
    | .object s =>
      let r ← toObject this
      let h ← heap
      return .bool (isAncestor h r (h.size + 1) s)
    | _ => return .bool false⟩,
  ⟨"__defineGetter__", 2, fun call this args ↦
    defineAccessor call this args "__defineGetter__" fun f ↦ { getter := some (some f) }⟩,
  ⟨"__defineSetter__", 2, fun call this args ↦
    defineAccessor call this args "__defineSetter__" fun f ↦ { setter := some (some f) }⟩,
  ⟨"__lookupGetter__", 1, fun call this args ↦ accessorHalf call this args fun g _ ↦ g⟩,
  ⟨"__lookupSetter__", 1, fun call this args ↦ accessorHalf call this args fun _ s ↦ s⟩]

/-- What can be read of any object. -/
def objectGetters : List Builtin := [
  ⟨"__proto__", 0, fun _ this _ ↦ do parentValue (← toObject this)⟩]

/-- What can be written to any object. -/
def objectSetters : List Builtin := [
  ⟨"__proto__", 1, fun _ this args ↦ do
    requireSomething this
    match parentOf? (argument args 0), this with
    | some parent, .object r =>
      if !(← setParent r parent) then typeError "__proto__ called on null or undefined"
    | _, _ => pure ()
    return .undefined⟩]

/-! ## Reflection -/

/-- The object that an argument is, for a function of reflection. -/
def reflected (args : List Value) : Eval Ref := do
  match argument args 0 with
  | .object r => return r
  | _ => typeError "target must be an object"

/-- Functions that do what the language does with objects. -/
def reflectFunctions : List Builtin := [
  ⟨"apply", 3, fun call _ args ↦ do
    let f ← functionArgument (argument args 0) "target must be a function"
    match argument args 2 with
    | .object _ => do call f (.call (argument args 1)) (← itemsOf call (argument args 2))
    | _ => typeError "args list must be an object"⟩,
  ⟨"construct", 2, fun call _ args ↦ do
    let constructor (v : Value) (complaint : String) : Eval Ref := do
      match v with
      | .object r => if (← object r).isConstructor then return r else typeError complaint
      | _ => typeError complaint
    let f ← constructor (argument args 0) "target must be a constructor"
    let target ← match args[2]? with
      | some v => constructor v "newTarget must be a constructor"
      | none => pure f
    match argument args 1 with
    | .object _ => do call f (.new target) (← itemsOf call (argument args 1))
    | _ => typeError "args list must be an object"⟩,
  ⟨"defineProperty", 3, fun call _ args ↦ do
    let r ← reflected args
    let k ← toKey call (argument args 1)
    match argument args 2 with
    | .object _ => do
      let d ← toDescriptor call (argument args 2)
      return .bool (← defineOwn call r k d)
    | _ => typeError "property descriptor must be an object"⟩,
  ⟨"deleteProperty", 2, fun call _ args ↦ do
    let r ← reflected args
    return .bool (← deleteOwn r (← toKey call (argument args 1)))⟩,
  ⟨"get", 2, fun call _ args ↦ do
    let r ← reflected args
    let k ← toKey call (argument args 1)
    readField call ((args[2]?).getD (.object r)) (memberField (← heap) (.object r) k)⟩,
  ⟨"getOwnPropertyDescriptor", 2, fun call _ args ↦ do
    let r ← reflected args
    let k ← toKey call (argument args 1)
    match (← object r).own? k with
    | some f => describe f
    | none => return .undefined⟩,
  ⟨"getPrototypeOf", 1, fun _ _ args ↦ do parentValue (← reflected args)⟩,
  ⟨"has", 2, fun call _ args ↦ do
    let r ← reflected args
    let k ← toKey call (argument args 1)
    return .bool (memberField (← heap) (.object r) k).isSome⟩,
  ⟨"isExtensible", 1, fun _ _ args ↦ do return .bool (← object (← reflected args)).extensible⟩,
  ⟨"ownKeys", 1, fun _ _ args ↦ do
    makeValue (.ofValues ((← object (← reflected args)).ownKeys.map keyValue))⟩,
  ⟨"preventExtensions", 1, fun _ _ args ↦ do
    change (← reflected args) fun o ↦ { o with extensible := false }
    return .bool true⟩,
  ⟨"set", 3, fun call _ args ↦ do
    let r ← reflected args
    let k ← toKey call (argument args 1)
    return .bool (← trySet call (.object r) k (argument args 2) ((args[3]?).getD (.object r)))⟩,
  ⟨"setPrototypeOf", 2, fun _ _ args ↦ do
    let r ← reflected args
    match parentOf? (argument args 1) with
    | some parent => return .bool (← setParent r parent)
    | none => typeError "proto must be an object or null"⟩]

end Script
end ScriptWorkers
