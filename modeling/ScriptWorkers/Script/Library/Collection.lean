import ScriptWorkers.Script.Library.Object

/-!
# Collections

Maps and sets keep what is in them in the order it came in.  What is taken out leaves a gap, so that
a walk that is under way finds its place again.
-/

namespace ScriptWorkers
namespace Script

open Eval

/-! ## Entries -/

namespace Entries

def find? (es : Entries) (k : Value) : Option (Value × Value) :=
  es.findSome? fun e ↦ e.filter fun e ↦ e.1.alike k

def has (es : Entries) (k : Value) : Bool := (es.find? k).isSome

/-- Puts an entry in place of one of the same key, or at the end. -/
def put (es : Entries) (k v : Value) : Entries :=
  if es.has k then es.map (·.map fun e ↦ if e.1.alike k then (e.1, v) else e)
  else es ++ [some (k, v)]

/-- Takes the entry of a key out. -/
def erase (es : Entries) (k : Value) : Entries := es.map (·.filter fun e ↦ !e.1.alike k)

/-- What is left if everything is taken out. -/
def clear (es : Entries) : Entries := es.map fun _ ↦ none

/-- The entries without the gaps. -/
def toList (es : Entries) : List (Value × Value) := es.filterMap id

def size (es : Entries) : Nat := es.toList.length

end Entries

/-- A key as it is kept; there is only one zero. -/
def keptKey : Value → Value
  | .number x => if x.isNegativeZero then .ofNat 0 else .number x
  | v => v

/-- The entries of a kind of collection. -/
def entriesIn? : Class → Kind → Option Entries
  | .map, .map es | .set, .set es | .weakMap, .weakMap es | .weakSet, .weakSet es => some es
  | _, _ => none

/-- A kind of collection with other entries. -/
def Kind.withEntries (es : Entries) : Kind → Kind
  | .map _ => .map es
  | .set _ => .set es
  | .weakMap _ => .weakMap es
  | .weakSet _ => .weakSet es
  | k => k

/-- The collection that a method is called on, with its entries. -/
def thisEntries (c : Class) (complaint : String) (this : Value) : Eval (Ref × Entries) := do
  match this with
  | .object r =>
    match entriesIn? c (← object r).kind with
    | some es => return (r, es)
    | none => typeError complaint
  | _ => typeError complaint

/-- Gives a collection other entries. -/
def putEntries (r : Ref) (es : Entries) : Eval Unit :=
  change r fun o ↦ { o with kind := o.kind.withEntries es }

/-- The complaint about a method of maps or sets that is called on something else. -/
def notCollection (c : Class) : String := "'this' is not a " ++ c.name

/-! ## Methods of maps and sets -/

/-- Calls a function for each entry, also for those that come in meanwhile, `n` at most. -/
def forEachEntry (r : Ref) (action : Value → Value → Eval Unit) (next : Nat) : Nat → Eval Unit
  | 0 => throwThe Stop .exhausted
  | n + 1 => do
    let es := (Kind.entries? (← object r).kind).getD []
    match nextEntry next (es.drop next) with
    | some (k, v, next) =>
      action k v
      forEachEntry r action next n
    | none => return ()

/-- A method that calls a function for each entry. -/
def collectionForEach (c : Class) : Caller → Value → List Value → Eval Value :=
  fun call this args ↦ do
    let (r, _) ← thisEntries c (notCollection c) this
    let f ← functionArgument (argument args 0)
      ((← shownValue (argument args 0)) ++ " is not a function")
    forEachEntry r (fun k v ↦ do let _ ← call f (.call (argument args 1)) [v, k, this]) 0 stepBound
    return .undefined

def collectionWalk (c walk : Class) (portion : Portion) :
    Caller → Value → List Value → Eval Value :=
  fun _ this _ ↦ do
    let (r, _) ← thisEntries c (notCollection c) this
    makeWalk walk (.entries r 0 portion)

/-- Methods that maps and sets share. -/
def collectionMethods (c : Class) : List Builtin := [
  ⟨"clear", 0, fun _ this _ ↦ do
    let (r, es) ← thisEntries c (notCollection c) this
    putEntries r es.clear
    return .undefined⟩,
  ⟨"delete", 1, fun _ this args ↦ do
    let (r, es) ← thisEntries c (notCollection c) this
    putEntries r (es.erase (argument args 0))
    return .bool (es.has (argument args 0))⟩,
  ⟨"forEach", 1, collectionForEach c⟩,
  ⟨"has", 1, fun _ this args ↦ do
    let (_, es) ← thisEntries c (notCollection c) this
    return .bool (es.has (argument args 0))⟩]

/-- What can be read of maps and sets. -/
def collectionGetters (c : Class) : List Builtin := [
  ⟨"size", 0, fun _ this _ ↦ do return .ofNat (← thisEntries c (notCollection c) this).2.size⟩]

/-- Functions of the class of maps. -/
def mapStatics : List Builtin := [
  ⟨"groupBy", 2, fun call _ args ↦ do
    let groups ← groupsOf call args (fun v ↦ return keptKey v) Value.alike
    let entries ← groups.mapM fun (k, vs) ↦ do return some (k, ← makeValue (.ofValues vs))
    makeValue (.ofClass .map (.map entries))⟩]

def mapMethods : List Builtin :=
  collectionMethods .map ++ [
  ⟨"entries", 0, collectionWalk .map .mapIterator .entries⟩,
  ⟨"get", 1, fun _ this args ↦ do
    let (_, es) ← thisEntries .map (notCollection .map) this
    return ((es.find? (argument args 0)).map (·.2)).getD .undefined⟩,
  ⟨"keys", 0, collectionWalk .map .mapIterator .keys⟩,
  ⟨"set", 2, fun _ this args ↦ do
    let (r, es) ← thisEntries .map (notCollection .map) this
    putEntries r (es.put (keptKey (argument args 0)) (argument args 1))
    return this⟩,
  ⟨"values", 0, collectionWalk .map .mapIterator .values⟩]

/-! ## Sets and what is like them -/

/-- What is like a set: its size, and the methods that tell whether something is in it and that go
through it. -/
structure SetLike where
  value : Value
  size : Float
  has : Ref
  keys : Ref

def toSetLike (call : Caller) (v : Value) : Eval SetLike := do
  match v with
  | .object _ =>
    let size ← toNumber call (← getNamed call v "size")
    if size.isNaN then typeError "'size' property must be a number"
    let size := wholePart size
    if size < 0.0 then rangeError "'size' property must be a non-negative integer"
    let has ← functionArgument (← getNamed call v "has") "'has' property must be callable"
    let keys ← functionArgument (← getNamed call v "keys") "'keys' property must be callable"
    return ⟨v, size, has, keys⟩
  | _ => typeError "object is not set-like"

def SetLike.contains (call : Caller) (s : SetLike) (v : Value) : Eval Bool := do
  return truthy (← call s.has (.call s.value) [v])

/-- Passes the values in what is like a set on, as long as that is asked for. -/
def SetLike.fold {σ : Type} (call : Caller) (s : SetLike) (f : σ → Value → Eval σ) (a : σ) :
    Eval σ := do
  foldSteps call (← startBy call s.value s.keys) f a stepBound

def SetLike.toList (call : Caller) (s : SetLike) : Eval (List Value) := do
  return (← s.fold call (fun vs v ↦ return vs.push v) #[]).toList

/-- A method of a set that deals with another one. -/
def withOther (f : Caller → Entries → SetLike → Eval Value) :
    Caller → Value → List Value → Eval Value :=
  fun call this args ↦ do
    let (_, es) ← thisEntries .set (notCollection .set) this
    f call es (← toSetLike call (argument args 0))

def makeSet (es : Entries) : Eval Value := makeValue (.ofClass .set (.set es))

def Entries.putKey (es : Entries) (v : Value) : Entries := if es.has v then es else es.put v v

/-- The entries of which the key meets a condition. -/
def keysWhere (p : Value → Eval Bool) (es : Entries) : Eval (List Value) :=
  (es.toList.map (·.1)).filterM p

/-- The number of entries as a double. -/
def Entries.count (es : Entries) : Float := es.size.toFloat

/-- Methods of sets that deal with another one. -/
def setAlgebra : List Builtin := [
  ⟨"difference", 1, withOther fun call es other ↦ do
    let left ← if es.count ≤ other.size then do
        let vs ← keysWhere (fun v ↦ return !(← other.contains call v)) es
        pure (vs.map fun v ↦ some (v, v))
      else do
        let vs ← other.toList call
        pure (vs.foldl Entries.erase es)
    makeSet left⟩,
  ⟨"intersection", 1, withOther fun call es other ↦ do
    let vs ← if es.count ≤ other.size then keysWhere (other.contains call) es
      else do pure ((← other.toList call).filter es.has)
    makeSet ((vs.map keptKey).foldl Entries.putKey [])⟩,
  ⟨"isDisjointFrom", 1, withOther fun call es other ↦ do
    if es.count ≤ other.size then return .bool (← keysWhere (other.contains call) es).isEmpty
    else return .bool (!(← other.toList call).any es.has)⟩,
  ⟨"isSubsetOf", 1, withOther fun call es other ↦ do
    if es.count > other.size then return .bool false
    return .bool (← keysWhere (fun v ↦ return !(← other.contains call v)) es).isEmpty⟩,
  ⟨"isSupersetOf", 1, withOther fun call es other ↦ do
    if es.count < other.size then return .bool false
    return .bool ((← other.toList call).all es.has)⟩,
  ⟨"symmetricDifference", 1, withOther fun call es other ↦ do
    let vs ← other.toList call
    makeSet (vs.foldl
      (fun result v ↦ if es.has v then result.erase v else result.putKey (keptKey v)) es)⟩,
  ⟨"union", 1, withOther fun call es other ↦ do
    let vs ← other.toList call
    makeSet (vs.foldl (fun result v ↦ result.putKey (keptKey v)) es)⟩]

def setMethods : List Builtin :=
  collectionMethods .set ++ setAlgebra ++ [
  ⟨"add", 1, fun _ this args ↦ do
    let (r, es) ← thisEntries .set (notCollection .set) this
    putEntries r (es.putKey (keptKey (argument args 0)))
    return this⟩,
  ⟨"entries", 0, collectionWalk .set .setIterator .entries⟩,
  ⟨"values", 0, collectionWalk .set .setIterator .values⟩]

/-! ## Collections that do not keep what is in them alive -/

/-- The complaint about a method that is called on something else. -/
def notWeak (c : Class) (method : String) : String :=
  c.name ++ "." ++ method ++ ": called with non-object value"

/-- A value that can be put into such a collection. -/
def weakTarget (c : Class) (method : String) (v : Value) : Eval Unit := do
  match v with
  | .object _ => return ()
  | v =>
    typeError (c.name ++ method ++
      ": expected target argument of type \x60object\x60, got target of type \x60" ++
      typeName (← heap) v ++ "\x60")

/-- Methods that such collections share. -/
def weakMethods (c : Class) : List Builtin := [
  ⟨"delete", 1, fun _ this args ↦ do
    let (r, es) ← thisEntries c (notWeak c "delete") this
    putEntries r (es.erase (argument args 0))
    return .bool (es.has (argument args 0))⟩,
  ⟨"has", 1, fun _ this args ↦ do
    let (_, es) ← thisEntries c (notWeak c "has") this
    return .bool (es.has (argument args 0))⟩]

def weakMapMethods : List Builtin :=
  weakMethods .weakMap ++ [
  ⟨"get", 1, fun _ this args ↦ do
    let (_, es) ← thisEntries .weakMap (notWeak .weakMap "get") this
    return ((es.find? (argument args 0)).map (·.2)).getD .undefined⟩,
  ⟨"set", 2, fun _ this args ↦ do
    let (r, es) ← thisEntries .weakMap (notWeak .weakMap "set") this
    weakTarget .weakMap ".set" (argument args 0)
    putEntries r (es.put (argument args 0) (argument args 1))
    return this⟩]

def weakSetMethods : List Builtin :=
  weakMethods .weakSet ++ [
  ⟨"add", 1, fun _ this args ↦ do
    let (r, es) ← thisEntries .weakSet (notWeak .weakSet "add") this
    weakTarget .weakSet ".add" (argument args 0)
    putEntries r (es.putKey (argument args 0))
    return this⟩]

/-- Methods of objects that only point to another one. -/
def weakRefMethods : List Builtin := [
  ⟨"deref", 0, fun _ this _ ↦ do
    let complain {α : Type} : Eval α :=
      typeError "WeakRef.prototype.deref: expected \x60this\x60 to be a \x60WeakRef\x60 object"
    match this with
    | .object r =>
      match (← object r).kind with
      | .weakRef v => return v
      | _ => complain
    | _ => complain⟩]

/-! ## Filling -/

/-- Puts the entries that one goes through in a value into a new map, by a method of the map. -/
def fillMap (call : Caller) (r : Ref) (v : Value) : Eval Unit := do
  if v.isNothing then return ()
  let adder ← functionArgument (← getNamed call (.object r) "set")
    "property \x60set\x60 on new \x60Map\x60 must be callable"
  forEachOf call v fun item ↦ do
    match item with
    | .object _ =>
      let k ← getMember call item (.index 0)
      let x ← getMember call item (.index 1)
      let _ ← call adder (.call (.object r)) [k, x]
    | _ => typeError "cannot get key and value from primitive item of \x60iterable\x60"

/-- Puts the values that one goes through in a value into a new set, by a method of the set. -/
def fillSet (call : Caller) (r : Ref) (v : Value) : Eval Unit := do
  if v.isNothing then return ()
  let adder ← functionArgument (← getNamed call (.object r) "add")
    "'add' of 'newTarget' is not a function"
  forEachOf call v fun item ↦ do
    let _ ← call adder (.call (.object r)) [item]

end Script
end ScriptWorkers
