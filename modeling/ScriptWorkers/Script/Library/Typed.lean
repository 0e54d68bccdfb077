import ScriptWorkers.Script.Library.Buffer

/-!
# Arrays of elements of one kind

They have most methods of arrays.  What is put in is converted, and their length never changes.
-/

namespace ScriptWorkers
namespace Script

open Eval

/-- Makes an array of elements of one kind. -/
def makeTyped (t : Element) (items : List Value) : Eval Value :=
  makeValue (.ofClass (.typed t) (.typed t items.toArray))

/-- The array of elements that a method is called on. -/
def thisTyped (this : Value) : Eval (Ref × Element × Array Value) := do
  let complain {α : Type} : Eval α := typeError "Value is not a typed array object"
  match this with
  | .object r =>
    match (← object r).kind with
    | .typed t items => return (r, t, items)
    | _ => complain
  | _ => complain

/-- A method of arrays, on an array of elements of one kind. -/
def asArray (b : Builtin) : Builtin :=
  { b with run := fun call this args ↦ do
      let _ ← thisTyped this
      b.run call this args }

/-- The methods that are those of arrays. -/
def sharedMethods : List Builtin :=
  (arrayMethods.filter fun b ↦
    ["at", "copyWithin", "entries", "every", "fill", "find", "findIndex", "findLast",
      "findLastIndex",
      "forEach", "includes", "indexOf", "join", "keys", "lastIndexOf", "reduce", "reduceRight",
      "reverse", "some", "toLocaleString", "values"].contains b.name).map asArray

/-- A number comes before another; the negative zero comes first and what is no number last. -/
def isBelow (a b : Value) : Bool :=
  match a, b with
  | .number x, .number y =>
    let x := x.toFloat
    let y := y.toFloat
    !x.isNaN && (y.isNaN || x < y || (x == y && Decimal.isNegative x && !Decimal.isNegative y))
  | .bigint m, .bigint n => m < n
  | _, _ => false

def sortedElements (call : Caller) (compare : Option Ref) (items : Array Value) :
    Eval (List Value) :=
  match compare with
  | some _ => sortValues (precedes call compare) items.toList
  | none => sortValues (fun a b ↦ return isBelow a b) items.toList

/-- Puts elements in place of those that are there. -/
def putElements (r : Ref) (t : Element) (items : List Value) : Eval Unit :=
  change r fun o ↦ { o with kind := .typed t items.toArray }

def partBetween (call : Caller) (items : Array Value) (args : List Value) : Eval (List Value) := do
  let n := items.size
  let start ← placeOf call n (argument args 0) 0
  let stop ← placeOf call n (argument args 1) n
  return (items.toList.take stop).drop start

/-- The buffer of an array and where the array starts there.  An array that has none yet gets
one. -/
def bufferOf (r : Ref) : Eval (Ref × Nat) := do
  let o := (← heap).kept r
  match o.kind with
  | .view _ b offset _ => return (b, offset)
  | .typed t items =>
    let b ← make
      (.ofClass .arrayBuffer (.buffer (Bytes.ofElements t items.toList).toArray none false))
    modify fun s ↦
      { s with heap := s.heap.replace r { o with kind := .view t b 0 (some items.size) } }
    return (b, 0)
  | _ => return (r, 0)

/-- Methods of arrays of elements of one kind. -/
def typedMethods : List Builtin :=
  sharedMethods ++ [
  ⟨"filter", 1, fun call this args ↦ do
    let (r, t, items) ← thisTyped this
    let f ← functionArgument (argument args 0)
      "TypedArray.prototype.filter called with non-callable callback function"
    let kept ← items.toList.zipIdx.filterM fun (v, i) ↦ askAbout call f (argument args 1) r i v
    makeTyped t (kept.map (·.1))⟩,
  ⟨"map", 1, fun call this args ↦ do
    let (r, t, items) ← thisTyped this
    let f ← functionArgument (argument args 0)
      "TypedArray.prototype.map called with non-callable callback function"
    let vs ← items.toList.zipIdx.mapM fun (v, i) ↦ do
      elementOf call t (← call f (.call (argument args 1)) [v, .ofNat i, .object r])
    makeTyped t vs⟩,
  ⟨"set", 1, fun call this args ↦ do
    let (r, _, items) ← thisTyped this
    let offset ← toWhole call (argument args 1)
    if offset < 0.0 then rangeError "TypedArray.set called with negative offset"
    let source := Value.object (← toObject (argument args 0))
    let vs ← itemsOf call source
    let start := lengthOfFloat offset
    if items.size < start + vs.length then rangeError "invalid typed array length"
    vs.zipIdx.forM fun (v, i) ↦ putItem call r (start + i) v
    return .undefined⟩,
  ⟨"slice", 2, fun call this args ↦ do
    let (_, t, items) ← thisTyped this
    makeTyped t (← partBetween call items args)⟩,
  ⟨"sort", 1, fun call this args ↦ do
    let compare ← comparator (argument args 0)
    let (r, t, items) ← thisTyped this
    putElements r t (← sortedElements call compare items)
    return this⟩,
  ⟨"subarray", 2, fun call this args ↦ do
    let (r, t, items) ← thisTyped this
    let start ← placeOf call items.size (argument args 0) 0
    let stop ← placeOf call items.size (argument args 1) items.size
    let (b, offset) ← bufferOf r
    makeValue (.ofClass (.typed t) (.view t b (offset + start * t.bytes) (some (stop - start))))⟩,
  ⟨"toReversed", 0, fun _ this _ ↦ do
    let (_, t, items) ← thisTyped this
    makeTyped t items.toList.reverse⟩,
  ⟨"toSorted", 1, fun call this args ↦ do
    let compare ← comparator (argument args 0)
    let (_, t, items) ← thisTyped this
    makeTyped t (← sortedElements call compare items)⟩,
  ⟨"with", 2, fun call this args ↦ do
    let (_, t, items) ← thisTyped this
    let place ← insideOf call items.size (argument args 0)
    let v ← elementOf call t (argument args 1)
    match place with
    | some i => makeTyped t (items.set! i v).toList
    | none => rangeError "invalid integer index for TypedArray operation"⟩]

/-- What can be read of arrays of elements of one kind. -/
def typedGetters : List Builtin := [
  ⟨"buffer", 0, fun _ this _ ↦ do return .object (← bufferOf (← thisTyped this).1).1⟩,
  ⟨"byteLength", 0, fun _ this _ ↦ do
    let (_, t, items) ← thisTyped this
    return .ofNat (t.bytes * items.size)⟩,
  ⟨"byteOffset", 0, fun _ this _ ↦ do
    let (r, _, _) ← thisTyped this
    match (← heap).kept r |>.kind with
    | .view _ _ offset _ => return .ofNat offset
    | _ => return .ofNat 0⟩,
  ⟨"length", 0, fun _ this _ ↦ do return .ofNat (← thisTyped this).2.2.size⟩]

/-! ## New arrays -/

/-- The elements that an argument stands for: those of a value, or so many zeros. -/
def elementsFrom (call : Caller) (t : Element) (v : Value) : Eval (List Value) := do
  match v with
  | .object _ =>
    let vs ← match ← getMethod call v (.symbol iteratorSymbol) with
      | some m => do
        pure (← foldSteps call (← startBy call v m)
          (fun vs v ↦ return vs.push v) #[] stepBound).toList
      | none => itemsOf call v
    vs.mapM (elementOf call t)
  | v =>
    let n ← toIndex call v
    if byteBound < n * t.bytes then noRoom
    return List.replicate n t.zero

/-- A view of a buffer, from a place on and of a length that arguments give. -/
def viewFrom (call : Caller) (t : Element) (r : Ref) (b : Buffer) (offset length : Value) :
    Eval Kind := do
  let start ← toIndex call offset
  if start % t.bytes ≠ 0 then rangeError "Invalid offset for typed array"
  let size := b.bytes.size
  match length with
  | .undefined =>
    if b.bound.isSome then
      if size < start then rangeError "Invalid length for typed array"
      return .view t r start none
    if size % t.bytes ≠ 0 || size < start then rangeError "Invalid length for typed array"
    return .view t r start (some ((size - start) / t.bytes))
  | v =>
    let n ← toIndex call v
    if size < start + n * t.bytes then rangeError "Invalid length for typed array"
    return .view t r start (some n)

/-- What a new array of elements is, by the arguments that its class is given. -/
def typedFrom (call : Caller) (t : Element) (args : List Value) : Eval Kind := do
  let first := argument args 0
  if let .object r := first then
    if let some b := buffer? (← heap) r then
      return ← viewFrom call t r b (argument args 1) (argument args 2)
    if let .typed u items := (← object r).kind then
      if t.isBig != u.isBig then
        typeError "Cannot initialize typed array from different content type"
      return .typed t (← items.mapM (elementOf call t))
  return .typed t (← elementsFrom call t first).toArray

/-- The elements that arrays of a kind are made of by the class itself. -/
def typedClass? (h : Heap) (v : Value) : Option Element :=
  match v with
  | .object r =>
    match (h.get r).kind with
    | .function (.native (.constructor (.typed t))) => some t
    | _ => none
  | _ => none

/-- The kind of elements of the class that a function is called on. -/
def thisElement (this : Value) : Eval Element := do
  match typedClass? (← heap) this with
  | some t => return t
  | none => typeError "the TypedArray constructor should never be called directly"

/-- Functions of the classes of such arrays. -/
def typedStatics : List Builtin := [
  ⟨"from", 1, fun call this args ↦ do
    let t ← thisElement this
    let f ← match argument args 1 with
      | .undefined => pure none
      | v => do pure (some (← functionArgument v "TypedArray.from called with non-callable mapfn"))
    let source := argument args 0
    let vs ← match ← getMethod call source (.symbol iteratorSymbol) with
      | some m => do
        pure (← foldSteps call (← startBy call source m)
          (fun vs v ↦ return vs.push v) #[] stepBound).toList
      | none => do itemsOf call (.object (← toObject source))
    let vs ← vs.zipIdx.mapM fun (v, i) ↦ do
      match f with
      | some f => elementOf call t (← call f (.call (argument args 2)) [v, .ofNat i])
      | none => elementOf call t v
    makeTyped t vs⟩,
  ⟨"of", 0, fun call this args ↦ do
    let t ← thisElement this
    makeTyped t (← args.mapM (elementOf call t))⟩]

end Script
end ScriptWorkers
