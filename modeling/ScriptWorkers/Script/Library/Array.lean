import ScriptWorkers.Script.Library.Object

/-!
# Arrays

The functions of the class of arrays and the methods of arrays.  The methods work on anything that
has a length, and most of them pass over numbers under which there is nothing.
-/

namespace ScriptWorkers
namespace Script

open Eval

/-! ## Places and items -/

/-- A place counted from the front, or from the end if it is negative, inside of a length. -/
def placeIn (length : Nat) (f : Float) : Nat :=
  let f := wholePart f
  if f < 0.0 then
    if -f ≥ length.toFloat then 0 else length - (-f).toUInt64.toNat
  else if f ≥ length.toFloat then length
  else f.toUInt64.toNat

/-- A place that an argument gives, or another one if it is missing. -/
def placeOf (call : Caller) (length : Nat) (v : Value) (default : Nat) : Eval Nat := do
  match v with
  | .undefined => return default
  | v => return placeIn length (← toNumber call v)

/-- The place that an argument gives, counted from the end if it is negative, if it is inside of a
length. -/
def insideOf (call : Caller) (length : Nat) (v : Value) : Eval (Option Nat) := do
  let f ← toWhole call v
  let g := if f < 0.0 then length.toFloat + f else f
  return if g < 0.0 || g ≥ length.toFloat then none else some g.toUInt64.toNat

/-- What a number of an object holds, if there is anything under it. -/
def item? (call : Caller) (o : Ref) (i : Nat) : Eval (Option Value) := do
  if (memberField (← heap) (.object o) (.index i)).isSome then
    return some (← getMember call (.object o) (.index i))
  else return none

/-- What a number of an object holds. -/
def itemAt (call : Caller) (o : Ref) (i : Nat) : Eval Value := getMember call (.object o) (.index i)

/-- Puts a value under a number of an object. -/
def putItem (call : Caller) (o : Ref) (i : Nat) (v : Value) : Eval Unit :=
  setMember call true (.object o) (.index i) v

/-- Puts a value under a number of an object, or takes away what is there. -/
def putOrDelete (call : Caller) (o : Ref) (i : Nat) : Option Value → Eval Unit
  | some v => putItem call o i v
  | none => deleteOrThrow o (.index i)

/-- Sets the length of an object. -/
def putLength (call : Caller) (o : Ref) (n : Nat) : Eval Unit :=
  setMember call true (.object o) Obj.lengthKey (.ofNat n)

/-- The object that a method is called on, with its length. -/
def thisItems (call : Caller) (this : Value) : Eval (Ref × Nat) := do
  let o ← toObject this
  return (o, ← lengthOf call (.object o))

/-! ## New arrays -/

/-- A new array of a length, with nothing in it. -/
def newArray (n : Nat) : Eval Ref := do
  if UInt32.size ≤ n then rangeError "array exceeded max size"
  make (.ofClass .array (.array n))

def isArrayClass (v : Value) : Eval Bool := do
  match v with
  | .object r =>
    match (← object r).kind with
    | .function (.native (.constructor .array)) => return true
    | _ => return false
  | _ => return false

/-- A new object of the same kind as an array. -/
def similarArray (call : Caller) (o : Ref) (n : Nat) : Eval Ref := do
  if !(← object o).isArray then return ← newArray n
  let c ← match ← getNamed call (.object o) "constructor" with
    | .object r => do
      match ← getMember call (.object r) (.symbol speciesSymbol) with
      | .null => pure .undefined
      | s => pure s
    | c => pure c
  if ← isArrayClass c then return ← newArray n
  match c with
  | .undefined => newArray n
  | .object r =>
    if (← object r).isConstructor then toObject (← call r (.new r) [.ofNat n])
    else typeError "Symbol.species must be a constructor"
  | _ => typeError "Symbol.species must be a constructor"

/-- A new object that a class makes for items, an array if it makes none. -/
def arrayBy (call : Caller) (c : Value) (args : List Value) (n : Nat) : Eval Ref := do
  if ← isArrayClass c then return ← newArray n
  match c with
  | .object r =>
    if (← object r).isConstructor then toObject (← call r (.new r) args) else newArray n
  | _ => newArray n

/-- An array of so many holes, or of the items themselves. -/
def arrayFrom : List Value → Eval Value
  | [.number x] => do
    let n := (wordOf x.toFloat).toNat
    if x.toFloat == n.toFloat then makeValue (.ofClass .array (.array n))
    else rangeError "invalid array length"
  | vs => makeArray vs

/-! ## Text -/

/-- The text of items with something between; what is nothing leaves no text. -/
def joinItems (call : Caller) (separator : Units) (o : Ref) (n : Nat) : Eval Value := do
  let parts ← (List.range n).mapM fun i ↦ do
    let v ← itemAt call o i
    if v.isNothing then pure [] else toUnits call v
  return .string (joined separator parts)

def arrayText (call : Caller) (this : Value) : Eval Value := do
  let o := Value.object (← toObject this)
  match (← heap).function? (← getNamed call o "join") with
  | some f => call f (.call o) []
  | none => objectText call o

/-! ## Putting in order -/

/-- Puts a value in its place among values in order, which come from the end. -/
def insertBefore (precedes : Value → Value → Eval Bool) (v : Value) : List Value → Eval (List Value)
  | [] => return [v]
  | w :: rest => do
    if ← precedes v w then return w :: (← insertBefore precedes v rest) else return v :: w :: rest

/-- Merges two lists in order; of two values that are equal the first list's comes first. -/
def merge (precedes : Value → Value → Eval Bool) (done : List Value) :
    List Value → List Value → Nat → Eval (List Value)
  | [], bs, _ => return done.reverse ++ bs
  | as, [], _ => return done.reverse ++ as
  | as, bs, 0 => return done.reverse ++ as ++ bs
  | a :: as, b :: bs, n + 1 => do
    if ← precedes b a then merge precedes (b :: done) (a :: as) bs n
    else merge precedes (a :: done) as (b :: bs) n

/-- Puts values in order; equal ones keep theirs.  A few values are put in their places one after
the other, many are divided into halves. -/
def sortHalves (precedes : Value → Value → Eval Bool) (vs : List Value) : Nat → Eval (List Value)
  | 0 => return vs
  | n + 1 => do
    if vs.length ≤ 20 then
      let last ← vs.foldlM (fun done v ↦ insertBefore precedes v done) []
      return last.reverse
    let half := vs.length / 2
    let as ← sortHalves precedes (vs.take half) n
    let bs ← sortHalves precedes (vs.drop half) n
    merge precedes [] as bs vs.length

/-- Each value but the first is in the same relation to the one before it. -/
def inRun (precedes : Value → Value → Eval Bool) (descending : Bool) (v : Value) :
    List Value → Eval Bool
  | [] => return true
  | w :: rest => do
    if (← precedes w v) == descending then inRun precedes descending w rest else return false

/-- Puts values in order; equal ones keep theirs.  Many values that already are in order stay so,
and those in the opposite order are turned round. -/
def sortValues (precedes : Value → Value → Eval Bool) (vs : List Value) : Eval (List Value) := do
  match vs with
  | v :: w :: rest =>
    if vs.length ≤ 20 then return ← sortHalves precedes vs 1
    let descending ← precedes w v
    if ← inRun precedes descending w rest then return if descending then vs.reverse else vs
    sortHalves precedes vs vs.length
  | vs => return vs

/-- A value comes before another: undefined ones last, others by a function or by their texts. -/
def precedes (call : Caller) (compare : Option Ref) (a b : Value) : Eval Bool := do
  match a, b with
  | .undefined, _ => return false
  | _, .undefined => return true
  | a, b =>
    match compare with
    | some f => return (← toNumber call (← call f (.call .undefined) [a, b])) < 0.0
    | none =>
      let s ← toUnits call a
      let t ← toUnits call b
      return decide (s < t)

/-- The function that an order is given by. -/
def comparator (v : Value) : Eval (Option Ref) := do
  match v with
  | .undefined => return none
  | v =>
    return some (← functionArgument v
      "The comparison function must be either a function or undefined")

/-! ## Flattening -/

/-- Puts the items of an object behind one another into an array, opening arrays inside `depth`
levels deep.  Returns the place after the last. -/
def flattenInto (call : Caller) (target : Ref) (mapper : Option (Ref × Value)) (source : Ref)
    (place : Nat) (depth : Float) : Nat → Eval Nat
  | 0 => throwThe Stop .exhausted
  | fuel + 1 => do
    let n ← lengthOf call (.object source)
    (List.range n).foldlM (fun place i ↦ do
      match ← item? call source i with
      | none => return place
      | some v =>
        let v ← match mapper with
          | some (f, this) => call f (.call this) [v, .ofNat i, .object source]
          | none => pure v
        let inner ← match v with
          | .object r => do pure (if depth > 0.0 && (← object r).isArray then some r else none)
          | _ => pure none
        match inner with
        | some r => flattenInto call target none r place (depth - 1.0) fuel
        | none =>
          createData call target (.index place) v
          return place + 1) place

/-- The bound on arrays inside one another. -/
def flattenBound : Nat := 10000

/-! ## Searching -/

def minusOne : Value := .number (.ofInt (-1))

/-- The place from which a search goes up. -/
def searchStart (call : Caller) (n : Nat) (v : Value) : Eval Nat := do
  return placeIn n (← toNumber call v)

/-- The items up to which a search goes down: all of them if nothing is given. -/
def searchEnd (call : Caller) (n : Nat) (from? : Option Value) : Eval Nat := do
  match from? with
  | none => return n
  | some v =>
    let f ← toWhole call v
    if f < 0.0 then
      let g := n.toFloat + f
      return if g < 0.0 then 0 else g.toUInt64.toNat + 1
    else return if f ≥ n.toFloat then n else f.toUInt64.toNat + 1

/-- Asks a function about an item. -/
def askAbout (call : Caller) (f : Ref) (this : Value) (o : Ref) (i : Nat) (v : Value) :
    Eval Bool := do
  return truthy (← call f (.call this) [v, .ofNat i, .object o])

/-- Looks for an item that a function approves of, from one end, and makes something of it. -/
def seek (name : String) (fromEnd : Bool) (found : Nat → Value → Value) (missing : Value) :
    Caller → Value → List Value → Eval Value :=
  fun call this args ↦ do
    let (o, n) ← thisItems call this
    let f ← functionArgument (argument args 0)
      ("Array.prototype." ++ name ++ ": predicate is not callable")
    let question (i : Nat) : Eval (Option Value) := do
      let v ← itemAt call o i
      if ← askAbout call f (argument args 1) o i v then return some (found i v) else return none
    return (← if fromEnd then firstBelow question n else firstFrom question 0 n).getD missing

/-- Combines the items, from one end. -/
def reduceItems (name : String) (fromEnd : Bool) : Caller → Value → List Value → Eval Value :=
  fun call this args ↦ do
    let (o, n) ← thisItems call this
    let f ← functionArgument (argument args 0)
      ("Array.prototype." ++ name ++ ": callback function is not callable")
    let places := if fromEnd then (List.range n).reverse else List.range n
    let start := args[1]?
    let result ← places.foldlM (fun (acc : Option Value) i ↦ do
      match ← item? call o i, acc with
      | none, acc => return acc
      | some v, none => return some v
      | some v, some a =>
        return some (← call f (.call .undefined) [a, v, .ofNat i, .object o])) start
    match result with
    | some v => return v
    | none =>
      typeError ("Array.prototype." ++ name ++
        ": called on an empty array and with no initial value")

/-- A walk through the items of an object. -/
def itemWalk (portion : Portion) : Caller → Value → List Value → Eval Value :=
  fun _ this _ ↦ do makeWalk .arrayIterator (.items (← toObject this) 0 portion)

/-- Takes items out of an object and puts others in their place, by numbers. -/
def spliceItems (call : Caller) (o : Ref) (n start count : Nat) (items : List Value) :
    Eval Unit := do
  let rest := n - start - count
  let m := items.length
  if m < count then
    forFrom
      (fun i ↦ do putOrDelete call o (start + m + i) (← item? call o (start + count + i))) 0 rest
    (List.range (count - m)).reverse.forM fun i ↦ deleteOrThrow o (.index (n - count + m + i))
  else if count < m then
    (List.range rest).reverse.forM fun i ↦ do
      putOrDelete call o (start + m + i) (← item? call o (start + count + i))
  items.zipIdx.forM fun (v, i) ↦ putItem call o (start + i) v
  putLength call o (n - count + m)

/-- The start and the number of the items that are taken out. -/
def spliceRange (call : Caller) (n : Nat) (args : List Value) : Eval (Nat × Nat) := do
  let start ← placeOf call n (argument args 0) 0
  let count ← match args with
    | [] => pure 0
    | [_] => pure (n - start)
    | _ :: c :: _ => do pure (min (lengthOfFloat (← toNumber call c)) (n - start))
  return (start, count)

/-! ## Tables -/

/-- Functions of the class of arrays. -/
def arrayStatics : List Builtin := [
  ⟨"from", 1, fun call this args ↦ do
    let items := argument args 0
    let mapper ← match argument args 1 with
      | .undefined => pure none
      | v => do
        pure (some (← functionArgument v ("\x60" ++ typeName (← heap) v ++ "\x60 is not callable")))
    let mapped (i : Nat) (v : Value) : Eval Value :=
      match mapper with
      | some f => call f (.call (argument args 2)) [v, .ofNat i]
      | none => return v
    match ← getMethod call items (.symbol iteratorSymbol) with
    | some m =>
      let r ← arrayBy call this [] 0
      let it ← startBy call items m
      let n ← foldSteps call it (fun i v ↦ do
        createData call r (.index i) (← mapped i v)
        return i + 1) 0 stepBound
      putLength call r n
      return .object r
    | none =>
      let source ← toObject items
      let n ← lengthOf call (.object source)
      let r ← arrayBy call this [.ofNat n] n
      forFrom (fun i ↦ do createData call r (.index i) (← mapped i (← itemAt call source i))) 0 n
      putLength call r n
      return .object r⟩,
  ⟨"isArray", 1, fun _ _ args ↦ do
    match argument args 0 with
    | .object r => return .bool (← object r).isArray
    | _ => return .bool false⟩,
  ⟨"of", 0, fun call this args ↦ do
    let r ← arrayBy call this [.ofNat args.length] args.length
    args.zipIdx.forM fun (v, i) ↦ createData call r (.index i) v
    putLength call r args.length
    return .object r⟩]

def arrayMethods : List Builtin := [
  ⟨"at", 1, fun call this args ↦ do
    let (o, n) ← thisItems call this
    match ← insideOf call n (argument args 0) with
    | some i => itemAt call o i
    | none => return .undefined⟩,
  ⟨"concat", 1, fun call this args ↦ do
    let o ← toObject this
    let r ← similarArray call o 0
    let n ← (Value.object o :: args).foldlM (fun n v ↦ do
      let spread ← match v with
        | .object s => do
          match ← getMember call v (.symbol spreadableSymbol) with
          | .undefined => pure (← object s).isArray
          | b => pure (truthy b)
        | _ => pure false
      match v, spread with
      | .object s, true => do
        let m ← lengthOf call v
        forFrom (fun i ↦ do
          if let some x ← item? call s i then createData call r (.index (n + i)) x) 0 m
        return n + m
      | v, _ => do
        createData call r (.index n) v
        return n + 1) 0
    putLength call r n
    return .object r⟩,
  ⟨"copyWithin", 2, fun call this args ↦ do
    let (o, n) ← thisItems call this
    let target ← placeOf call n (argument args 0) 0
    let start ← placeOf call n (argument args 1) 0
    let stop ← placeOf call n (argument args 2) n
    let count := min (stop - start) (n - target)
    let places := List.range count
    let places := if start < target && target < start + count then places.reverse else places
    places.forM fun i ↦ do putOrDelete call o (target + i) (← item? call o (start + i))
    return .object o⟩,
  ⟨"entries", 0, itemWalk .entries⟩,
  ⟨"every", 1, fun call this args ↦ do
    let (o, n) ← thisItems call this
    let f ← functionArgument (argument args 0) "Array.prototype.every: callback is not callable"
    let failed ← firstFrom (fun i ↦ do
      match ← item? call o i with
      | some v => if ← askAbout call f (argument args 1) o i v then return none else return some ()
      | none => return none) 0 n
    return .bool failed.isNone⟩,
  ⟨"fill", 1, fun call this args ↦ do
    let (o, n) ← thisItems call this
    let start ← placeOf call n (argument args 1) 0
    let stop ← placeOf call n (argument args 2) n
    forFrom (fun i ↦ putItem call o i (argument args 0)) start (stop - start)
    return .object o⟩,
  ⟨"filter", 1, fun call this args ↦ do
    let (o, n) ← thisItems call this
    let f ← functionArgument (argument args 0)
      "Array.prototype.filter: \x60callback\x60 must be callable"
    let r ← similarArray call o 0
    let _ ← (List.range n).foldlM (fun place i ↦ do
      match ← item? call o i with
      | some v =>
        if ← askAbout call f (argument args 1) o i v then
          createData call r (.index place) v
          return place + 1
        else return place
      | none => return place) 0
    return .object r⟩,
  ⟨"find", 1, seek "find" false (fun _ v ↦ v) .undefined⟩,
  ⟨"findIndex", 1, seek "findIndex" false (fun i _ ↦ .ofNat i) minusOne⟩,
  ⟨"findLast", 1, seek "findLast" true (fun _ v ↦ v) .undefined⟩,
  ⟨"findLastIndex", 1, seek "findLastIndex" true (fun i _ ↦ .ofNat i) minusOne⟩,
  ⟨"flat", 0, fun call this args ↦ do
    let o ← toObject this
    let depth ← match argument args 0 with
      | .undefined => pure 1.0
      | v => toWhole call v
    let r ← similarArray call o 0
    let _ ← flattenInto call r none o 0 depth flattenBound
    return .object r⟩,
  ⟨"flatMap", 1, fun call this args ↦ do
    let o ← toObject this
    let f ← functionArgument (argument args 0) "flatMap mapper function is not callable"
    let r ← similarArray call o 0
    let _ ← flattenInto call r (some (f, argument args 1)) o 0 1.0 flattenBound
    return .object r⟩,
  ⟨"forEach", 1, fun call this args ↦ do
    let (o, n) ← thisItems call this
    let f ← functionArgument (argument args 0) "Array.prototype.forEach: invalid callback function"
    forFrom (fun i ↦ do
      if let some v ← item? call o i then
        let _ ← call f (.call (argument args 1)) [v, .ofNat i, .object o]) 0 n
    return .undefined⟩,
  ⟨"includes", 1, fun call this args ↦ do
    let (o, n) ← thisItems call this
    if n = 0 then return .bool false
    let start ← searchStart call n (argument args 1)
    let found ← firstFrom (fun i ↦ do
      return if (← itemAt call o i).alike (argument args 0) then some () else none) start
        (n - start)
    return .bool found.isSome⟩,
  ⟨"indexOf", 1, fun call this args ↦ do
    let (o, n) ← thisItems call this
    if n = 0 then return minusOne
    let start ← searchStart call n (argument args 1)
    let found ← firstFrom (fun i ↦ do
      match ← item? call o i with
      | some v => return if v.identical (argument args 0) then some (.ofNat i) else none
      | none => return none) start (n - start)
    return found.getD minusOne⟩,
  ⟨"join", 1, fun call this args ↦ do
    let (o, n) ← thisItems call this
    let separator ← match argument args 0 with
      | .undefined => pure [44]
      | v => toUnits call v
    joinItems call separator o n⟩,
  ⟨"keys", 0, itemWalk .keys⟩,
  ⟨"lastIndexOf", 1, fun call this args ↦ do
    let (o, n) ← thisItems call this
    if n = 0 then return minusOne
    let stop ← searchEnd call n (args[1]?)
    let found ← firstBelow (fun i ↦ do
      match ← item? call o i with
      | some v => return if v.identical (argument args 0) then some (.ofNat i) else none
      | none => return none) stop
    return found.getD minusOne⟩,
  ⟨"map", 1, fun call this args ↦ do
    let (o, n) ← thisItems call this
    let f ← functionArgument (argument args 0) "Array.prototype.map: Callbackfn is not callable"
    let r ← similarArray call o n
    forFrom (fun i ↦ do
      if let some v ← item? call o i then
        createData call r (.index i) (← call f (.call (argument args 1)) [v, .ofNat i, .object o]))
          0 n
    return .object r⟩,
  ⟨"pop", 0, fun call this _ ↦ do
    let (o, n) ← thisItems call this
    if n = 0 then
      putLength call o 0
      return .undefined
    let v ← itemAt call o (n - 1)
    deleteOrThrow o (.index (n - 1))
    putLength call o (n - 1)
    return v⟩,
  ⟨"push", 1, fun call this args ↦ do
    let (o, n) ← thisItems call this
    if 9007199254740991 < n + args.length then
      typeError "the length + the number of arguments exceed the maximum safe integer limit"
    args.zipIdx.forM fun (v, i) ↦ setMember call true (.object o) (.ofString (toString (n + i))) v
    putLength call o (n + args.length)
    return .ofNat (n + args.length)⟩,
  ⟨"reduce", 1, reduceItems "reduce" false⟩,
  ⟨"reduceRight", 1, reduceItems "reduceRight" true⟩,
  ⟨"reverse", 0, fun call this _ ↦ do
    let (o, n) ← thisItems call this
    forFrom (fun i ↦ do
      let a ← item? call o i
      let b ← item? call o (n - 1 - i)
      if a.isSome || b.isSome then
        putOrDelete call o i b
        putOrDelete call o (n - 1 - i) a) 0 (n / 2)
    return .object o⟩,
  ⟨"shift", 0, fun call this _ ↦ do
    let (o, n) ← thisItems call this
    if n = 0 then
      putLength call o 0
      return .undefined
    let v ← itemAt call o 0
    forFrom (fun i ↦ do putOrDelete call o (i - 1) (← item? call o i)) 1 (n - 1)
    deleteOrThrow o (.index (n - 1))
    putLength call o (n - 1)
    return v⟩,
  ⟨"slice", 2, fun call this args ↦ do
    let (o, n) ← thisItems call this
    let start ← placeOf call n (argument args 0) 0
    let stop ← placeOf call n (argument args 1) n
    let r ← similarArray call o (stop - start)
    forFrom (fun i ↦ do
      if let some v ← item? call o (start + i) then createData call r (.index i) v) 0 (stop - start)
    putLength call r (stop - start)
    return .object r⟩,
  ⟨"some", 1, fun call this args ↦ do
    let (o, n) ← thisItems call this
    let f ← functionArgument (argument args 0) "Array.prototype.some: callback is not callable"
    let found ← firstFrom (fun i ↦ do
      match ← item? call o i with
      | some v => if ← askAbout call f (argument args 1) o i v then return some () else return none
      | none => return none) 0 n
    return .bool found.isSome⟩,
  ⟨"sort", 1, fun call this args ↦ do
    let compare ← comparator (argument args 0)
    let (o, n) ← thisItems call this
    let vs ← (List.range n).filterMapM (item? call o)
    let sorted ← sortValues (precedes call compare) vs
    sorted.zipIdx.forM fun (v, i) ↦ putItem call o i v
    forFrom (fun i ↦ do
      if (memberField (← heap) (.object o) (.index i)).isSome then deleteOrThrow o (.index i))
      sorted.length (n - sorted.length)
    return .object o⟩,
  ⟨"splice", 2, fun call this args ↦ do
    let (o, n) ← thisItems call this
    let (start, count) ← spliceRange call n args
    let r ← similarArray call o count
    forFrom (fun i ↦ do
      if let some v ← item? call o (start + i) then createData call r (.index i) v) 0 count
    putLength call r count
    spliceItems call o n start count (args.drop 2)
    return .object r⟩,
  ⟨"toLocaleString", 0, fun call this _ ↦ do
    let (o, n) ← thisItems call this
    let parts ← (List.range n).mapM fun i ↦ do
      let v ← itemAt call o i
      if v.isNothing then pure [] else toUnits call (← invokeMethod call v "toLocaleString" [])
    return .string (joined (Units.ofString ", ") parts)⟩,
  ⟨"toReversed", 0, fun call this _ ↦ do
    let (o, n) ← thisItems call this
    let vs ← (List.range n).mapM (itemAt call o)
    makeArray vs.reverse⟩,
  ⟨"toSorted", 1, fun call this args ↦ do
    let compare ← comparator (argument args 0)
    let (o, n) ← thisItems call this
    let vs ← (List.range n).mapM (itemAt call o)
    makeArray (← sortValues (precedes call compare) vs)⟩,
  ⟨"toSpliced", 2, fun call this args ↦ do
    let (o, n) ← thisItems call this
    let (start, count) ← spliceRange call n args
    let vs ← (List.range n).mapM (itemAt call o)
    makeArray (vs.take start ++ args.drop 2 ++ vs.drop (start + count))⟩,
  ⟨"toString", 0, fun call this _ ↦ arrayText call this⟩,
  ⟨"unshift", 1, fun call this args ↦ do
    let (o, n) ← thisItems call this
    if 9007199254740991 < n + args.length then
      typeError "length + number of arguments exceeds the max safe integer limit"
    if !args.isEmpty then
      (List.range n).reverse.forM fun i ↦ do putOrDelete call o (i + args.length) (← item? call o i)
      args.zipIdx.forM fun (v, i) ↦ putItem call o i v
    putLength call o (n + args.length)
    return .ofNat (n + args.length)⟩,
  ⟨"values", 0, itemWalk .values⟩,
  ⟨"with", 2, fun call this args ↦ do
    let (o, n) ← thisItems call this
    match ← insideOf call n (argument args 0) with
    | none => rangeError "invalid index for Array.prototype.with"
    | some j =>
      let vs ← (List.range n).mapM fun i ↦ if i = j then pure (argument args 1) else itemAt call o i
      makeArray vs⟩]

end Script
end ScriptWorkers
