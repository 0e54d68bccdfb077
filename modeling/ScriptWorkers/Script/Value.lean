import ScriptWorkers.Script.Native
import ScriptWorkers.Script.Program

/-!
# Values

Objects live on a heap and are referred to by their place in it.  The fields of an object that are
numbered are kept apart from the others, in an `Items`.

* `Value`, `Key`, `Field`, `Items` — simple values and what objects are made of.
* `Kind` and `Obj` — an object: its inner workings, its parent, its fields.
* `Obj.own?`, `Obj.ownKeys`, `Obj.put`, `Obj.erase` — fields of the object itself.
-/

namespace ScriptWorkers
namespace Script

abbrev Ref := Nat

/-- A value. -/
inductive Value where
  | undefined
  | null
  | bool (b : Bool)
  | number (x : Number)
  | bigint (n : Int)
  | string (s : Units)
  | symbol (id : Nat)
  | object (r : Ref)
deriving Inhabited

namespace Value

def ofString (s : String) : Value := string (Units.ofString s)

def ofNat (n : Nat) : Value := number (.ofNat n)

def ofFloat (f : Float) : Value := number (.double f)

def isNothing : Value → Bool
  | undefined | null => true
  | _ => false

def identical : Value → Value → Bool
  | undefined, undefined => true
  | null, null => true
  | bool a, bool b => a == b
  | number a, number b => a.toFloat == b.toFloat
  | bigint a, bigint b => a == b
  | string a, string b => a == b
  | symbol a, symbol b => a == b
  | object a, object b => a == b
  | _, _ => false

/-- Strict equality, except that what is no number is equal to itself. -/
def alike (a b : Value) : Bool :=
  match a, b with
  | number x, number y => x.toFloat == y.toFloat || (x.toFloat.isNaN && y.toFloat.isNaN)
  | a, b => identical a b

/-- The two values cannot be told apart; the two zeros can. -/
def same (a b : Value) : Bool :=
  match a, b with
  | number x, number y =>
    x.toFloat.toBits == y.toFloat.toBits || (x.toFloat.isNaN && y.toFloat.isNaN)
  | a, b => identical a b

end Value

/-- The name of a field. -/
inductive Key where
  | index (n : Nat)
  | name (s : Units)
  | symbol (id : Nat)
deriving DecidableEq, Repr

namespace Key

def ofUnits (s : Units) : Key :=
  match s.index? with
  | some n => index n
  | none => name s

def ofString (s : String) : Key := ofUnits (Units.ofString s)

/-- The string of a key, which a symbol does not have. -/
def units? : Key → Option Units
  | index n => some (Units.ofString (toString n))
  | name s => some s
  | symbol _ => none

def isSymbol : Key → Bool
  | symbol _ => true
  | _ => false

end Key

/-- What may be done to a field. -/
structure Flags where
  writable : Bool
  enumerable : Bool
  configurable : Bool
deriving Repr, DecidableEq

namespace Flags

def all : Flags := ⟨true, true, true⟩

/-- It cannot be changed, but it shows up in enumerations. -/
def shown : Flags := ⟨false, true, false⟩

/-- Everything, but it does not show up in enumerations. -/
def hidden : Flags := ⟨true, false, true⟩

/-- It can only be replaced as a whole, and does not show up in enumerations. -/
def fixed : Flags := ⟨false, false, true⟩

def frozen : Flags := ⟨false, false, false⟩

end Flags

/-- A field of an object. -/
inductive Field where
  | data (v : Value) (flags : Flags)
  /-- Functions that are called to read and to write. -/
  | accessor (getter setter : Option Ref) (flags : Flags)

namespace Field

/-- What may be done to the field. -/
def flags : Field → Flags
  | data _ f => f
  | accessor _ _ f => f

/-- The field shows up in enumerations. -/
def enumerable (f : Field) : Bool := f.flags.enumerable

def plain (v : Value) : Field := data v .all

/-- The value of the field if it is an ordinary one. -/
def plain? : Field → Option Value
  | data v f => if f = .all then some v else none
  | accessor .. => none

/-- The value of the field if it holds one. -/
def value? : Field → Option Value
  | data v _ => some v
  | accessor .. => none

end Field

/-! ## Numbered fields

As long as the numbers run from zero without a gap and all fields are ordinary, only the values are
kept: words as words, doubles as doubles, and everything else as it is.  The first double that is no
word turns all words before it into doubles, and whatever comes behind it; that is how a number may
change its kind by being put in an array. -/

/-- Numbered fields. -/
inductive Items where
  | words (a : Array Int32)
  | doubles (a : Array Float)
  | values (a : Array Value)
  /-- Fields in ascending order of their numbers. -/
  | sparse (fields : List (Nat × Field))

namespace Items

def empty : Items := words #[]

/-- Values that are kept as they are. -/
def ofValues (vs : List Value) : Items := values vs.toArray

def wordValues (a : Array Int32) : Array Value := a.map fun n ↦ .number (.word n)

def doubleValues (a : Array Float) : Array Value := a.map fun f ↦ .number (.double f)

def get? (items : Items) (i : Nat) : Option Field :=
  match items with
  | words a => (a[i]?).map fun n ↦ .plain (.number (.word n))
  | doubles a => (a[i]?).map fun f ↦ .plain (.number (.double f))
  | values a => (a[i]?).map .plain
  | sparse fields => fields.lookup i

/-- The fields with their numbers, in ascending order. -/
def toList : Items → List (Nat × Field)
  | words a => a.toList.zipIdx.map fun (n, i) ↦ (i, .plain (.number (.word n)))
  | doubles a => a.toList.zipIdx.map fun (f, i) ↦ (i, .plain (.number (.double f)))
  | values a => a.toList.zipIdx.map fun (v, i) ↦ (i, .plain v)
  | sparse fields => fields

/-- The numbers of the fields, in ascending order. -/
def indices : Items → List Nat
  | words a => List.range a.size
  | doubles a => List.range a.size
  | values a => List.range a.size
  | sparse fields => fields.map (·.1)

/-- The word that a value stands for. -/
def word? : Value → Option Int32
  | .number (.word n) => some n
  | .number (.double f) => Number.word? f
  | _ => none

/-- Puts an element in its place, or right behind the last one. -/
def store {α : Type} (a : Array α) (i : Nat) (x : α) : Array α :=
  if i < a.size then a.set! i x else a.push x

/-- Puts a field into a list in ascending order. -/
def insertField (i : Nat) (f : Field) : List (Nat × Field) → List (Nat × Field)
  | [] => [(i, f)]
  | (j, g) :: rest =>
    if i < j then (i, f) :: (j, g) :: rest
    else if i = j then (i, f) :: rest
    else (j, g) :: insertField i f rest

/-- The number of values that are kept without a gap. -/
def size? : Items → Option Nat
  | words a => some a.size
  | doubles a => some a.size
  | values a => some a.size
  | sparse _ => none

/-- Puts a value where it leaves no gap. -/
def putValue (items : Items) (i : Nat) (v : Value) : Items :=
  match items with
  | words a =>
    match word? v, v with
    | some n, _ => words (store a i n)
    | none, .number x => doubles (store (a.map fun n ↦ Float.ofInt n.toInt) i x.toFloat)
    | none, v => values (store (wordValues a) i v)
  | doubles a =>
    match v with
    | .number x => doubles (store a i x.toFloat)
    | v => values (store (doubleValues a) i v)
  | values a => values (store a i v)
  | sparse fields => sparse (insertField i (.plain v) fields)

def put (items : Items) (i : Nat) (f : Field) : Items :=
  match f.plain?, items.size? with
  | some v, some n => if i ≤ n then items.putValue i v else sparse (insertField i f items.toList)
  | _, _ => sparse (insertField i f items.toList)

/-- Takes a field away.  The last one leaves no gap. -/
def erase (items : Items) (i : Nat) : Items :=
  match items.size? with
  | some n =>
    if i + 1 = n then
      match items with
      | words a => words a.pop
      | doubles a => doubles a.pop
      | values a => values a.pop
      | sparse fields => sparse (fields.filter (·.1 ≠ i))
    else if i < n then sparse (items.toList.filter (·.1 ≠ i))
    else items
  | none => sparse (items.toList.filter (·.1 ≠ i))

/-- Keeps only the fields with a number below a bound. -/
def takeBelow (items : Items) (n : Nat) : Items :=
  match items with
  | words a => words (a.extract 0 n)
  | doubles a => doubles (a.extract 0 n)
  | values a => values (a.extract 0 n)
  | sparse fields => sparse (fields.filter (·.1 < n))

end Items

/-! ## Objects -/

/-- What surrounds the code that is being run. -/
structure Env where
  /-- Names that are known only here. -/
  locals : List (Units × Value) := []
  this : Value := .undefined
  /-- The number of arguments of the function around it. -/
  argumentCount : Option Nat := none
  /-- The strict rules apply. -/
  strict : Bool := false

/-- What can be called. -/
inductive Callable where
  /-- A function with its surroundings. -/
  | closure (style : Style) (body : Body) (env : Env)
  | native (n : Native)
  /-- A function that always gets the same `this` and the same first arguments. -/
  | bound (target : Ref) (this : Value) (args : List Value) (constructs : Bool)
  /-- A function that returns or throws always the same. -/
  | constant (v : Value) (good : Bool)

/-- What a promise waits for: where the outcome goes to, and what is done with it before. -/
structure Reaction where
  onGood : Option Ref
  onBad : Option Ref
  derived : Ref

/-- How far a promise has got. -/
inductive PromiseState where
  | pending (reactions : List Reaction)
  | good (v : Value)
  | bad (v : Value)

/-- What is in a collection, in the order it came in, with gaps where something has been taken
out. -/
abbrev Entries := List (Option (Value × Value))

/-- What a walk gives at each step. -/
inductive Portion where
  | keys
  | values
  | entries
deriving Repr, DecidableEq

/-- A walk through something, and how far it has got. -/
inductive Walk where
  /-- Through what has a length and items. -/
  | items (target : Ref) (next : Nat) (portion : Portion)
  /-- Through the characters of a string. -/
  | units (rest : Units)
  /-- Through a map or a set. -/
  | entries (target : Ref) (next : Nat) (portion : Portion)
  /-- Through all that a pattern finds in a string. -/
  | finds (pattern : Ref) (text : Units) (all whole : Bool)
  | ended

/-- The inner workings of an object. -/
inductive Kind where
  | plain
  | array (length : Nat)
  | function (c : Callable)
  | error
  /-- A worker by what its creation has returned. -/
  | worker (id : Value)
  | date (time : Float)
  | map (entries : Entries)
  /-- A set, where each item goes with itself. -/
  | set (entries : Entries)
  | weakMap (entries : Entries)
  | weakSet (entries : Entries)
  | weakRef (target : Value)
  | regexp (source flags : Units)
  | promise (state : PromiseState)
  | boxed (v : Value)
  /-- Elements of one kind. -/
  | typed (t : Element) (items : Array Value)
  /-- Elements of one kind that are kept as bytes in a buffer, from a place on; without a number
  they go on to its end. -/
  | view (t : Element) (buffer : Ref) (offset : Nat) (length : Option Nat)
  /-- Bytes.  With a bound there may be more or fewer of them later. -/
  | buffer (bytes : Array UInt8) (bound : Option Nat) (shared : Bool)
  /-- Bytes of a buffer that are read and written as one likes. -/
  | dataView (buffer : Ref) (offset : Nat) (length : Option Nat)
  | walk (c : Class) (w : Walk)
  /-- Something that happens only once: whether it has. -/
  | latch (closed : Bool)
  /-- Outcomes that are waited for: how many are missing, those that are there, and where they
  go. -/
  | tally (missing : Nat) (values : Array Value) (promise : Ref)

/-- An object. -/
structure Obj where
  kind : Kind := .plain
  parent : Option Ref := none
  items : Items := .empty
  fields : List (Key × Field) := []
  /-- New fields can be added. -/
  extensible : Bool := true
  /-- The length of the array stays as it is. -/
  fixedLength : Bool := false

instance : Inhabited Obj := ⟨{}⟩

namespace Obj

def isCallable (o : Obj) : Bool :=
  match o.kind with
  | .function _ => true
  | _ => false

/-- The object can make new objects. -/
def isConstructor (o : Obj) : Bool :=
  match o.kind with
  | .function (.closure .plain _ _) | .function (.closure (.assembled _) _ _) => true
  | .function (.native n) => n.isConstructor
  | .function (.bound _ _ _ constructs) => constructs
  | _ => false

def isArray (o : Obj) : Bool :=
  match o.kind with
  | .array _ => true
  | _ => false

def lengthKey : Key := .ofString "length"

/-- The numbered fields that the kind of an object gives it. -/
def innateItems (o : Obj) : List (Nat × Field) :=
  match o.kind with
  | .boxed (.string s) => s.zipIdx.map fun (u, n) ↦ (n, .data (.string [u]) .shown)
  | .typed _ items => items.toList.zipIdx.map fun (v, n) ↦ (n, .plain v)
  | _ => []

/-- The numbered field that the kind of an object gives it. -/
def innateItem? (o : Obj) (i : Nat) : Option Field :=
  match o.kind with
  | .boxed (.string s) => (s[i]?).map fun u ↦ .data (.string [u]) .shown
  | .typed _ items => (items[i]?).map .plain
  | _ => none

/-- The named fields that the kind of an object gives it. -/
def innateFields (o : Obj) : List (Key × Field) :=
  match o.kind with
  | .array n => [(lengthKey, .data (.ofNat n) ⟨!o.fixedLength, false, false⟩)]
  | _ => []

/-- A field of the object itself. -/
def own? (o : Obj) (k : Key) : Option Field :=
  match k with
  | .index i =>
    match o.items.get? i with
    | some f => some f
    | none => o.innateItem? i
  | k =>
    match o.fields.lookup k with
    | some f => some f
    | none => o.innateFields.lookup k

/-- The numbers of the fields of the object itself, in ascending order. -/
def ownIndices (o : Obj) : List Nat :=
  match o.innateItems with
  | [] => o.items.indices
  | innate => innate.map (·.1) ++ o.items.indices

/-- The keys of the object itself: numbers in ascending order, then names, then symbols, each in the
order they were made. -/
def ownKeys (o : Obj) : List Key :=
  let named := (o.innateFields ++ o.fields).map (·.1)
  o.ownIndices.map Key.index ++ named.filter (!·.isSymbol) ++ named.filter (·.isSymbol)

/-- Puts a named field in place of one of the same key, or at the end. -/
def putNamed (o : Obj) (k : Key) (f : Field) : Obj :=
  if o.fields.any (·.1 == k) then
    { o with fields := o.fields.map fun e ↦ if e.1 == k then (k, f) else e }
  else { o with fields := o.fields ++ [(k, f)] }

/-- The number that a value is given as a length. -/
def lengthIn : Field → Option Nat
  | .data (.number x) _ => some (Number.truncated x.toFloat).toNat
  | _ => none

/-- Puts a field.  An array grows with its items; a shorter length cuts items off.  An array of one
kind of elements has only those that it has from the start. -/
def put (o : Obj) (k : Key) (f : Field) : Obj :=
  match k, o.kind with
  | .index i, .array n => { o with kind := .array (max n (i + 1)), items := o.items.put i f }
  | .index i, .typed t items =>
    match f.value? with
    | some v => { o with kind := .typed t (if i < items.size then items.set! i v else items) }
    | none => o
  | .index i, _ => { o with items := o.items.put i f }
  | k, .array _ =>
    if k = lengthKey then
      match lengthIn f with
      | some n =>
        { o with
          kind := .array n
          items := o.items.takeBelow n
          fixedLength := o.fixedLength || !f.flags.writable }
      | none => o
    else o.putNamed k f
  | k, _ => o.putNamed k f

def erase (o : Obj) (k : Key) : Obj :=
  match k with
  | .index i => { o with items := o.items.erase i }
  | k => { o with fields := o.fields.filter (·.1 != k) }

/-- Adds a field that holds a value. -/
def withData (o : Obj) (k : Key) (v : Value) : Obj := o.put k (.plain v)

end Obj

end Script
end ScriptWorkers
