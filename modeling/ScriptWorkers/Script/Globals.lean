import ScriptWorkers.Script.Library

/-!
# A fresh context

The objects that a context has before any script has run in it: the global object, the classes
with what their objects inherit, and the functions.  `Realm.fresh` puts the tables of
functions on the heap.

`Build` is the heap while it is being filled; `buildGlobals` goes over the tables of functions,
class by class.
-/

namespace ScriptWorkers
namespace Script

/-! ## Constants -/

/-- The values that a class itself has, which never change. -/
def constantsOf : Class → List (String × Value)
  | .symbol => firstSymbols.zipIdx.map fun (name, i) ↦ (name, .symbol i)
  | .number =>
    [("EPSILON", .ofFloat (Float.scaleB 1.0 (-52))),
      ("MAX_SAFE_INTEGER", .ofFloat 9007199254740991.0),
      ("MIN_SAFE_INTEGER", .ofFloat (-9007199254740991.0)),
      ("MAX_VALUE", .ofFloat 1.7976931348623157e308), ("MIN_VALUE", .ofFloat 5e-324),
      ("POSITIVE_INFINITY", .ofFloat (1.0 / 0.0)), ("NEGATIVE_INFINITY", .ofFloat (-1.0 / 0.0)),
      ("NaN", .number .nan)]
  | .typed t => [("BYTES_PER_ELEMENT", .ofNat t.bytes)]
  | _ => []

def mathConstants : List (String × Value) :=
  [("E", .ofFloat 2.718281828459045), ("LN10", .ofFloat 2.302585092994046),
    ("LN2", .ofFloat 0.6931471805599453), ("LOG10E", .ofFloat 0.4342944819032518),
    ("LOG2E", .ofFloat 1.4426950408889634), ("PI", .ofFloat 3.141592653589793),
    ("SQRT1_2", .ofFloat 0.7071067811865476), ("SQRT2", .ofFloat 1.4142135623730951)]

/-! ## Putting them on the heap -/

abbrev Build := StateM (Array Obj)

namespace Build

def add (o : Obj) : Build Ref := do
  let a ← get
  set (a.push o)
  return a.size

/-- Adds a field to an object that is there, or puts it in place of one of the same key. -/
def extendKey (r : Ref) (k : Key) (f : Field) : Build Unit :=
  modify fun a ↦ a.modify r (·.putNamed k f)

/-- Adds a field to an object that is there. -/
def extend (r : Ref) (name : String) (f : Field) : Build Unit := extendKey r (.ofString name) f

/-- The object that a field of another one holds; the global object if there is none. -/
def held (r : Ref) (name : String) : Build Ref := do
  match (((← get)[r]?).bind (·.own? (.ofString name))).bind Field.value? with
  | some (.object s) => return s
  | _ => return globalRef

/-- Gives an object a function of another one, under a name of its own. -/
def share (r : Ref) (name : String) (from_ : Ref) (source : String) : Build Unit := do
  extendKey r (Builtin.key name) (.data (.object (← held from_ source)) .hidden)

/-- Gives an object a tag to show in its text. -/
def tag (r : Ref) (name : String) : Build Unit :=
  extendKey r (.symbol tagSymbol) (.data (.ofString name) .fixed)

def function (name : String) (n : Native) (length : Nat) : Build Ref :=
  add (.ofFunction (.native n) length (Units.ofString name))

/-- Adds the functions of a place as fields of an object.  A conversion cannot be replaced, and a
class for objects of the same kind is read by a function. -/
def functions (r : Ref) (home : Home) : Build Unit :=
  (builtins home).forM fun b ↦ do
    if b.name = "[Symbol.species]" then
      let f ← function ("get " ++ b.name) (.member home b.name) 0
      extendKey r (Builtin.key b.name) (.accessor (some f) none .fixed)
    else
      let f ← function b.name (.member home b.name) b.length
      extendKey r (Builtin.key b.name)
        (.data (.object f) (if b.name = "[Symbol.toPrimitive]" then .fixed else .hidden))

/-- Adds values that never change as fields of an object. -/
def constants (r : Ref) (entries : List (String × Value)) : Build Unit :=
  entries.forM fun (name, v) ↦ extend r name (.data v .frozen)

/-- Adds the functions that read and write, each under a name with a word in front. -/
def accessors (r : Ref) (getters setters : Home) (naming : String → String → String) : Build Unit :=
  (builtins getters).forM fun b ↦ do
    let g ← function (naming "get" b.name) (.member getters b.name) 0
    let s ← match Builtin.find? (builtins setters) b.name with
      | some c => do pure (some (← function (naming "set" c.name) (.member setters c.name) 1))
      | none => pure none
    extendKey r (Builtin.key b.name) (.accessor (some g) s .fixed)

/-- Adds an object that holds constants and functions, with a tag. -/
def holder (name : String) (fixed : List (String × Value)) (home : Option Home) : Build Unit := do
  let r ← add (.ofClass .object .plain)
  constants r fixed
  if let some h := home then functions r h
  tag r name
  extend globalRef name (.data (.object r) .hidden)

/-- Adds what the objects of a class inherit. -/
def inherited (c : Class) : Build Unit := do
  functions c.proto (.methods c)
  accessors c.proto (.getters c) (.setters c) fun word name ↦ word ++ " " ++ name
  if c.isTagged then tag c.proto c.name
  if let .typed _ := c then constants c.proto (constantsOf c)
  if let .error k := c then
    extend c.proto "name" (.data (.ofString k.name) .hidden)
    extend c.proto "message" (.data (.string []) .hidden)

/-- Adds a class with what its objects inherit, as a global field with some flags. -/
def cls (c : Class) (flags : Flags) : Build Unit := do
  if c.hasConstructor then
    let parent ← if c.parent = .object then pure Class.function.proto
      else held c.parent.proto "constructor"
    let f ← add { Obj.ofFunction (.native (.constructor c)) c.arity (Units.ofString c.name) with
      parent := some parent }
    extend f "prototype" (.data (.object c.proto) .frozen)
    constants f (constantsOf c)
    functions f (.statics c)
    extend c.proto "constructor" (.data (.object f) .hidden)
    if c.isGlobal then extend globalRef c.name (.data (.object f) flags)
  inherited c

end Build

open Build

/-- The object that the objects of a class inherit from, as it is before it has any methods.  Some
of them are an object of their own class. -/
def bareProto (c : Class) : Obj :=
  match c with
  | .object => {}
  | .function => { Obj.ofFunction (.native .idle) 0 [] with parent := some c.parent.proto }
  | .array => .ofClass c.parent (.array 0)
  | .string => { boxed (.string []) with parent := some c.parent.proto }
  | .number => .ofClass c.parent (.boxed (.ofNat 0))
  | .boolean => .ofClass c.parent (.boxed (.bool false))
  | _ => .ofClass c.parent .plain

/-- Functions that are found under several names. -/
def shareFunctions : Build Unit := do
  share Class.array.proto "[Symbol.iterator]" Class.array.proto "values"
  share Class.typedArray.proto "[Symbol.iterator]" Class.typedArray.proto "values"
  share Class.typedArray.proto "toString" Class.array.proto "toString"
  share Class.map.proto "[Symbol.iterator]" Class.map.proto "entries"
  share Class.set.proto "keys" Class.set.proto "values"
  share Class.set.proto "[Symbol.iterator]" Class.set.proto "values"
  let number ← held globalRef "Number"
  share number "parseFloat" globalRef "parseFloat"
  share number "parseInt" globalRef "parseInt"

/-- Puts everything that a context has on the heap. -/
def buildGlobals (isWorker : Bool) : Build Unit := do
  extend globalRef "undefined" (.data .undefined .frozen)
  extend globalRef "NaN" (.data (.number .nan) .frozen)
  extend globalRef "Infinity" (.data (.ofFloat (1.0 / 0.0)) .frozen)
  extend globalRef "globalThis" (.data (.object globalRef) .hidden)
  (Class.all.filter (· ≠ .worker)).forM fun c ↦ cls c .hidden
  holder "JSON" [] (some .json)
  holder "Math" mathConstants (some .math)
  holder "Reflect" [] (some .reflect)
  holder "Atomics" [] (some .atomics)
  holder "console" [] (some .console)
  functions globalRef .globals
  extend globalRef "queueMicrotask" (.data (.object (← held globalRef "queueMicrotask")) .all)
  shareFunctions
  functions globalRef .host
  cls .worker .all
  if isWorker then
    functions globalRef .workerHost
    extend globalRef "self" (.data (.object globalRef) .all)
    accessors globalRef .scopeGetters .scopeSetters fun word _ ↦ word

/-- The realm of a new context, in a process that has made `earlier` workers for other worlds. -/
def Realm.fresh (isWorker : Bool) (earlier : Nat) : Realm :=
  let first := (Obj.ofClass .object .plain :: Class.all.map bareProto).toArray
  let (_, objects) := (buildGlobals isWorker).run first
  { heap := ⟨objects⟩
    earlier
    symbols := (firstSymbols.map fun s ↦ some (Units.ofString ("Symbol." ++ s))).toArray }

end Script
end ScriptWorkers
