import ScriptWorkers.Event

/-!
# What a context offers

The classes and functions that a script finds in its context: those of the language itself, the
console, and those that deal with workers.  Here they only have names and places; what they do is up
to the modules that follow.

* `Class` — the classes, with their names, parents and numbers of parameters.
* `Home` and `Native` — where a function is found, and which one it is.
-/

namespace ScriptWorkers
namespace Script

/-! ## Classes -/

/-- Kinds of errors. -/
inductive ErrorKind where
  | error
  | type
  | range
  | reference
  | grammar
  | eval
  | uri
  /-- Of several errors. -/
  | aggregate
deriving Repr, DecidableEq

namespace ErrorKind

def all : List ErrorKind := [error, type, range, reference, grammar, eval, uri, aggregate]

def name : ErrorKind → String
  | error => "Error"
  | type => "TypeError"
  | range => "RangeError"
  | reference => "ReferenceError"
  | grammar => "SyntaxError"
  | eval => "EvalError"
  | uri => "URIError"
  | aggregate => "AggregateError"

def index : ErrorKind → Nat
  | error => 0
  | type => 1
  | range => 2
  | reference => 3
  | grammar => 4
  | eval => 5
  | uri => 6
  | aggregate => 7

end ErrorKind

/-- Kinds of elements of an array that holds nothing else. -/
inductive Element where
  | int8
  | uint8
  | clamped
  | int16
  | uint16
  | int32
  | uint32
  | bigInt64
  | bigUint64
  | float16
  | float32
  | float64
deriving Repr, DecidableEq

namespace Element

def all : List Element :=
  [int8, uint8, clamped, int16, uint16, int32, uint32, bigInt64, bigUint64, float16, float32,
    float64]

def name : Element → String
  | int8 => "Int8Array"
  | uint8 => "Uint8Array"
  | clamped => "Uint8ClampedArray"
  | int16 => "Int16Array"
  | uint16 => "Uint16Array"
  | int32 => "Int32Array"
  | uint32 => "Uint32Array"
  | bigInt64 => "BigInt64Array"
  | bigUint64 => "BigUint64Array"
  | float16 => "Float16Array"
  | float32 => "Float32Array"
  | float64 => "Float64Array"

def index : Element → Nat
  | int8 => 0
  | uint8 => 1
  | clamped => 2
  | int16 => 3
  | uint16 => 4
  | int32 => 5
  | uint32 => 6
  | bigInt64 => 7
  | bigUint64 => 8
  | float16 => 9
  | float32 => 10
  | float64 => 11

end Element

/-- Classes of objects. -/
inductive Class where
  | object
  | function
  | array
  | string
  | number
  | boolean
  | symbol
  | bigint
  | date
  | regexp
  | map
  | set
  | weakMap
  | weakSet
  | weakRef
  | promise
  | proxy
  | arrayBuffer
  | sharedArrayBuffer
  | dataView
  | worker
  /-- What all walks through something inherit from. -/
  | iterator
  | arrayIterator
  | stringIterator
  | mapIterator
  | setIterator
  | patternIterator
  /-- What all arrays of elements of one kind inherit from. -/
  | typedArray
  | error (k : ErrorKind)
  | typed (t : Element)
deriving Repr, DecidableEq

namespace Class

/-- The classes that are not one of a family. -/
def single : List Class :=
  [object, function, array, string, number, boolean, symbol, bigint, date, regexp, map, set,
    weakMap,
    weakSet, weakRef, promise, proxy, arrayBuffer, sharedArrayBuffer, dataView, worker, iterator,
    arrayIterator, stringIterator, mapIterator, setIterator, patternIterator, typedArray]

def all : List Class := single ++ ErrorKind.all.map error ++ Element.all.map typed

def index : Class → Nat
  | object => 0
  | function => 1
  | array => 2
  | string => 3
  | number => 4
  | boolean => 5
  | symbol => 6
  | bigint => 7
  | date => 8
  | regexp => 9
  | map => 10
  | set => 11
  | weakMap => 12
  | weakSet => 13
  | weakRef => 14
  | promise => 15
  | proxy => 16
  | arrayBuffer => 17
  | sharedArrayBuffer => 18
  | dataView => 19
  | worker => 20
  | iterator => 21
  | arrayIterator => 22
  | stringIterator => 23
  | mapIterator => 24
  | setIterator => 25
  | patternIterator => 26
  | typedArray => 27
  | error k => 28 + k.index
  | typed t => 36 + t.index

def count : Nat := 48

def name : Class → String
  | object => "Object"
  | function => "Function"
  | array => "Array"
  | string => "String"
  | number => "Number"
  | boolean => "Boolean"
  | symbol => "Symbol"
  | bigint => "BigInt"
  | date => "Date"
  | regexp => "RegExp"
  | map => "Map"
  | set => "Set"
  | weakMap => "WeakMap"
  | weakSet => "WeakSet"
  | weakRef => "WeakRef"
  | promise => "Promise"
  | proxy => "Proxy"
  | arrayBuffer => "ArrayBuffer"
  | sharedArrayBuffer => "SharedArrayBuffer"
  | dataView => "DataView"
  | worker => "Worker"
  | iterator => "Iterator"
  | arrayIterator => "Array Iterator"
  | stringIterator => "String Iterator"
  | mapIterator => "Map Iterator"
  | setIterator => "Set Iterator"
  | patternIterator => "RegExp String Iterator"
  | typedArray => "TypedArray"
  | error k => k.name
  | typed t => t.name

/-- The number of parameters that the class announces. -/
def arity : Class → Nat
  | symbol | map | set | weakMap | weakSet | worker | iterator | typedArray => 0
  | regexp | proxy | error .aggregate => 2
  | typed _ => 3
  | date => 7
  | _ => 1

/-- What a class inherits from: the errors from the first of them, walks from walks, arrays of one
kind from what they have in common, all others from objects. -/
def parent : Class → Class
  | error .error => object
  | error _ => error .error
  | arrayIterator | stringIterator | mapIterator | setIterator | patternIterator => iterator
  | typed _ => typedArray
  | _ => object

/-- The class can be found by its name. -/
def isGlobal : Class → Bool
  | iterator | arrayIterator | stringIterator | mapIterator | setIterator | patternIterator
  | typedArray => false
  | _ => true

/-- There is a function that makes objects of the class. -/
def hasConstructor : Class → Bool
  | iterator | arrayIterator | stringIterator | mapIterator | setIterator | patternIterator => false
  | _ => true

/-- Objects of the class show its name in their text. -/
def isTagged : Class → Bool
  | symbol | bigint | map | set | weakMap | weakSet | weakRef | promise | arrayBuffer
  | sharedArrayBuffer | dataView | arrayIterator | stringIterator | mapIterator | setIterator
  | patternIterator => true
  | typed _ => true
  | _ => false

end Class

/-! ## Functions -/

/-- Where a function of a context is found. -/
inductive Home where
  /-- The class itself. -/
  | statics (c : Class)
  /-- What the objects of a class inherit. -/
  | methods (c : Class)
  /-- Functions that read and write what an object of a class has inside. -/
  | getters (c : Class)
  | setters (c : Class)
  /-- The global object of every context. -/
  | globals
  /-- Functions that deal with workers, on the global object. -/
  | host
  /-- Those of them that only a worker has. -/
  | workerHost
  /-- The handler of a worker's own. -/
  | scopeGetters
  | scopeSetters
  | console
  | math
  | json
  | reflect
  | atomics
deriving Repr, DecidableEq

/-- What is done with the outcome of one promise out of several. -/
inductive Gathering where
  /-- It is one of the values. -/
  | value
  /-- It is told together with whether it is good. -/
  | good
  | bad
  /-- It is one of the errors. -/
  | error
deriving Repr, DecidableEq

/-- A function of a context. -/
inductive Native where
  /-- A class, called to make an object or to convert a value. -/
  | constructor (c : Class)
  /-- A function by the place where it is found and its name there. -/
  | member (home : Home) (name : String)
  /-- Settles a promise, for good or for bad, unless its latch has been closed. -/
  | settle (promise latch : Nat) (good : Bool)
  /-- Puts an outcome in its place among others. -/
  | gather (tally place latch : Nat) (how : Gathering)
  /-- Calls a function before an outcome is passed on. -/
  | afterwards (f : Nat) (good : Bool)
  /-- A function that does nothing of interest. -/
  | idle
deriving Repr, DecidableEq

namespace Native

/-- The members of worker objects are scripts themselves, and so are the accessors of a worker's own
handler: a call of one of them is a level of its own. -/
def isScripted : Native → Bool
  | member (.methods .worker) _ | member (.getters .worker) _ | member (.setters .worker) _ => true
  | member .scopeGetters _ | member .scopeSetters _ => true
  | constructor .worker => true
  | _ => false

/-- The function can be asked for new objects. -/
def isConstructor : Native → Bool
  | constructor _ | member .host _ | member .workerHost _ => true
  | _ => false

end Native

end Script
end ScriptWorkers
