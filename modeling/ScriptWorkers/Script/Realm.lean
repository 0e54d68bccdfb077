import ScriptWorkers.Plan
import ScriptWorkers.Script.Heap

/-!
# Running scripts

A script changes the realm it runs in, asks things of the world, and may be stopped by what is
thrown.  What it has changed until then stays changed.

* `Realm` — the state of a context: its heap, its names, its queue of jobs.
* `Eval` — a piece of a script: it reads and changes the realm, asks the world, and ends with a
  value or a `Stop`.
* `raise`, `handling`, `restoring` — what is thrown, and what is done about it.
* `getMember` — reading a member, which may call a function.
-/

namespace ScriptWorkers
namespace Script

/-- A job that waits for the code that is running to come to its end. -/
inductive Job where
  /-- Calls a function; an error takes the jobs behind it with it. -/
  | call (f : Ref)
  /-- Passes the outcome of a promise on, through a function if there is one. -/
  | react (handler : Option Ref) (good : Bool) (v : Value) (derived : Ref)
  /-- Lets a promise follow something that has a method for it. -/
  | follow (promise : Ref) (leader : Value) (method : Ref)

/-- A name that a program has declared for all programs that follow. -/
structure Global where
  /-- Nothing until the declaration has been reached. -/
  value : Option Value
  constant : Bool

/-- The state of a script context. -/
structure Realm where
  heap : Heap := {}
  jobs : List Job := []
  /-- The descriptions of the symbols made so far; some symbols have none. -/
  symbols : Array (Option Units) := #[]
  /-- The symbols that are shared under a key. -/
  registry : List (Units × Nat) := []
  globals : List (Units × Global) := []
  /-- The names of the functions that are running, the innermost first. -/
  stack : List Units := []
  /-- The objects that are being turned into simple values. -/
  converting : List Ref := []
  /-- How often the console has counted for a label. -/
  counts : List (Units × Nat) := []
  /-- The labels that the console takes the time for. -/
  timers : List Units := []
  /-- How many workers the process has made before those of this world. -/
  earlier : Nat := 0

/-- Why a script stops. -/
inductive Stop where
  | thrown (v : Value)
  /-- The bound on nested calls was reached. -/
  | exhausted

/-- A piece of a script that runs. -/
abbrev Eval := ExceptT Stop (StateT Realm DeskPlan)

/-- How a function is called. -/
inductive Manner where
  | call (this : Value)
  /-- To make a new object, which inherits from what the target says. -/
  | new (target : Ref)

abbrev Caller := Ref → Manner → List Value → Eval Value

/-! ## Places -/

def globalRef : Ref := 0

/-- The object that the objects of a class inherit from. -/
def Class.proto (c : Class) : Ref := c.index + 1

/-- The symbols that are there from the start. -/
def firstSymbols : List String :=
  ["toStringTag", "iterator", "toPrimitive", "species", "isConcatSpreadable", "hasInstance",
    "asyncIterator", "match", "matchAll", "replace", "search", "split", "unscopables"]

/-- The symbol of the tag that an object shows in its text. -/
def tagSymbol : Nat := 0

/-- The symbol of the method that starts a walk through an object. -/
def iteratorSymbol : Nat := 1

/-- The symbol of the method that turns an object into a simple value. -/
def toPrimitiveSymbol : Nat := 2

/-- The symbol of the class that is asked for new objects of the same kind. -/
def speciesSymbol : Nat := 3

/-- The symbol that tells whether an object is taken apart when it is put behind an array. -/
def spreadableSymbol : Nat := 4

namespace Obj

def ofClass (c : Class) (k : Kind) : Obj := { kind := k, parent := some c.proto }

/-- An array of values that are kept as they are. -/
def ofValues (vs : List Value) : Obj :=
  { Obj.ofClass .array (.array vs.length) with items := .ofValues vs }

/-- An array of items, some of which may be missing, put in one after the other. -/
def ofItems (vs : List (Option Value)) : Obj :=
  let start := Obj.ofClass .array (.array 0)
  let (o, n) := vs.foldl (fun (o, i) v ↦
    match v with
    | some v => (o.withData (.index i) v, i + 1)
    | none => (o, i + 1)) (start, 0)
  { o with kind := .array n }

def ofError (k : ErrorKind) (message : Units) : Obj :=
  { Obj.ofClass (.error k) .error with
    fields := [(.ofString "message", .data (.string message) .hidden)] }

/-- A function with its length and name. -/
def ofFunction (c : Callable) (length : Nat) (name : Units) : Obj :=
  { Obj.ofClass .function (.function c) with
    fields :=
      [(lengthKey, .data (.ofNat length) .fixed), (.ofString "name", .data (.string name) .fixed)] }

end Obj

namespace Eval

/-- Asks the world for something. -/
def ask (q : DeskRequest) : Eval q.Reply := ExceptT.lift (StateT.lift (Plan.request q))

def note (e : Event) : Eval Unit := ask (.note e)

def heap : Eval Heap := return (← get).heap

def object (r : Ref) : Eval Obj := return (← get).heap.get r

def make (o : Obj) : Eval Ref := do
  let r ← get
  set { r with heap := r.heap.push o }
  return r.heap.size

/-- Makes a new object and refers to it. -/
def makeValue (o : Obj) : Eval Value := return .object (← make o)

def change (r : Ref) (f : Obj → Obj) : Eval Unit :=
  modify fun s ↦ { s with heap := s.heap.modify r f }

def makeSymbol (description : Option Units) : Eval Nat := do
  let r ← get
  set { r with symbols := r.symbols.push description }
  return r.symbols.size

/-- Puts a job at the end of the queue. -/
def enqueue (j : Job) : Eval Unit := modify fun s ↦ { s with jobs := s.jobs ++ [j] }

def throwValue {α : Type} (v : Value) : Eval α := throwThe Stop (.thrown v)

def raise {α : Type} (k : ErrorKind) (message : String) : Eval α := do
  throwValue (← makeValue (.ofError k (Units.ofString message)))

def typeError {α : Type} (message : String) : Eval α := raise .type message

def rangeError {α : Type} (message : String) : Eval α := raise .range message

/-- What is thrown is handled; a bound that has been reached is not. -/
def handling {α : Type} (x : Eval α) (handle : Value → Eval α) : Eval α :=
  tryCatchThe Stop x fun stop ↦
    match stop with
    | .thrown v => handle v
    | .exhausted => throwThe Stop .exhausted

/-- Restores a part of the state at the end, however that comes about. -/
def restoring {α : Type} (restore : Realm → Realm) (x : Eval α) : Eval α := do
  let a ← tryCatchThe Stop x fun stop ↦ do
    modify restore
    throwThe Stop stop
  modify restore
  return a

/-- Runs the code of a function under its name. -/
def within {α : Type} (name : Units) (x : Eval α) : Eval α := do
  let stack := (← get).stack
  modify fun r ↦ { r with stack := name :: stack }
  restoring (fun r ↦ { r with stack := stack }) x

def makeArray (vs : List Value) : Eval Value := makeValue (.ofItems (vs.map some))

end Eval

open Eval

/-- The complaint about a member of nothing. -/
def notAnObject {α : Type} : Eval α := typeError "cannot convert 'null' or 'undefined' to object"

/-- The complaint about a call of what cannot be called. -/
def notCallable {α : Type} : Eval α := typeError "not a callable function"

def callValue (call : Caller) (f this : Value) (args : List Value) : Eval Value := do
  match (← heap).function? f with
  | some r => call r (.call this) args
  | none => notCallable

/-- An argument; a missing one is undefined. -/
def argument (args : List Value) (i : Nat) : Value := (args[i]?).getD .undefined

/-! ## Members -/

/-- The value of a field that has been found, if any. -/
def readField (call : Caller) (receiver : Value) : Option Field → Eval Value
  | none => return .undefined
  | some (.data v _) => return v
  | some (.accessor (some g) _ _) => call g (.call receiver) []
  | some (.accessor none _ _) => return .undefined

def classOf : Value → Class
  | .bool _ => .boolean
  | .number _ => .number
  | .bigint _ => .bigint
  | .string _ => .string
  | .symbol _ => .symbol
  | _ => .object

def stringField? (s : Units) : Key → Option Field
  | .index n => (s[n]?).map fun u ↦ .data (.string [u]) ⟨false, true, false⟩
  | k => if k = Obj.lengthKey then some (.data (.ofNat s.length) .frozen) else none

def memberField (h : Heap) (v : Value) (k : Key) : Option Field :=
  match v with
  | .object r => h.lookup r k
  | .string s =>
    match stringField? s k with
    | some f => some f
    | none => h.lookup Class.string.proto k
  | v => h.lookup (classOf v).proto k

def getMember (call : Caller) (v : Value) (k : Key) : Eval Value := do
  if v.isNothing then notAnObject else readField call v (memberField (← heap) v k)

/-- A member of a value by a text. -/
def getNamed (call : Caller) (v : Value) (name : String) : Eval Value :=
  getMember call v (.ofString name)

def keyText (symbols : Array (Option Units)) : Key → String
  | .symbol id => "Symbol(" ++ (((symbols[id]?).join).getD []).text ++ ")"
  | k => (k.units?.getD []).text

end Script
end ScriptWorkers
