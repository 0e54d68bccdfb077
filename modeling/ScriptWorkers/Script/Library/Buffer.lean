import ScriptWorkers.Script.Library.Array

/-!
# Buffers

A buffer holds bytes, which are read and written through views: as elements of one kind, or as
numbers of any kind at any place.  A buffer that is made with a bound can change its size up to it.
-/

namespace ScriptWorkers
namespace Script

open Eval

def byteBound : Nat := Nat.pow 2 28

/-- The complaint about too many bytes. -/
def noRoom {α : Type} : Eval α := rangeError "couldn't allocate the data block"

def bufferClass (shared : Bool) : Class := if shared then .sharedArrayBuffer else .arrayBuffer

/-- The bytes and the bound of a buffer. -/
structure Buffer where
  bytes : Array UInt8
  bound : Option Nat
  shared : Bool

def buffer? (h : Heap) (r : Ref) : Option Buffer :=
  match (h.kept r).kind with
  | .buffer bytes bound shared => some ⟨bytes, bound, shared⟩
  | _ => none

/-- The buffer of a class that a function of some name is called on. -/
def thisBuffer (shared : Bool) (name : String) (this : Value) : Eval (Ref × Buffer) := do
  let complain {α : Type} : Eval α :=
    typeError ((bufferClass shared).name ++ "." ++ name ++
      " called with invalid \x60this\x60 value")
  match this with
  | .object r =>
    match buffer? (← heap) r with
    | some b => if b.shared = shared then return (r, b) else complain
    | none => complain
  | _ => complain

/-- Changes the number of bytes of a buffer; new ones are zero. -/
def resized (n : Nat) (bytes : Array UInt8) : Array UInt8 :=
  bytes.extract 0 n ++ (List.replicate (n - bytes.size) 0).toArray

/-- The bound that options ask for. -/
def boundFrom (call : Caller) (options : Value) : Eval (Option Nat) := do
  match options with
  | .object _ =>
    match ← getNamed call options "maxByteLength" with
    | .undefined => return none
    | v => return some (← toIndex call v)
  | _ => return none

def bufferFrom (call : Caller) (shared : Bool) (parent : Ref) (args : List Value) : Eval Value := do
  let n ← toIndex call (argument args 0)
  let bound ← boundFrom call (argument args 1)
  if bound.any (· < n) then rangeError "\x60length\x60 cannot be bigger than \x60maxByteLength\x60"
  if byteBound < bound.getD n then noRoom
  makeValue { kind := .buffer (resized n #[]) bound shared, parent := some parent }

/-- Functions of the class of buffers. -/
def bufferStatics : List Builtin := [
  ⟨"isView", 1, fun _ _ args ↦ do
    match argument args 0 with
    | .object r =>
      match (← object r).kind with
      | .typed .. | .dataView .. => return .bool true
      | _ => return .bool false
    | _ => return .bool false⟩]

def bufferMethods (shared : Bool) : List Builtin := [
  ⟨if shared then "grow" else "resize", 1, fun call this args ↦ do
    let name := if shared then "grow" else "resize"
    let (r, b) ← thisBuffer shared name this
    match b.bound with
    | none =>
      typeError ((bufferClass shared).name ++ "." ++ name ++ ": cannot " ++ name ++
        " a fixed-length buffer")
    | some bound =>
      let n ← toIndex call (argument args 0)
      if bound < n then
        rangeError ((bufferClass shared).name ++ "." ++ name ++
          ": new byte length exceeds buffer's maximum byte length")
      if shared && n < b.bytes.size then
        rangeError "SharedArrayBuffer.grow: failed to grow buffer to new length"
      modify fun s ↦ { s with heap := s.heap.changeBytes r (resized n) }
      return .undefined⟩,
  ⟨"slice", 2, fun call this args ↦ do
    let (_, b) ← thisBuffer shared "slice" this
    let start ← placeOf call b.bytes.size (argument args 0) 0
    let stop ← placeOf call b.bytes.size (argument args 1) b.bytes.size
    makeValue (.ofClass (bufferClass shared) (.buffer (b.bytes.extract start stop) none shared))⟩]

/-- What can be read of buffers of a class. -/
def bufferGetters (shared : Bool) : List Builtin := [
  ⟨"byteLength", 0,
    fun _ this _ ↦ do return .ofNat (← thisBuffer shared "byteLength" this).2.bytes.size⟩,
  ⟨if shared then "growable" else "resizable", 0, fun _ this _ ↦ do
    return .bool
      (← thisBuffer shared (if shared then "growable" else "resizable") this).2.bound.isSome⟩,
  ⟨"maxByteLength", 0, fun _ this _ ↦ do
    let (_, b) ← thisBuffer shared "maxByteLength" this
    return .ofNat (b.bound.getD b.bytes.size)⟩]

/-! ## Numbers of any kind at any place -/

/-- A view of a buffer for numbers of any kind. -/
def dataViewFrom (call : Caller) (parent : Ref) (args : List Value) : Eval Value := do
  let complain {α : Type} : Eval α := typeError "buffer must be an ArrayBuffer"
  match argument args 0 with
  | .object r =>
    match buffer? (← heap) r with
    | none => complain
    | some b =>
      let offset ← toIndex call (argument args 1)
      if b.bytes.size < offset then rangeError "Start offset is outside the bounds of the buffer"
      let length ← match argument args 2 with
        | .undefined => pure (if b.bound.isSome then none else some (b.bytes.size - offset))
        | v => do
          let n ← toIndex call v
          if b.bytes.size < offset + n then rangeError "Invalid data view length"
          pure (some n)
      makeValue { kind := .dataView r offset length, parent := some parent }
  | _ => complain

/-- The view that a function is called on: its buffer, where it starts, and how many bytes it
has. -/
def thisDataView (this : Value) : Eval (Ref × Nat × Nat) := do
  let complain {α : Type} : Eval α := typeError "\x60this\x60 is not a DataView"
  match this with
  | .object r =>
    match (← object r).kind with
    | .dataView b offset length =>
      let size := ((← heap).bytes b).size
      return (b, offset, length.getD (size - offset))
    | _ => complain
  | _ => complain

/-- The kinds of numbers that such a view reads and writes, with their names. -/
def viewedElements : List (String × Element) :=
  [("BigInt64", .bigInt64), ("BigUint64", .bigUint64), ("Float16", .float16), ("Float32", .float32),
    ("Float64", .float64), ("Int8", .int8), ("Int16", .int16), ("Int32", .int32), ("Uint8", .uint8),
    ("Uint16", .uint16), ("Uint32", .uint32)]

/-- Bytes in the order that is asked for; those of a number start with the highest otherwise. -/
def inOrderOf (lowFirst : Bool) (bytes : List UInt8) : List UInt8 :=
  if lowFirst then bytes else bytes.reverse

/-- The complaint about a place that is not in the view. -/
def outsideView {α : Type} : Eval α := rangeError "Offset is outside the bounds of the DataView"

def readViewed (t : Element) : Caller → Value → List Value → Eval Value :=
  fun call this args ↦ do
    let _ ← thisDataView this
    let i ← toIndex call (argument args 0)
    let (b, offset, length) ← thisDataView this
    if length < i + t.bytes then outsideView
    let bytes := ((← heap).bytes b).extract (offset + i) (offset + i + t.bytes)
    return t.ofBits (Bytes.toNat (inOrderOf (truthy (argument args 1)) bytes.toList))

def writeViewed (t : Element) : Caller → Value → List Value → Eval Value :=
  fun call this args ↦ do
    let _ ← thisDataView this
    let i ← toIndex call (argument args 0)
    let v ← elementOf call t (argument args 1)
    let (b, offset, length) ← thisDataView this
    if length < i + t.bytes then outsideView
    let bytes := inOrderOf (truthy (argument args 2)) (Bytes.ofNat (t.bits v) t.bytes)
    modify fun s ↦ { s with heap := s.heap.changeBytes b (Bytes.put (offset + i) bytes) }
    return .undefined

def dataViewMethods : List Builtin :=
  viewedElements.map (fun (name, t) ↦ ⟨"get" ++ name, 1, readViewed t⟩) ++
    viewedElements.map (fun (name, t) ↦ ⟨"set" ++ name, 2, writeViewed t⟩)

/-- What can be read of such views. -/
def dataViewGetters : List Builtin := [
  ⟨"buffer", 0, fun _ this _ ↦ do return .object (← thisDataView this).1⟩,
  ⟨"byteLength", 0, fun _ this _ ↦ do return .ofNat (← thisDataView this).2.2⟩,
  ⟨"byteOffset", 0, fun _ this _ ↦ do return .ofNat (← thisDataView this).2.1⟩]

end Script
end ScriptWorkers
