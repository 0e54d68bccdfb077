import ScriptWorkers.Script.Bytes

/-!
# The heap

All objects of a context are kept in a row, and a reference is a place there.  An array that looks
at the bytes of a buffer is kept as a view; it is seen with its elements, and what is changed of
them is written to the buffer.

`get` and `modify` see every object as scripts do; `lookup` follows the line of inheritance.
-/

namespace ScriptWorkers
namespace Script

/-- The objects of a context. -/
structure Heap where
  objects : Array Obj := #[]

namespace Heap

def size (h : Heap) : Nat := h.objects.size

/-- The object at a place as it is kept, an empty one where there is none. -/
def kept (h : Heap) (r : Ref) : Obj := h.objects.getD r {}

def bytes (h : Heap) (r : Ref) : Array UInt8 :=
  match (h.kept r).kind with
  | .buffer bytes _ _ => bytes
  | _ => #[]

/-- The object at a place, an empty one where there is none. -/
def get (h : Heap) (r : Ref) : Obj :=
  let o := h.kept r
  match o.kind with
  | .view t b offset length =>
    { o with kind := .typed t (Bytes.elements t (h.bytes b) offset length) }
  | _ => o

/-- Puts an object in place of another one. -/
def replace (h : Heap) (r : Ref) (o : Obj) : Heap := ⟨h.objects.setIfInBounds r o⟩

def changeBytes (h : Heap) (r : Ref) (f : Array UInt8 → Array UInt8) : Heap :=
  ⟨h.objects.modify r fun o ↦
    match o.kind with
    | .buffer bytes bound shared => { o with kind := .buffer (f bytes) bound shared }
    | _ => o⟩

/-- Changes the object at a place. -/
def modify (h : Heap) (r : Ref) (f : Obj → Obj) : Heap :=
  match (h.kept r).kind with
  | .view t b offset length =>
    let o := f (h.get r)
    match o.kind with
    | .typed _ items =>
      (h.changeBytes b (Bytes.putElements t offset items.toList)).replace r
        { o with kind := .view t b offset length }
    | _ => h.replace r o
  | _ => ⟨h.objects.modify r f⟩

/-- Adds an object, at the place that `size` tells beforehand. -/
def push (h : Heap) (o : Obj) : Heap := ⟨h.objects.push o⟩

/-- The field of an object or of what it inherits from, over at most `n` generations. -/
def find? (h : Heap) (k : Key) : Nat → Ref → Option Field
  | 0, _ => none
  | n + 1, r =>
    match (h.get r).own? k with
    | some f => some f
    | none => (h.get r).parent.bind (h.find? k n)

/-- The field of an object or of what it inherits from. -/
def lookup (h : Heap) (r : Ref) (k : Key) : Option Field := h.find? k (h.size + 1) r

def isCallable (h : Heap) : Value → Bool
  | .object r => (h.get r).isCallable
  | _ => false

def function? (h : Heap) : Value → Option Ref
  | .object r => if (h.get r).isCallable then some r else none
  | _ => none

end Heap

end Script
end ScriptWorkers
