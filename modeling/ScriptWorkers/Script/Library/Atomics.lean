import ScriptWorkers.Script.Library.Typed

/-!
# Operations in one step

Elements of whole numbers can be read, changed and written in one step, so that no other thread
comes between.  Here only one thread sees a buffer, so nobody is ever woken.
-/

namespace ScriptWorkers
namespace Script

open Eval

/-- The elements are whole numbers that simply wrap around. -/
def Element.isAtomic : Element → Bool
  | .clamped | .float16 | .float32 | .float64 => false
  | _ => true

/-- The array of whole numbers that an argument is; `waitable` asks for those that threads can wait
at. -/
def atomicArray (waitable : Bool) (v : Value) : Eval (Ref × Element × Array Value) := do
  let (r, t, items) ← thisTyped v
  let fits := if waitable then t = .int32 ∨ t = .bigInt64 else t.isAtomic = true
  if fits then return (r, t, items)
  else typeError "can only do atomic operations on integer typed arrays"

/-- The place that an argument gives inside of an array. -/
def atomicPlace (call : Caller) (size : Nat) (v : Value) : Eval Nat := do
  let i ← toIndex call v
  if i < size then return i else rangeError "index for atomic operation is out of bounds"

/-- The whole number that an argument is, as wide as it likes. -/
def atomicValue (call : Caller) (t : Element) (v : Value) : Eval Value := do
  if t.isBig then return .bigint (← toBigint call v)
  let f ← toWhole call v
  return .ofFloat (f + 0.0)

/-- Changes an element by an argument and returns what has been there before. -/
def atomicChange (name : String) (f : Nat → Nat → Nat) : Builtin :=
  ⟨name, 3, fun call _ args ↦ do
    let (r, t, items) ← atomicArray false (argument args 0)
    let i ← atomicPlace call items.size (argument args 1)
    let v ← elementOf call t (← atomicValue call t (argument args 2))
    let old := ((← object r).own? (.index i)).bind Field.value? |>.getD t.zero
    let width := Nat.pow 2 (8 * t.bytes)
    change r (·.put (.index i) (.plain (t.ofBits (f (t.bits old) (t.bits v) % width))))
    return old⟩

def atomicFunctions : List Builtin := [
  atomicChange "add" (· + ·),
  atomicChange "and" (· &&& ·),
  ⟨"compareExchange", 4, fun call _ args ↦ do
    let (r, t, items) ← atomicArray false (argument args 0)
    let i ← atomicPlace call items.size (argument args 1)
    let expected ← elementOf call t (← atomicValue call t (argument args 2))
    let new ← elementOf call t (← atomicValue call t (argument args 3))
    let old := ((← object r).own? (.index i)).bind Field.value? |>.getD t.zero
    if t.bits old = t.bits expected then change r (·.put (.index i) (.plain new))
    return old⟩,
  atomicChange "exchange" fun _ new ↦ new,
  ⟨"isLockFree", 1, fun call _ args ↦ do
    let n ← toWhole call (argument args 0)
    return .bool (n == 1.0 || n == 2.0 || n == 4.0 || n == 8.0)⟩,
  ⟨"load", 2, fun call _ args ↦ do
    let (r, t, items) ← atomicArray false (argument args 0)
    let i ← atomicPlace call items.size (argument args 1)
    return ((← object r).own? (.index i)).bind Field.value? |>.getD t.zero⟩,
  ⟨"notify", 3, fun call _ args ↦ do
    let (_, _, items) ← atomicArray true (argument args 0)
    let _ ← atomicPlace call items.size (argument args 1)
    if !(argument args 2 matches .undefined) then
      let _ ← toWhole call (argument args 2)
    return .ofNat 0⟩,
  atomicChange "or" (· ||| ·),
  ⟨"store", 3, fun call _ args ↦ do
    let (r, t, items) ← atomicArray false (argument args 0)
    let i ← atomicPlace call items.size (argument args 1)
    let v ← atomicValue call t (argument args 2)
    let e ← elementOf call t v
    change r (·.put (.index i) (.plain e))
    return v⟩,
  ⟨"sub", 3, fun call this args ↦ do
    (atomicChange "sub" fun a b ↦ a + (UInt64.size - b)).run call this args⟩,
  ⟨"wait", 4, fun call _ args ↦ do
    let (r, t, items) ← atomicArray true (argument args 0)
    match (← heap).kept r |>.kind with
    | .view _ b _ _ =>
      if ((buffer? (← heap) b).any (·.shared)) then
        let i ← atomicPlace call items.size (argument args 1)
        let v ← elementOf call t (← atomicValue call t (argument args 2))
        let old := ((← object r).own? (.index i)).bind Field.value? |>.getD t.zero
        return .ofString (if t.bits old = t.bits v then "timed-out" else "not-equal")
      else typeError "cannot use \x60ArrayBuffer\x60 for an atomic wait"
    | _ => typeError "cannot use \x60ArrayBuffer\x60 for an atomic wait"⟩,
  atomicChange "xor" (· ^^^ ·)]

end Script
end ScriptWorkers
