import ScriptWorkers.Message
import ScriptWorkers.Script.Convert

/-!
# Values in messages

A value that is posted is first searched for functions, which no message can carry, and then turned
into JSON.  The search follows all fields of an object that are not symbols, reads accessors, and
passes each object once, so it comes to an end on cycles.  The conversion goes by the stored fields
only and finds cycles itself.

* `rejectFunctions` — the search; `jsonOf` — the conversion; `toMessage` — both, when a value is
  posted.
* `ofJson` — the value of a message that is delivered.
-/

namespace ScriptWorkers
namespace Script

open Eval

/-- The complaint about a value that cannot be posted. -/
def cloneError {α : Type} (text : String) : Eval α := typeError ("DataCloneError: " ++ text)

/-- Looks for functions in a value, at most `n` levels deep; `seen` are the objects passed before.
Returns the objects passed after. -/
def rejectFunctions (call : Caller) (seen : List Ref) (v : Value) : Nat → Eval (List Ref)
  | 0 => throwThe Stop .exhausted
  | n + 1 => do
    match v with
    | .object r =>
      let o ← object r
      if o.isCallable then cloneError "function could not be cloned"
      else if seen.contains r then return seen
      else
        (o.ownKeys.filter (!·.isSymbol)).foldlM
          (fun seen k ↦ do rejectFunctions call seen (← getMember call v k) n) (r :: seen)
    | _ => return seen

/-- A number in a message: a word without a point, a double with one, and nothing else at all. -/
def jsonOfNumber : Number → Json
  | .word n => .int n.toInt
  | .double f => if f.isFinite then .float f else .null

/-- The JSON value of a value, at most `n` levels deep; `above` are the objects around it.  There is
none for an undefined value. -/
def jsonOf (h : Heap) (above : List Ref) (v : Value) : Nat → Except String (Option Json)
  | 0 => .error "too deep"
  | n + 1 =>
    match v with
    | .undefined => .ok none
    | .null => .ok (some .null)
    | .bool b => .ok (some (.bool b))
    | .number x => .ok (some (jsonOfNumber x))
    | .string s => .ok (some (.str s.text))
    | .bigint _ => .error "cannot convert bigint to JSON"
    | .symbol _ => .error "cannot convert Symbol to JSON"
    | .object r =>
      if above.contains r then .error "cyclic object value"
      else
        let o := h.get r
        match o.kind with
        | .array len => do
          let parts ← (List.range len).mapM fun i ↦
            jsonOf h (r :: above) (((o.items.get? i).bind Field.value?).getD .undefined) n
          return some (.arr (parts.map (·.getD .null)))
        | .function .. => .ok none
        | _ => do
          let stored := o.items.toList.map (fun (i, f) ↦ (Key.index i, f)) ++ o.fields
          let parts ← stored.filterMapM fun (k, f) ↦
            match k.units? with
            | none => .error "cannot convert Symbol to JSON"
            | some name =>
              match f with
              | .accessor .. => .ok (some (name.text, Json.null))
              | .data x _ => (jsonOf h (r :: above) x n).map fun j ↦ j.map fun j ↦ (name.text, j)
          return some (Json.object parts)

/-- How much deeper than the number of objects a search may go because accessors make new ones. -/
def searchAllowance : Nat := 10000

/-- The JSON value of a value that is posted. -/
def toMessage (call : Caller) (v : Value) : Eval Json := do
  let _ ← rejectFunctions call [] v ((← Eval.heap).size + searchAllowance)
  let h ← Eval.heap
  match jsonOf h [] v (h.size + 2) with
  | .ok j => return j.getD .null
  | .error text => cloneError ("TypeError: " ++ text)

mutual

/-- The value of a JSON value.  A whole number is a word if it fits. -/
def ofJson : Json → Eval Value
  | .null => return .null
  | .bool b => return .bool b
  | .int n => return .number (.ofInt n)
  | .float f => return .ofFloat f
  | .str s => return .string (Units.ofString s)
  | .arr items => do
    let vs ← ofItems items
    makeValue (.ofValues vs)
  | .obj fields => do
    let o ← ofFields (.ofClass .object .plain) fields
    makeValue o

/-- The values of items. -/
def ofItems : List Json → Eval (List Value)
  | [] => return []
  | x :: rest => do
    let v ← ofJson x
    return v :: (← ofItems rest)

/-- An object with fields added to it. -/
def ofFields (o : Obj) : List (String × Json) → Eval Obj
  | [] => return o
  | (k, x) :: rest => do
    let v ← ofJson x
    ofFields (o.withData (.ofString k) v) rest

end

end Script
end ScriptWorkers
