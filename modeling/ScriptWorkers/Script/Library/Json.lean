import ScriptWorkers.Json.Document
import ScriptWorkers.Script.Library.Number
import ScriptWorkers.Script.Library.Object
import ScriptWorkers.Script.Quoted

/-!
# JSON texts

What scripts show is the JSON text of a value as the language itself writes it: functions, symbols
and undefined values are left out, accessors are read, and a method `toJSON` is heeded.  A function
or a list of names may have a say in what is written, and the text may be laid out in lines.

The value of a JSON text is what the text would stand for in a program.
-/

namespace ScriptWorkers
namespace Script

open Eval

/-! ## Writing -/

/-- How a value is written. -/
structure Writing where
  /-- A function that is asked for what stands in place of a value. -/
  replacer : Option Ref := none
  /-- The only names of fields that are written. -/
  names : Option (List Units) := none
  /-- What a line starts with for each level, if there are lines at all. -/
  gap : Units := []

/-- The simple value of an object around one, and every other value itself. -/
def unboxed (call : Caller) (v : Value) : Eval Value := do
  match v with
  | .object r =>
    match (← object r).kind with
    | .boxed (.number _) => return .ofFloat (← toNumber call v)
    | .boxed (.string _) => return .string (← toUnits call v)
    | .boxed (.bool b) => return .bool b
    | .boxed (.bigint n) => return .bigint n
    | _ => return v
  | v => return v

/-- The value that is written in place of another: what its `toJSON` and then the replacer make of
it, and the simple value of an object around one. -/
def written (call : Caller) (w : Writing) (holder : Value) (key : Units) (v : Value) :
    Eval Value := do
  let v ← match v with
    | .object _ | .bigint _ => do
      match (← heap).function? (← getNamed call v "toJSON") with
      | some m => call m (.call v) [.string key]
      | none => pure v
    | _ => pure v
  let v ← match w.replacer with
    | some f => call f (.call holder) [.string key, v]
    | none => pure v
  unboxed call v

/-- Parts between two brackets, each on a line of its own if there are lines. -/
def bracketed (w : Writing) (indent : Units) (opening closing : UInt16) (parts : List Units) :
    Units :=
  if parts.isEmpty then [opening, closing]
  else if w.gap.isEmpty then opening :: (commaJoined parts ++ [closing])
  else
    let line := 10 :: (indent ++ w.gap)
    opening :: (line ++ joined (44 :: line) parts ++ 10 :: (indent ++ [closing]))

def fieldText (w : Writing) (k t : Units) : Units :=
  quoted k ++ (if w.gap.isEmpty then 58 :: t else 58 :: 32 :: t)

/-- The JSON text of a value, at most `n` levels deep; `above` are the objects around it. -/
def textOfValue (call : Caller) (w : Writing) (above : List Ref) (indent : Units) (holder : Value)
    (key : Units) (v : Value) : Nat → Eval (Option Units)
  | 0 => throwThe Stop .exhausted
  | n + 1 => do
    match ← written call w holder key v with
    | .null => return some (Units.ofString "null")
    | .bool b => return some (Units.ofString (if b then "true" else "false"))
    | .string s => return some (quoted s)
    | .number x => return some (if x.toFloat.isFinite then x.text else Units.ofString "null")
    | .bigint _ => typeError "cannot serialize bigint to JSON"
    | .undefined | .symbol _ => return none
    | .object r => do
      let o ← object r
      if o.isCallable then return none
      if above.contains r then typeError "cyclic object value"
      let inner := indent ++ w.gap
      if o.isArray then
        let parts ← (List.range (← lengthOf call (.object r))).mapM fun i ↦ do
          let k := Units.ofString (toString i)
          let x ← getMember call (.object r) (.index i)
          return (← textOfValue call w (r :: above) inner (.object r) k x n).getD
            (Units.ofString "null")
        return some (bracketed w indent 91 93 parts)
      else
        let parts ← (w.names.getD (shownNames o)).filterMapM fun k ↦ do
          let x ← getMember call (.object r) (.ofUnits k)
          return (← textOfValue call w (r :: above) inner (.object r) k x n).map (fieldText w k)
        return some (bracketed w indent 123 125 parts)

/-- The bound on the depth of a value that is written or read. -/
def depthBound : Nat := 100000

/-- The names that the items of a list stand for. -/
def namesOf (call : Caller) (v : Value) : Eval (List Units) := do
  let add (names : List Units) (s : Units) : List Units :=
    if names.contains s then names else names ++ [s]
  (← itemsOf call v).foldlM (fun names item ↦ do
    match item with
    | .string s => return add names s
    | .number x => return add names x.text
    | .object r =>
      match (← object r).kind with
      | .boxed (.string _) | .boxed (.number _) => return add names (← toUnits call item)
      | _ => return names
    | _ => return names) []

/-- What lines start with, given as a number of blanks or as a text, of at most ten units. -/
def gapOf (call : Caller) (v : Value) : Eval Units := do
  match ← unboxed call v with
  | .number x => return List.replicate (min 10 (lengthOfFloat x.toFloat)) 32
  | .string s => return s.take 10
  | _ => return []

/-- How arguments ask for a value to be written. -/
def writingOf (call : Caller) (replacer space : Value) : Eval Writing := do
  let h ← heap
  let names ← match replacer with
    | .object r => do if (h.get r).isArray then pure (some (← namesOf call replacer)) else pure none
    | _ => pure none
  return { replacer := h.function? replacer, names := names, gap := ← gapOf call space }

def stringify (call : Caller) (args : List Value) : Eval Value := do
  let w ← writingOf call (argument args 1) (argument args 2)
  let v := argument args 0
  let holder ← makeValue ((Obj.ofClass .object .plain).withData (.ofString "") v)
  match ← textOfValue call w [] [] holder [] v depthBound with
  | some s => return .string s
  | none => return .undefined

/-! ## Reading -/

/-- The number of a text without a sign. -/
def numberOfDigits (cs : List Char) : Number :=
  match Constant.unsigned? cs with
  | some (.number x) => x
  | _ => .nan

/-- The number of a text: as in a program, a sign is an operation on what follows. -/
def numberOfDocument : List Char → Number
  | '-' :: cs => (numberOfDigits cs).neg
  | cs => numberOfDigits cs

mutual

def ofDocument : Json.Document → Eval Value
  | .null => return .null
  | .bool b => return .bool b
  | .number cs => return .number (numberOfDocument cs)
  | .text cs => return .ofString (String.ofList cs)
  | .list items => do
    let vs ← ofDocuments items
    makeArray vs
  | .record fields => do
    let o ← withDocuments (.ofClass .object .plain) fields
    makeValue o

def ofDocuments : List Json.Document → Eval (List Value)
  | [] => return []
  | d :: rest => do
    let v ← ofDocument d
    return v :: (← ofDocuments rest)

/-- An object with fields added to it. -/
def withDocuments (o : Obj) : List (List Char × Json.Document) → Eval Obj
  | [] => return o
  | (k, d) :: rest => do
    let v ← ofDocument d
    withDocuments (o.withData (.ofString (String.ofList k)) v) rest

end

/-- Lets a function have a say about a field and, before that, about all that is inside, at most `n`
levels deep. -/
def revive (call : Caller) (f : Ref) (holder : Ref) (k : Key) : Nat → Eval Value
  | 0 => throwThe Stop .exhausted
  | n + 1 => do
    let v ← getMember call (.object holder) k
    match v with
    | .object r =>
      let o ← object r
      let keys ← if o.isArray then do pure ((List.range (← lengthOf call v)).map Key.index)
        else pure ((shownNames o).map Key.ofUnits)
      keys.forM fun k ↦ do
        match ← revive call f r k n with
        | .undefined => do let _ ← deleteOwn r k
        | x => do let _ ← defineOwn call r k (.plain x)
    | _ => pure ()
    call f (.call (.object holder)) [.string (k.units?.getD []), v]

/-- A string has a surrogate without its partner. -/
def hasLone : Units → Bool
  | [] => false
  | hi :: lo :: rest =>
    if Units.isHigh hi && Units.isLow lo then hasLone rest
    else Units.isHigh hi || Units.isLow hi || hasLone (lo :: rest)
  | [u] => Units.isHigh u || Units.isLow u

def parseJson (call : Caller) (args : List Value) : Eval Value := do
  let s ← toUnits call (argument args 0)
  if hasLone s then raise .grammar "invalid utf-16: lone surrogate found"
  match Json.Document.parse s.text with
  | .error text => raise .grammar text
  | .ok d =>
    let v ← ofDocument d
    match (← heap).function? (argument args 1) with
    | none => return v
    | some f =>
      let holder ← make ((Obj.ofClass .object .plain).withData (.ofString "") v)
      revive call f holder (.ofString "") depthBound

/-- Functions that deal with JSON texts. -/
def jsonFunctions : List Builtin := [
  ⟨"parse", 2, fun call _ args ↦ parseJson call args⟩,
  ⟨"stringify", 3, fun call _ args ↦ stringify call args⟩]

end Script
end ScriptWorkers
