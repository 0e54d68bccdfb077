import ScriptWorkers.Script.Realm
import ScriptWorkers.Text.Shown

/-!
# Showing values

The text that shows a value to people: a string in quotes, an array in one line, any other object
with a line for each field.  What an array or a field holds is shown in less detail.  Showing a
value calls nothing, so the text depends on the stored fields only.
-/

namespace ScriptWorkers
namespace Script

/-- The text that shows a simple value. -/
def showSimple (symbols : Array (Option Units)) : Value → String
  | .undefined => "undefined"
  | .null => "null"
  | .bool b => if b then "true" else "false"
  | .number x => if x.isNegativeZero then "-0" else x.text.text
  | .bigint n => toString n ++ "n"
  | .string s => Text.shown s.text
  | .symbol id => keyText symbols (.symbol id)
  | .object _ => ""

/-- The value of a field along the line of inheritance, without calling anything. -/
def storedValue? (h : Heap) (r : Ref) (name : String) : Option Value :=
  (h.lookup r (.ofString name)).bind Field.value?

/-- The text of a field that holds one. -/
def storedText? (h : Heap) (r : Ref) (name : String) : Option String :=
  match storedValue? h r name with
  | some (.string s) => some s.text
  | _ => none

/-- The name and the message of an error. -/
def showError (h : Heap) (symbols : Array (Option Units)) (r : Ref) : String :=
  let part (name default : String) : String :=
    match storedValue? h r name with
    | some (.string s) => s.text
    | some v => showSimple symbols v
    | none => default
  let name := part "name" "<error>"
  let message := part "message" ""
  if name.isEmpty then message else if message.isEmpty then name else name ++ ": " ++ message

/-- The name of the class of an object, as what it inherits from tells; objects of no particular
class have none. -/
def className? (h : Heap) (o : Obj) : Option String := do
  let p ← o.parent
  let _ ← (h.get p).parent
  let f ← (h.get p).own? (.ofString "constructor")
  match f with
  | .data (.object c) _ =>
    match (h.get c).own? (.ofString "name") with
    | some (.data (.string s) _) => some s.text
    | _ => none
  | _ => none

/-- What stands in front of the fields of an object. -/
def showClass (h : Heap) (o : Obj) : String :=
  match className? h o with
  | some name => name ++ " "
  | none => ""

def blanks (n : Nat) : String := String.ofList (List.replicate n ' ')

/-- The stored fields of an object in the order they are shown. -/
def storedFields (o : Obj) : List (Key × Field) :=
  o.items.toList.map (fun (i, f) ↦ (Key.index i, f)) ++ o.innateFields ++ o.fields

/-- A value inside a field, with `indent` blanks in front of its own fields.  The objects that are
being shown are kept, together with the arrays that have been: none of these is shown again. -/
def showInner (h : Heap) (symbols : Array (Option Units)) (indent : Nat) (v : Value) :
    Nat → StateM (List Ref) String
  | 0 => return ""
  | n + 1 => do
    match v with
    | .object r =>
      if (← get).contains r then return "[Cycle]"
      modify (r :: ·)
      let o := h.get r
      match o.kind with
      | .array len => return "Array(" ++ toString len ++ ")"
      | _ =>
        let lines ← (storedFields o).mapM fun (k, f) ↦ do
          let key := keyText symbols k ++ ": "
          let text ← match f with
            | .data x _ => showInner h symbols (indent + 4) x n
            | .accessor .. => pure (key ++ "Getter & Setter")
          return blanks indent ++ key ++ text
        modify (·.erase r)
        return showClass h o ++ "\x7b\n" ++ ",\n".intercalate lines ++ "\n" ++
          blanks (indent - 4) ++ "\x7d"
    | v => return showSimple symbols v

/-- The text of an object with a line for each field. -/
def showFields (h : Heap) (symbols : Array (Option Units)) (v : Value) : String :=
  (Id.run ((showInner h symbols 4 v (h.size + 2)).run [])).1

/-- A list in braces, or the number of its members if it is not to be opened. -/
def showMembers (name : String) (isOpen : Bool) (members : List String) : String :=
  if members.isEmpty then name ++ "(0)"
  else if isOpen then name ++ " \x7b " ++ ", ".intercalate members ++ " \x7d"
  else name ++ "(" ++ toString members.length ++ ")"

/-- The text that shows a value; what it holds is opened only if `isOpen`. -/
def showWithin (h : Heap) (symbols : Array (Option Units)) (isOpen : Bool) (v : Value) :
    Nat → String
  | 0 => ""
  | n + 1 =>
    match v with
    | .object r =>
      let o := h.get r
      let closed (v : Value) : String := showWithin h symbols false v n
      match o.kind with
      | .boxed (.string s) => "String \x7b " ++ Text.shown s.text ++ " \x7d"
      | .boxed (.bool b) => "Boolean \x7b " ++ (if b then "true" else "false") ++ " \x7d"
      | .boxed (.number x) => "Number \x7b " ++ showSimple symbols (.number x) ++ " \x7d"
      | .array len =>
        if !isOpen then "Array(" ++ toString len ++ ")"
        else if len = 0 then "[]"
        else
          let items := (List.range len).map fun i ↦
            match (o.items.get? i).bind Field.value? with
            | some v => closed v
            | none => "<empty>"
          "[ " ++ ", ".intercalate items ++ " ]"
      | .map entries =>
        showMembers "Map" isOpen
          (entries.filterMap id |>.map fun (k, v) ↦ closed k ++ " → " ++ closed v)
      | .set entries => showMembers "Set" isOpen (entries.filterMap id |>.map fun (k, _) ↦ closed k)
      | .error => showError h symbols r
      | .promise state =>
        let inner := match state with
          | .pending _ => "<pending>"
          | .good v => showWithin h symbols true v n
          | .bad v => "<rejected> " ++ showWithin h symbols true v n
        "Promise \x7b " ++ inner ++ " \x7d"
      | .function _ =>
        match storedText? h r "name", o.isConstructor with
        | some name, true => "[class " ++ name ++ "]"
        | some name, false => "[Function: " ++ name ++ "]"
        | none, true => "[class (anonymous)]"
        | none, false => "[Function (anonymous)]"
      | _ => showFields h symbols v
    | v => showSimple symbols v

def Realm.display (r : Realm) (v : Value) : String :=
  showWithin r.heap r.symbols true v (r.heap.size + 2)

end Script
end ScriptWorkers
