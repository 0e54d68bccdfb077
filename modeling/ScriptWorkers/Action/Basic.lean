import ScriptWorkers.Message.Tagged
import ScriptWorkers.Plan

/-!
# Action programs

The simplest scripts are lists of actions.  An action names what the core can do; callbacks are
bodies of further actions, stored under slots that the program itself chooses.

`Action.ofJson` reads one action, `ofText?` a whole program.
-/

namespace ScriptWorkers

/-- One action of a program. -/
inductive Action where
  /-- Stores the body of a callback. -/
  | define (callback : Slot) (body : List Action)
  | post (p : Payload)
  /-- Posts the message that is being handled. -/
  | echo
  | onMessage (callback : Option Slot)
  | interval (callback : Slot) (period : Option Float)
  | clear (id : UInt32)
  | spawn (script name : String)
  | postTo (name : String) (p : Payload)
  /-- Posts the message that is being handled to a worker. -/
  | forward (name : String)
  | listen (name : String) (callback : Option Slot)
  | terminate (name : String)
  | terminateAll
  | selfTerminate
  | advance (seconds : Float)
  | unload (id : String)
  | log (v : Json)
  | throw (text : String)
  | panic
  | ifData (v : Json) (yes no : List Action)
  /-- A number that is not given is never the right one. -/
  | ifNth (n : Option Nat) (yes no : List Action)
  | unknown (name : String)

namespace Action

/-- The field of an action, null if missing. -/
def part (name : String) (fields : List (String × Json)) : Json := (fields.lookup name).getD .null

/-- A slot, if a number is given. -/
def slotOf (v : Json) : Option Slot := v.nat?.map Nat.toUInt32

/-- An action that holds no other actions. -/
def simple (fields : List (String × Json)) : Action :=
  let value := Payload.ofJson (part "value" fields)
  let callback := slotOf (part "cb" fields)
  let name := (part "w" fields).text
  match (part "do" fields).text with
  | "post" => post value
  | "echo" => echo
  | "on_message" => onMessage callback
  | "interval" => interval (callback.getD 0) (part "period" fields).float?
  | "clear" => clear ((slotOf (part "id" fields)).getD 0)
  | "spawn" => spawn (part "script" fields).text (part "as" fields).text
  | "post_to" => postTo name value
  | "forward" => forward name
  | "listen" => listen name callback
  | "terminate" => terminate name
  | "terminate_all" => terminateAll
  | "self_terminate" => selfTerminate
  | "advance" => advance ((part "s" fields).float?.getD 0.0)
  | "unload" => unload (part "id" fields).text
  | "log" => log (part "value" fields)
  | "throw" => throw (part "text" fields).text
  | "panic" => panic
  | other => unknown other

/-- Puts together an action whose inner actions have been read. -/
def assemble (fields : List (String × Json)) (inner : List (String × List Action)) : Action :=
  let body (name : String) : List Action := (inner.lookup name).getD []
  match (part "do" fields).text with
  | "def" => define ((slotOf (part "cb" fields)).getD 0) (body "body")
  | "if_data" => ifData (part "eq" fields) (body "then") (body "else")
  | "if_nth" => ifNth (part "n" fields).nat? (body "then") (body "else")
  | _ => simple fields

mutual

/-- The action that a value describes. -/
def ofJson : Json → Action
  | .obj fields => assemble fields (ofFields fields)
  | _ => unknown ""

/-- The lists of actions among the fields of an action. -/
def ofFields : List (String × Json) → List (String × List Action)
  | [] => []
  | (name, .arr items) :: rest => (name, ofItems items) :: ofFields rest
  | _ :: rest => ofFields rest

/-- The actions of a list. -/
def ofItems : List Json → List Action
  | [] => []
  | v :: rest => ofJson v :: ofItems rest

end

/-- The program that a text holds: a list in JSON. -/
def ofText? (text : String) : Option (List Action) :=
  match Json.parse text with
  | .ok (.arr items) => some (ofItems items)
  | _ => none

end Action

end ScriptWorkers
