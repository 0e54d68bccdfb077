import ScriptWorkers.Action.Basic
import ScriptWorkers.World.Basic

/-!
# Contexts of action programs

An action program is turned into a plan action by action, and the first failure ends it.  `execute`
runs a program, `call` the body of a callback, and `engine` puts both together for the world.
-/

namespace ScriptWorkers
namespace Action

/-- What a context of action programs remembers. -/
structure Context where
  isWorker : Bool
  /-- Workers by the names the program has given them. -/
  names : List (String × WorkerId) := []
  bodies : List (Slot × List Action) := []
  /-- The slots called so far. -/
  calls : Array Slot := #[]

/-- The circumstances of a run: the message being handled, and the how-manieth call it is. -/
structure Occasion where
  data : Json := .null
  nth : Nat := 0

/-- Actions change the context, ask for things and may end the run. -/
abbrev Act := ExceptT Ending (StateT Context FreePlan)

def ask (q : Request) : Act q.Reply := ExceptT.lift (StateT.lift (Plan.request q))

/-- Lets an event be seen. -/
def note (e : Event) : Act Unit := ask (.desk (.note e))

/-- Ends the run with an error. -/
def failWith {α : Type} (text : String) : Act α := throwThe Ending (.failed (.uncaught text))

/-- Only a worker can do what follows. -/
def workerOnly : Act Unit := do unless (← get).isWorker do failWith "not a worker"

def named (name : String) : Act WorkerId := do
  match (← get).names.lookup name with
  | some id => return id
  | none => failWith ("no worker named " ++ name)

/-- The message of a payload. -/
def encoded (p : Payload) : Act Message :=
  match Message.encode p with
  | .ok m => return m
  | .error e => failWith e.message

mutual

def perform (now : Occasion) : Action → Act Unit
  | define cb body => modify fun c ↦ { c with bodies := (cb, body) :: c.bodies }
  | post p => do
    workerOnly
    ask (.desk (.post (← encoded p)))
  | echo => do
    workerOnly
    ask (.desk (.post (.ofJson now.data)))
  | onMessage cb => do
    workerOnly
    note (.previous (← ask (.listen cb)))
  | interval cb period => do note (.interval (← ask (.addTimer cb period)))
  | clear id => do note (.removed (← ask (.removeTimer id)))
  | spawn script name => do
    match ← ask (.spawn script) with
    | .ok id =>
      note (.spawned id)
      modify fun c ↦ { c with names := (name, id) :: c.names }
    | .error e => failWith e.message
  | postTo name p => do
    let id ← named name
    ask (.postTo id (← encoded p))
  | forward name => do ask (.postTo (← named name) (.ofJson now.data))
  | listen name cb => do note (.previous (← ask (.listenTo (← named name) cb)))
  | terminate name => do ask (.terminate (← named name))
  | terminateAll => ask .terminateAll
  | selfTerminate => do
    workerOnly
    note (.terminated (← ask .resign))
  | advance s => ask (.advance s)
  | unload id => do let _ ← ask (.unload id)
  | log v => note (.emit v)
  | throw text => failWith text
  | panic => throwThe Ending .panicked
  | ifData v yes no => if now.data == v then performAll now yes else performAll now no
  | ifNth n yes no => if n == some now.nth then performAll now yes else performAll now no
  | unknown name => failWith ("unknown action " ++ name)

/-- Performs actions one after the other. -/
def performAll (now : Occasion) : List Action → Act Unit
  | [] => return ()
  | a :: rest => do
    perform now a
    performAll now rest

end

def plan (x : Act Unit) (c : Context) : FreePlan (Context × Ending) := do
  let (r, c') ← x.run.run c
  match r with
  | .ok () => return (c', .done)
  | .error ending => return (c', ending)

namespace Context

/-- Runs a program. -/
def execute (c : Context) (code : Code) (name : String) : FreePlan (Context × Ending) :=
  let program := match code with
    | .text s => ofText? s
    | .program _ => none
  match program with
  | some actions => plan (do note (.exec name); performAll {} actions) c
  | none => return (c, .failed (.compile name "not a list of actions"))

/-- Runs the body of a callback. -/
def call (c : Context) (slot : Slot) (args : List Json) : FreePlan (Context × Ending) :=
  let c := { c with calls := c.calls.push slot }
  plan (do
    note (.call slot args)
    performAll { data := Message.dataOf args, nth := c.calls.count slot }
      ((c.bodies.lookup slot).getD []))
    c

end Context

/-- The engine of action programs. -/
def engine (refused : List WorkerId) : Engine Context where
  create id :=
    if refused.contains id then .error (.context "refused") else .ok { isWorker := id != 0 }
  execute := Context.execute
  call := Context.call

end Action
end ScriptWorkers
