import ScriptWorkers.Bench.Basic
import ScriptWorkers.Mailbox

/-!
# Trials of a mailbox

A mailbox alone, through a list of operations (`trial`).  While it is being drained, its callback
may be replaced, the mailbox may be closed, other threads may post, and the callback may fail.
-/

namespace ScriptWorkers
namespace Mailbox

/-- What a callback can do to the mailbox that is being drained. -/
inductive Reaction where
  | fail (text : String)
  | listen (callback : Option Slot)
  | close
  /-- A post from another thread, which has to wait for the end of the drain. -/
  | postAside (p : Payload)
  /-- A post that is made only if the mailbox is closed. -/
  | postClosed (p : Payload)

/-- What can be done to a mailbox. -/
inductive Op where
  | post (p : Payload)
  | listen (callback : Option Slot)
  | callback
  | drain
  | close

variable {σ : Type}

/-- Performs an operation; `callee` is the context of a drain. -/
def perform (place : Place σ Mailbox) (callee : Callee σ) : Op → Run σ Answer
  | .post p => do
    match (← place.read).post p with
    | .ok b => place.update fun _ ↦ b; return .done
    | .error e => return .unserializable e
  | .listen cb => do
    let old := (← place.read).callback
    place.update (·.listen cb)
    return .slot old
  | .callback => do return .slot (← place.read).callback
  | .drain => do return .count (← drain place callee)
  | .close => do
    place.update (·.close)
    return .nothing

def react : Reaction → Run (Bench Mailbox) (Except ScriptError Unit)
  | .fail text => return .error (.uncaught text)
  | .listen cb => do Bench.part.update (·.listen cb); return .ok ()
  | .close => do Bench.part.update close; return .ok ()
  | .postAside p => do
    if let .ok m := Message.encode p then Bench.part.update (·.pushWaiting m)
    return .ok ()
  | .postClosed p => do
    if (← Bench.part.read).closed then
      if let .ok m := Message.encode p then Bench.part.update (·.push m)
    return .ok ()

/-- A new mailbox through a list of operations. -/
def trial (rules : Rules Reaction) (ops : List Op) : List (Answer × Array Event × Mailbox) :=
  Bench.trace (perform Bench.part (Bench.callee rules react)) ops ⟨{}, #[], #[]⟩

end Mailbox
end ScriptWorkers
