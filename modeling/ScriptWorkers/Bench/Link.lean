import ScriptWorkers.Bench.Mailbox
import ScriptWorkers.Link

/-!
# Trials of links

Several links through a list of operations (`trial`).  While a mailbox of one of them is being
drained, its callback may turn to any of them.
-/

namespace ScriptWorkers
namespace Link

/-- One side of one of several links. -/
structure Address where
  link : Nat
  side : Side
deriving Repr, DecidableEq

/-- What a callback can do while one of the mailboxes is being drained. -/
inductive Reaction where
  | fail (text : String)
  | terminate (link : Nat)
  /-- A post to another mailbox than the one being drained, or to that one once it is closed. -/
  | post (target : Address) (p : Payload)
  | listen (callback : Option Slot)
  | close

/-- What can be done to links. -/
inductive Op where
  | new
  | terminate (link : Nat)
  /-- Whether the number of a link and of its worker are the same. -/
  | named (link : Nat)
  | box (target : Address) (op : Mailbox.Op)

instance : Inhabited Link := ⟨{ id := 0 }⟩

/-- Where one of several links sits. -/
def nth (i : Nat) : Place (List Link) Link := ⟨(·.getD i default), fun l ls ↦ ls.set i l⟩

/-- Where a mailbox of one of several links sits. -/
def Address.place (a : Address) : Place (List Link) Mailbox :=
  (nth a.link).within (Link.place a.side)

/-- The effect of a reaction while `drained` is being drained. -/
def react (drained : Address) : Reaction → Run (Bench (List Link)) (Except ScriptError Unit)
  | .fail text => return .error (.uncaught text)
  | .terminate i => do Bench.part.update ((nth i).modify terminate); return .ok ()
  | .post target p => do
    let place := Bench.part.within target.place
    if target ≠ drained || (← place.read).closed then
      if let .ok b := (← place.read).post p then place.update fun _ ↦ b
    return .ok ()
  | .listen cb => do (Bench.part.within drained.place).update (·.listen cb); return .ok ()
  | .close => do (Bench.part.within drained.place).update (·.close); return .ok ()

def perform (rules : Rules Reaction) : Op → Run (Bench (List Link)) Answer
  | .new => do
    let n := (← Bench.part.read).length + 1
    Bench.part.update (· ++ [{ id := n }])
    return .worker n
  | .terminate i => do
    let old := (← Bench.part.read).getD i default
    Bench.part.update ((nth i).modify terminate)
    return .flag !old.terminated
  | .named i => do return .flag (((← Bench.part.read).getD i default).id == i + 1)
  | .box target op =>
    Mailbox.perform (Bench.part.within target.place) (Bench.callee rules (react target)) op

/-- No links at first, through a list of operations. -/
def trial (rules : Rules Reaction) (ops : List Op) : List (Answer × Array Event × List Link) :=
  Bench.trace (perform rules) ops ⟨[], #[], #[]⟩

end Link
end ScriptWorkers
