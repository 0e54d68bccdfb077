import ScriptWorkers.Mailbox

/-!
# Links

This part is the port that a worker and its owner share.  A link has a mailbox in each
direction and a mark that the worker has been told to end.  Termination closes both mailboxes
and is never taken back.

The inbox holds what the owner has posted, the outbox what the worker has.  `Link.terminate` is all
that termination does to the link itself, and `Link.place` is where the mailbox of a side sits.
-/

namespace ScriptWorkers

/-- The two-way line between a worker and its owner. -/
structure Link where
  id : WorkerId
  terminated : Bool := false
  /-- From the owner to the worker. -/
  inbox : Mailbox := {}
  /-- From the worker to the owner. -/
  outbox : Mailbox := {}
deriving Repr, DecidableEq

/-- One of the two mailboxes of a link. -/
inductive Side where
  | inbox
  | outbox
deriving Repr, DecidableEq

namespace Link

/-- Terminates the link. -/
def terminate (l : Link) : Link :=
  { l with terminated := true, inbox := l.inbox.close, outbox := l.outbox.close }

/-- The mailbox of a side. -/
def box (l : Link) : Side → Mailbox
  | .inbox => l.inbox
  | .outbox => l.outbox

/-- Replaces the mailbox of a side. -/
def setBox (side : Side) (b : Mailbox) (l : Link) : Link :=
  match side with
  | .inbox => { l with inbox := b }
  | .outbox => { l with outbox := b }

/-- Where the mailbox of a side sits. -/
def place (side : Side) : Place Link Mailbox := ⟨(·.box side), setBox side⟩

end Link

end ScriptWorkers
