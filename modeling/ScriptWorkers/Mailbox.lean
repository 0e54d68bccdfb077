import ScriptWorkers.Callee

/-!
# Mailboxes

This part is the message queue between two threads.  A mailbox holds messages in the order of their
arrival and at most one callback.  One side posts, the other side drains: `Mailbox.drain` walks the
messages that are there when it starts, reads the callback anew before each of them, and stops at
the first message that finds none.  What was walked is removed at the end, so a panic on the way
leaves every message in place.

While a drain is going on nobody else gets in.  A post from another thread waits in `waiting`, gets
in behind the messages that are left once the drain is over, and is given up when the mailbox is
closed.  A closed mailbox takes no more messages, but what it holds can still be drained.

## What is here

* `push` and `pushWaiting` — a message arrives, while nobody drains or while somebody does.
* `post` — a payload is encoded, then pushed; the encoding comes first and may fail.
* `listen`, `close` — the callback is replaced; the mailbox is closed for good.
* `walk`, `settle`, `drain` — the messages are handed over, then removed.
-/

namespace ScriptWorkers

/-- Messages for one side of a link. -/
structure Mailbox where
  /-- The messages, the oldest first. -/
  items : List Message := []
  /-- Posts of other threads that wait for the end of a drain. -/
  waiting : List Message := []
  closed : Bool := false
  callback : Option Slot := none
deriving Repr, DecidableEq

namespace Mailbox

/-- Adds a message at the end, unless the mailbox is closed. -/
def push (b : Mailbox) (m : Message) : Mailbox :=
  if b.closed then b else { b with items := b.items ++ [m] }

/-- Adds a message from another thread while a drain is going on. -/
def pushWaiting (b : Mailbox) (m : Message) : Mailbox :=
  if b.closed then b else { b with waiting := b.waiting ++ [m] }

/-- Encodes a payload and adds it.  The payload is encoded first, so that a bad one is an error even
for a closed mailbox. -/
def post (b : Mailbox) (p : Payload) : Except SerializationError Mailbox :=
  (Message.encode p).map b.push

/-- Replaces the callback. -/
def listen (b : Mailbox) (callback : Option Slot) : Mailbox := { b with callback }

/-- Closes the mailbox for good; posts that wait are given up. -/
def close (b : Mailbox) : Mailbox := { b with closed := true, waiting := [] }

/-- The end of a drain: the first `n` messages go, the posts that waited come in. -/
def settle (b : Mailbox) (n : Nat) : Mailbox :=
  { b with items := b.items.drop n ++ b.waiting, waiting := [] }

variable {σ : Type}

/-- Hands over messages as long as a callback is registered; counts them. -/
def walk (place : Place σ Mailbox) (callee : Callee σ) : List Message → Run σ Nat
  | [] => return 0
  | m :: rest => do
    match (← place.read).callback with
    | none => return 0
    | some slot =>
      callee.deliver slot m
      return (← walk place callee rest) + 1

/-- Hands the messages of a mailbox to its callback and returns how many it has consumed. -/
def drain (place : Place σ Mailbox) (callee : Callee σ) : Run σ Nat := do
  let box ← place.read
  if box.callback.isNone then return 0
  let n ← walk place callee box.items
  place.update (·.settle n)
  return n

end Mailbox

end ScriptWorkers
