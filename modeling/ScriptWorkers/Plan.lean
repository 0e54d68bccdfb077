import ScriptWorkers.Event

/-!
# Plans

A script context does not touch the world around it.  What it does when it is entered is a plan: it
asks for one thing after the other, goes on with the replies, and ends.  The world serves the
requests.  So a context can be anything that makes plans, and the world can be reasoned about
without knowing what runs in it.

Requests come in two kinds.  Some speak of callbacks by their slots and of any worker by its number.
The others go over the desk of the context, which hands out slots for functions and remembers the
workers that the context holds; these can never mix up a slot.  A plan of desk requests only is a
`DeskPlan`.

* `Request` and `DeskRequest` — all that a context can ask for, each with the type of its reply.
* `Plan` — a tree of requests; `Plan.run` carries it out.
* `Ending` — how an entry into a context ends: well, with an error, in a panic, or never.
-/

namespace ScriptWorkers

/-- A function of a script context, by a number of the context's own choosing. -/
abbrev FunctionRef := Nat

/-- What a script may assign as a handler. -/
inductive Handler where
  | function (f : FunctionRef)
  | clear
  /-- Neither a function nor nothing. -/
  | invalid
deriving Repr, DecidableEq

/-- Whose messages a handler is for: the context's own, or those of a worker it holds. -/
inductive Source where
  | owner
  | worker (id : WorkerId)
deriving Repr, DecidableEq

/-- The handler that is registered. -/
inductive Registered where
  | nothing
  /-- A callback whose function has been given up. -/
  | released
  | function (f : FunctionRef)
deriving Repr, DecidableEq

/-- Something a script context asks for that cannot go wrong with slots. -/
inductive DeskRequest where
  /-- Lets an event be seen. -/
  | note (e : Event)
  /-- Posts to the owner. -/
  | post (m : Message)
  /-- Whether the desk holds a worker. -/
  | holds (id : WorkerId)
  /-- The function retained under a slot. -/
  | function (slot : Slot)
  /-- Registers or removes a handler. -/
  | handle (source : Source) (h : Handler)
  | handler (source : Source)
  | startInterval (f : FunctionRef) (period : Option Float)
  | stopInterval (id : UInt32)
  /-- Creates a worker and holds it. -/
  | create (script : String)
  /-- Posts to a worker that is held. -/
  | send (id : WorkerId) (m : Message)
  /-- Terminates a worker that is held and lets go of it. -/
  | retire (id : WorkerId)

/-- What a desk request is answered by. -/
@[reducible]
def DeskRequest.Reply : DeskRequest → Type
  | note _ | post _ => Unit
  | holds _ => Bool
  | function _ => Option FunctionRef
  | handle .. => Unit
  | handler _ => Registered
  | startInterval .. => UInt32
  | stopInterval _ => Unit
  | create _ => Except CreationError WorkerId
  | send .. => Unit
  | retire _ => Unit

/-- Something a script context asks for. -/
inductive Request where
  | desk (q : DeskRequest)
  /-- Moves the clock on. -/
  | advance (seconds : Float)
  /-- Takes a script away. -/
  | unload (id : String)
  /-- Replaces the callback for the owner's messages. -/
  | listen (callback : Option Slot)
  | addTimer (callback : Slot) (period : Option Float)
  | removeTimer (id : UInt32)
  | spawn (script : String)
  | postTo (id : WorkerId) (m : Message)
  /-- Replaces the callback for a worker's messages. -/
  | listenTo (id : WorkerId) (callback : Option Slot)
  | terminate (id : WorkerId)
  /-- Terminates all workers of the context. -/
  | terminateAll
  /-- Terminates the context's own link. -/
  | resign

/-- What a request is answered by. -/
@[reducible]
def Request.Reply : Request → Type
  | desk q => q.Reply
  | advance _ => Unit
  | unload _ => Bool
  | listen _ => Option Slot
  | addTimer .. => UInt32
  | removeTimer _ => Option Slot
  | spawn _ => Except CreationError WorkerId
  | postTo .. => Unit
  | listenTo .. => Option Slot
  | terminate _ | terminateAll => Unit
  | resign => Bool

/-- A computation that asks for things and ends with a value; `R` says what each request is answered
by. -/
inductive Plan {Q : Type} (R : Q → Type) (α : Type) where
  | done (a : α)
  | ask (q : Q) (next : R q → Plan R α)

/-- A computation of a context that goes over its desk. -/
abbrev DeskPlan := Plan DeskRequest.Reply

/-- A computation of any context. -/
abbrev FreePlan := Plan Request.Reply

namespace Plan

variable {Q : Type} {R : Q → Type} {α β : Type}

/-- Goes on with another plan. -/
def bind : Plan R α → (α → Plan R β) → Plan R β
  | done a, f => f a
  | ask q next, f => ask q fun r ↦ (next r).bind f

instance : Monad (Plan R) where
  pure := done
  bind := bind

/-- The plan to ask for one thing. -/
def request (q : Q) : Plan R (R q) := ask q done

/-- Carries a plan out where `serve` answers its requests. -/
def run {m : Type → Type} [Monad m] (serve : (q : Q) → m (R q)) : Plan R α → m α
  | done a => pure a
  | ask q next => do
    let r ← serve q
    (next r).run serve

/-- A plan of desk requests as a plan among others. -/
def free : DeskPlan α → FreePlan α
  | done a => done a
  | ask q next => ask (.desk q) fun r ↦ (next r).free

end Plan

/-- How an entry into a script context ends. -/
inductive Ending where
  | done
  | failed (e : ScriptError)
  | panicked
  /-- It never does: the script goes on for ever. -/
  | endless
deriving Repr, DecidableEq

end ScriptWorkers
