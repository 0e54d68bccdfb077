/-!
# Computations on a state

Everything that happens to mailboxes, timers and workers is a computation on some larger state,
because a callback may reach any part of it.  `Run σ α` is such a computation: it ends with a value
or is broken off, and in both cases leaves a state behind.  A `Place` is where in the larger state a
part sits.

* `Abort` — why a computation was broken off: a panic, a bound that was reached, an endless script.
* `Place.read`, `Place.update`, `Place.within` — reading and changing a part, and parts of parts.
-/

namespace ScriptWorkers

/-- Why a computation was broken off. -/
inductive Abort where
  /-- A script panicked; its thread unwinds. -/
  | panic
  /-- The bound on nested computations was reached. -/
  | exhausted
  /-- The script context of that number goes on for ever. -/
  | endless (context : Nat)
deriving Repr, DecidableEq

/-- A computation on a state of type `σ`, which is kept when the computation is broken off. -/
abbrev Run (σ : Type) := EStateM Abort σ

/-- Where a part of type `τ` sits in a state of type `σ`. -/
structure Place (σ τ : Type) where
  get : σ → τ
  set : τ → σ → σ

namespace Place

variable {σ τ υ : Type}

/-- The whole state. -/
def whole : Place σ σ := ⟨id, fun t _ ↦ t⟩

/-- Changes the part. -/
def modify (p : Place σ τ) (f : τ → τ) (s : σ) : σ := p.set (f (p.get s)) s

/-- A part of a part. -/
def within (p : Place σ τ) (q : Place τ υ) : Place σ υ :=
  ⟨fun s ↦ q.get (p.get s), fun u ↦ p.modify (q.set u)⟩

/-- Reads the part. -/
def read (p : Place σ τ) : Run σ τ := do return p.get (← MonadState.get)

/-- Changes the part of the current state. -/
def update (p : Place σ τ) (f : τ → τ) : Run σ Unit :=
  MonadState.modifyGet fun s ↦ ((), p.modify f s)

end Place

end ScriptWorkers
