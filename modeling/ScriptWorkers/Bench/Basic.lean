import ScriptWorkers.Answer
import ScriptWorkers.Callee

/-!
# A bench for single parts

Mailboxes, links and intervals can be exercised without any worker.  The script context of such a
trial is a table of rules: when the core invokes a slot, the invocation is noted and the rules of
that slot act on the part under trial.

`performAll` are the actions of a rule, `callee` is the context, and `trace` performs operations one
after the other, with what is seen of each.
-/

namespace ScriptWorkers

/-- A part under trial, with what has happened to it. -/
structure Bench (τ : Type) where
  subject : τ
  /-- The slots called so far. -/
  calls : Array Slot := #[]
  events : Array Event := #[]

/-- When a rule acts. -/
inductive Guard where
  | always
  /-- On the call of that number, counted from one. -/
  | nth (n : Nat)
  /-- On a message that holds this value. -/
  | data (v : Json)

/-- What to do on a call. -/
structure Rule (α : Type) where
  guard : Guard
  actions : List α

/-- The rules of each slot. -/
abbrev Rules (α : Type) := List (Slot × List (Rule α))

namespace Guard

/-- Whether the rule acts on a call of this number and with these arguments. -/
def holds (n : Nat) (args : List Json) : Guard → Bool
  | always => true
  | nth k => n == k
  | data v => args.head?.bind (·.field? "data") == some v

end Guard

namespace Bench

variable {α τ : Type}

/-- Where the part under trial sits. -/
def part : Place (Bench τ) τ := ⟨subject, fun t b ↦ { b with subject := t }⟩

def note (e : Event) : Run (Bench τ) Unit := modify fun b ↦ { b with events := b.events.push e }

/-- Performs actions up to the first failure. -/
def performAll (act : α → Run (Bench τ) (Except ScriptError Unit)) :
    List α → Run (Bench τ) (Except ScriptError Unit)
  | [] => return .ok ()
  | a :: rest => do
    match ← act a with
    | .ok () => performAll act rest
    | .error e => return .error e

/-- The context whose callbacks follow the rules. -/
def callee (rules : Rules α) (act : α → Run (Bench τ) (Except ScriptError Unit)) :
    Callee (Bench τ) where
  call slot args := do
    note (.call slot args)
    modify fun b ↦ { b with calls := b.calls.push slot }
    let n := (← get).calls.count slot
    let mine := (rules.lookup slot).getD []
    performAll act ((mine.filter (·.guard.holds n args)).flatMap (·.actions))
  log line := note (.log line)

/-- Performs one operation: its answer, what happened meanwhile, and the bench after it. -/
def step (x : Run (Bench τ) Answer) (b : Bench τ) : (Answer × Array Event) × Bench τ :=
  match x.run { b with events := #[] } with
  | .ok r b' => ((r, b'.events), b')
  | .error _ b' => ((.panicked, b'.events), b')

/-- Performs operations one after the other, each seen with the part as it leaves it. -/
def trace {ω : Type} (perform : ω → Run (Bench τ) Answer) :
    List ω → Bench τ → List (Answer × Array Event × τ)
  | [], _ => []
  | o :: rest, b =>
    let ((r, ev), b') := step (perform o) b
    (r, ev, b'.subject) :: trace perform rest b'

end Bench

end ScriptWorkers
