import ScriptWorkers.Action.Context
import ScriptWorkers.Script.Context

/-!
# Two kinds of scripts in one world

The root runs action programs and its workers run structured scripts.

Both kinds of contexts make plans, so the world serves them alike; `engine` only has to tell them
apart.
-/

namespace ScriptWorkers

/-- A context of either kind. -/
inductive MixedContext where
  | actions (c : Action.Context)
  | script (r : Script.Realm)

namespace MixedContext

/-- Carries a plan for one kind of context over to both. -/
def lift {α : Type} (f : α → MixedContext) (p : FreePlan (α × Ending)) :
    FreePlan (MixedContext × Ending) := do
  let (c, ending) ← p
  return (f c, ending)

/-- The engine of a world where only workers run structured scripts. -/
def engine (refused : List WorkerId) : Engine MixedContext where
  create id :=
    if id = 0 then ((Action.engine refused).create id).map actions
    else ((Script.engine refused).create id).map script
  execute
    | actions c, code, name => lift actions (c.execute code name)
    | script r, code, name => lift script (Script.run r code name).free
  call
    | actions c, slot, args => lift actions (c.call slot args)
    | script r, slot, args => lift script (Script.invoke r slot args).free

end MixedContext

end ScriptWorkers
