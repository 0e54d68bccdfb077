import ScriptWorkers.Script.Display
import ScriptWorkers.Script.Globals
import ScriptWorkers.Script.Interpreter
import ScriptWorkers.Script.Reader
import ScriptWorkers.Script.Source
import ScriptWorkers.TypeScript.Strip
import ScriptWorkers.World.Basic

/-!
# Contexts of structured scripts

A script is compiled as a whole and then run.  Whenever a context is entered, by a script or by a
callback, the jobs that have been queued run at the end, even after an error.  An error in a job
takes the jobs behind it with it and is not reported; only promises swallow errors without a trace.

This part is the script engine as the runtime uses it.

* `entry` — the plan of an entry, with the jobs that follow.
* `compile` — a source in its dialect, as a program or as what is wrong with it.
* `run` and `invoke` — a script, and a callback by its slot.
* `deskEngine` — all this as an engine, whose contexts go over their desks.
-/

namespace ScriptWorkers
namespace Script

/-! ## Entering a context -/

/-- The bound on scripts that call one another. -/
def callBound : Nat := 512

/-- The bound on calls of any kind inside one another. -/
def callFuel : Nat := 1000000

/-- The way the host calls functions. -/
def hostCaller : Caller := callFunction callFuel callBound

/-- The way a script calls functions; it takes a level itself. -/
def scriptCaller : Caller := callFunction callFuel (callBound - 1)

/-- Runs the jobs in the queue, at most `n` of them. -/
def runJobs : Nat → Eval Unit
  | 0 => return ()
  | n + 1 => do
    let r ← get
    match r.jobs with
    | [] => return ()
    | j :: rest =>
      set { r with jobs := rest }
      tryCatchThe Stop (runJob hostCaller j) fun _ ↦ modify fun r ↦ { r with jobs := [] }
      runJobs n

/-- The bound on the jobs of one entry. -/
def jobBound : Nat := 1000000

/-- The text of what nobody has caught. -/
def uncaughtText (r : Realm) : Stop → String
  | .thrown v => r.display v
  | .exhausted => "RuntimeLimit: exceeded maximum number of recursive calls"

/-- The plan of an entry: the code, then the jobs. -/
def entry (x : Eval Unit) (r : Realm) : DeskPlan (Realm × Ending) := do
  let (result, r₁) ← x.run.run r
  let (_, r₂) ← (runJobs jobBound).run.run r₁
  match result with
  | .ok () => return (r₂, .done)
  | .error stop => return (r₂, .failed (.uncaught (uncaughtText r₁ stop)))

/-! ## Compiling -/

/-- What comes of compiling a source: how many declarations are worth a warning, and the program,
unless there is none. -/
structure Compiled where
  repeated : Nat
  program : Option (List Stmt)

namespace Compiled

/-- A source that makes no sense. -/
def failed : Compiled := ⟨0, none⟩

/-- A program that has been read, in some dialect.  Definitions leave nothing to run. -/
def ofProgram (d : Dialect) (repeated : Nat) (program : List Stmt) : Compiled :=
  if (blocks program).any (·.any Stmt.isMalformed) then failed
  else if d.language = .definitions then ⟨repeated, some []⟩
  else ⟨if d.hasTypes then repeated else 0,
    if compiles d.hasTypes program then some program else none⟩

/-- Compiles a source. -/
def ofCode (d : Dialect) : Code → Compiled
  | .program ss =>
    let program := readStmts ss
    ofProgram d (repeatedTyped program) program
  | .text s =>
    match TypeScript.parse d s with
    | none => failed
    | some p => ofProgram d p.conflicts (ofParsedStmts p.stmts)

end Compiled

/-- The language that a script of a name is in.  Only a name that ends like one with types is looked
at more closely. -/
def dialectOf (name : String) : Except StripError Dialect :=
  if Dialect.isTypeScript name then Dialect.ofName name else .ok .plain

/-- Compiles a source under a name. -/
def compile (code : Code) (name : String) : Compiled :=
  match dialectOf name with
  | .error _ => .failed
  | .ok d => .ofCode d code

/-- A program declares a name that an earlier one has declared for good. -/
def clashes (r : Realm) (program : List Stmt) : Bool :=
  ((blockNames program).map (·.1) ++ hoistedNames program).any fun x ↦ (r.globals.lookup x).isSome

/-- The realm in which the names of a program are known, but not filled. -/
def Realm.reserve (r : Realm) (program : List Stmt) : Realm :=
  { r with
    globals := r.globals ++ (blockNames program).map fun (x, constant) ↦ (x, ⟨none, constant⟩) }

/-! ## Running -/

/-- Prepares the global object for the declarations of a program.  A field that is there for good
cannot be hidden by a name. -/
def instantiate (program : List Stmt) : Eval Unit := do
  let global ← Eval.object globalRef
  let isFixed (x : Units) : Bool :=
    match global.own? (.ofUnits x) with
    | some f => !f.flags.configurable
    | none => false
  if (blockNames program).any fun (x, _) ↦ isFixed x then
    Eval.raise .grammar "cannot redefine non-configurable global property"
  (hoistedNames program).forM fun x ↦
    Eval.change globalRef fun o ↦
      if (o.own? (.ofUnits x)).isSome then o
      else o.put (.ofUnits x) (.data .undefined ⟨true, true, false⟩)

/-- Runs a program. -/
def runProgram (program : List Stmt) : Eval Unit := do
  Eval.within (Units.ofString "<main>") do
    instantiate program
    executeAll scriptCaller { this := .object globalRef, strict := asksForStrict program } program

/-- Runs a script. -/
def run (r : Realm) (code : Code) (name : String) : DeskPlan (Realm × Ending) := do
  let compiled := compile code name
  (List.replicate compiled.repeated (Event.log (.semantic name))).forM
    fun e ↦ Plan.request (DeskRequest.note e)
  let failure : Ending := .failed (.compile name "unexpected token")
  match compiled.program with
  | none => return (r, failure)
  | some program =>
    if clashes r program then return (r, failure)
    else entry (runProgram program) (r.reserve program)

/-- Invokes a callback.  One that has been released meanwhile is passed over. -/
def invoke (r : Realm) (slot : Slot) (args : List Json) : DeskPlan (Realm × Ending) :=
  entry
    (do
      match ← Eval.ask (.function slot) with
      | none => return ()
      | some f =>
        let vs ← args.mapM ofJson
        let _ ← hostCaller f (.call .undefined) vs)
    r

/-- How many workers a host is taken to have made for other worlds, if it does not say.  A
process that runs a single script starts from zero; for the worlds of a host no script can rely
on small numbers. -/
def usualEarlier : Nat := 4096

/-- The engine of structured scripts, which go over their desks. -/
def deskEngine (refused : List WorkerId) (earlier : Nat) : DeskEngine Realm where
  create id :=
    if refused.contains id then .error (.context "refused")
    else .ok (Realm.fresh (id != 0) earlier)
  execute := run
  call := invoke

/-- The engine of structured scripts. -/
def engine (refused : List WorkerId) (earlier : Nat := usualEarlier) : Engine Realm :=
  (deskEngine refused earlier).engine

end Script
end ScriptWorkers
