import ScriptWorkers.World.Duty
import ScriptWorkers.World.Timed

/-!
# Threads beside one another

This is the runtime as it really runs, with a thread for each worker.  A `Crew` is a world with the
threads that run in it: the root's under number zero, and one for every worker.  Any thread that has
not to wait for something can make the next move.  In `Crew.follow` all threads run equally fast: in
each round everyone who can makes a move, and after a thousand rounds, or when nobody can move, a
millisecond has passed.

Two threads can come to wait for one another.  They never get on then, however long one waits.

## What is here

* `main` and `work` — what the threads of the root and of a worker have to do.
* `allows` — whether what a thread waits for has come about.
* `move` — one thread makes one move, if it can.
* `follow` — all threads, until that of the root is over.
-/

namespace ScriptWorkers

/-- What a thread does when it has come to the end of its duty. -/
inductive Verdict where
  /-- It starts over. -/
  | again
  | over (r : Except ScriptError Unit)

/-- A world with the threads in it. -/
structure Crew (κ : Type) : Type 1 where
  world : World κ
  /-- What the thread of number `n` has still to do, at place `n`. -/
  threads : List (Duty κ Verdict)
  /-- The mailboxes that are locked, each with the thread that has locked it. -/
  locks : List (WorkerId × WorkerId × Side) := []

variable {κ : Type}

/-- Somebody waits for the messages of a mailbox, and there are some. -/
def Mailbox.hasMail (b : Mailbox) : Bool := b.callback.isSome && !b.items.isEmpty

/-- There is something to do in the loop of a worker; as long as there is not, its rounds change
nothing. -/
def World.stirs (w : World κ) (me : WorkerId) : Bool :=
  (w.link me).terminated || !((w.scope me).timers.dueAt w.clock.now).isEmpty ||
    (w.link me).inbox.hasMail ||
    (w.scope me).kids.any fun id ↦ !(w.link id).terminated && (w.link id).outbox.hasMail

namespace Duty

/-! ## The root and the workers as threads -/

/-- Waits for so many microseconds. -/
def pause (micros : Nat) : Duty κ Unit := do
  let c ← now World.clockPlace.read
  once (.time (c.micros + micros.toUInt64)) (return ())

/-- What a worker does between two iterations.  Without a pause it looks all the time whether there
is something to do. -/
def idle (s : WorkerSettings) (me : WorkerId) : Duty κ Unit :=
  match s.pollMicros with
  | some n => pause n
  | none => once (.stir me) (return ())

/-- One step of a worker, and the pause that may follow. -/
def work (engine : Engine κ) (s : WorkerSettings) (me : WorkerId) : Duty κ Verdict := do
  match (← now get).worker? me with
  | none => return .over (.ok ())
  | some x =>
    turn engine me x
    if x.phase = .loop then idle s me
    conclude me
    return if (← now get).isLive me then .again else .over (.ok ())

/-- Drives the world until it is idle or its time is up; there are at most `fuel` rounds. -/
def drive (engine : Engine κ) (s : Settings) (rounds : Nat) : Nat → Duty κ Unit
  | 0 => return ()
  | fuel + 1 => do
    let _ ← tickTimers engine 0
    let _ ← pump engine 0
    let w ← now get
    if w.isIdle then return ()
    else if s.expired rounds then
      now (World.note 0 (.log (.outOfTime (w.scope 0).kids.length (w.scope 0).timers.size)))
    else
      pause (1000 * s.pause)
      drive engine s (rounds + 1) fuel

/-- Loads a script, runs it in the root context, drives the world and gives it up.  If the script
fails, nothing is waited for. -/
def main (engine : Engine κ) (s : Settings) (id : String) : Duty κ Verdict := do
  match (← now World.loaderPlace.read).load id with
  | .error text => return .over (.error (.load id text))
  | .ok code =>
    match ← enter 0 (engine.execute · code id) with
    | .error e => return .over (.error e)
    | .ok () =>
      drive engine s 0 (s.maxMillis / s.pause + 2)
      terminateKids 0
      now ((World.timersPlace 0).update (·.clear))
      return .over (.ok ())

/-- What the threads do over and over: the root runs a script, the workers theirs. -/
def rota (engine : Engine κ) (s : Settings) (id : String) (me : WorkerId) : Duty κ Verdict :=
  if me = 0 then main engine s id else work engine s.worker me

end Duty

namespace Crew

/-- The root alone. -/
def ofWorld (w : World κ) : Crew κ := ⟨w, [.done .again], []⟩

/-- Somebody has locked the mailbox. -/
def isLocked (locks : List (WorkerId × WorkerId × Side)) (id : WorkerId) (side : Side) : Bool :=
  locks.any (·.2 = (id, side))

/-- What is waited for has come about. -/
def allows (w : World κ) (locks : List (WorkerId × WorkerId × Side)) : Wait → Bool
  | .nothing => true
  | .post id side => !isLocked locks id side || ((w.link id).box side).closed
  | .exit id => !w.isLive id
  | .time t => t ≤ w.clock.micros
  | .stir me => w.stirs me

/-- The threads after a move: workers that have been spawned have a thread, too. -/
def staff (w : World κ) (threads : List (Duty κ Verdict)) : List (Duty κ Verdict) :=
  threads ++ List.replicate (w.workers.length + 1 - threads.length) (.done .again)

/-- A thread makes its next move; false if it has to wait.  A thread that panics gives back its
locks.  One that goes on for ever makes no move. -/
def move (rota : WorkerId → Duty κ Verdict) (i : WorkerId) : Crew κ → Bool × Crew κ
  | ⟨w, threads, locks⟩ =>
    match threads[i]? with
    | none | some (.done (.over _)) => (false, ⟨w, threads, locks⟩)
    | some (.done .again) => (true, ⟨w, threads.set i (rota i), locks⟩)
    | some (.move wait x next) =>
      if allows w locks wait then
        match x w with
        | .ok b w' => (true, ⟨w', staff w' (threads.set i (next b)), locks⟩)
        | .error .panic w' =>
          (true, ⟨w', staff w' (threads.set i ((Duty.crash i).bind fun _ ↦ .done (.over (.ok ())))),
            locks.filter (·.1 != i)⟩)
        | .error _ w' => (false, ⟨w', staff w' threads, locks⟩)
      else (false, ⟨w, threads, locks⟩)
    | some (.lock id side next) =>
      if isLocked locks id side then (false, ⟨w, threads, locks⟩)
      else (true, ⟨w, threads.set i next, (i, id, side) :: locks⟩)
    | some (.unlock id side next) =>
      (true, ⟨w, threads.set i next, locks.filter (· != (i, id, side))⟩)

/-- The threads of a list make a move each, if they can; false if nobody can. -/
def moveEach (rota : WorkerId → Duty κ Verdict) : List WorkerId → Crew κ → Bool × Crew κ
  | [], c => (false, c)
  | i :: rest, c =>
    let (moved, c₁) := c.move rota i
    let (others, c₂) := moveEach rota rest c₁
    (moved || others, c₂)

/-- What has become of the root's thread, if it is over. -/
def result? (c : Crew κ) : Option (Except ScriptError Unit) :=
  match c.threads.head? with
  | some (.done (.over r)) => some r
  | _ => none

/-- At most so many rounds, until the root's thread is over or nobody can move. -/
def hurry (rota : WorkerId → Duty κ Verdict) : Nat → Crew κ → Crew κ
  | 0, c => c
  | n + 1, c =>
    if c.result?.isSome then c
    else
      match moveEach rota (List.range c.threads.length) c with
      | (true, c') => hurry rota n c'
      | (false, c') => c'

/-- A millisecond later. -/
def later : Crew κ → Crew κ
  | ⟨w, threads, locks⟩ => ⟨{ w with clock := w.clock.advance 0.001 }, threads, locks⟩

/-- Lets the threads run until the root's is over, for so many milliseconds at most. -/
def follow (rota : WorkerId → Duty κ Verdict) : Nat → Crew κ → Crew κ
  | 0, c => c
  | n + 1, c =>
    let c := c.hurry rota 1000
    if c.result?.isSome then c else follow rota n c.later

end Crew

end ScriptWorkers
