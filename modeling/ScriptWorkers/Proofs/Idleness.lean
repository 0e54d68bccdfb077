import Mathlib.Data.List.Forall2
import ScriptWorkers.Proofs.Termination
import ScriptWorkers.Proofs.Threads
import ScriptWorkers.World.Timed

/-!
# An idle world is deserted

To tell whether anything is left to wait for, the host looks at the workers and the intervals of the
root and at nothing else.  That is enough, because nobody outlives its place in a register:

* `deserted_of_isIdle`: if the root has neither workers nor intervals, no thread runs anywhere in
  the tree, and no other context has any of them either.
* `perform_of_waits`: while the host only waits, nothing moves but the clock.
* `drive_ends`, `driveTimed_ends`: a loop of the host ends because the world is idle or because its
  time is up, and in the latter case it says so.

`idle_world_deserted` puts them together for every world that a host can bring about.

Loops in real time are no operations of `HostOp`, so `Visited` are the worlds that come about with
them as well, and `Visited.orderly` carries order over.
-/

namespace ScriptWorkers

open World

variable {κ : Type} {w w' : World κ} {engine : Engine κ}

/-- Nobody is left: no thread runs, and no context has a worker or an interval. -/
structure World.Deserted (w : World κ) : Prop where
  ended : ∀ x, w.isLive x = false
  kids : ∀ p, (w.scope p).kids = []
  timers : ∀ p, (w.scope p).timers.entries = []

theorem World.isIdle_iff :
    w.isIdle = true ↔ (w.scope 0).kids = [] ∧ (w.scope 0).timers.entries = [] := by
  rw [isIdle, Bool.and_eq_true, List.isEmpty_iff, List.isEmpty_iff]

/-! ## Nobody outlives its place in a register -/

/-- With an idle root no thread runs anywhere in the tree. -/
theorem not_isLive_of_isIdle (hs : w.Shape) (ht : Tended [] 0 w) (hi : w.isIdle = true)
    (x : WorkerId) : w.isLive x = false := by
  rw [← Bool.not_eq_true]
  intro hx
  have hreg := registered_of_awake hs ht x (awake_of_isLive hx)
  rcases Relation.ReflTransGen.cases_head hreg with rfl | ⟨c, hc, -⟩
  · simp [isLive, phase] at hx
  · rw [(isIdle_iff.1 hi).1] at hc
    cases hc

/-- Of a context whose thread does not run nothing is left. -/
theorem rest_of_not_isLive {n : Nat} (hs : w.Shape) (hn : w.isLive (n + 1) = false) :
    (w.scope (n + 1)).kids = [] ∧ (w.scope (n + 1)).timers.entries = [] := by
  cases hk : w.worker? (n + 1) with
  | none => simp [scope, hk]
  | some k =>
    have hx : k.phase = .exited := by
      rw [← Bool.not_eq_true, isLive_iff] at hn
      exact Classical.not_not.1 fun hne ↦ hn ⟨k, hk, hne⟩
    obtain ⟨hkids, htimers, -⟩ := (hs.workers _ k hk).rest hx
    rw [scope_of_worker? hk]
    exact ⟨hkids, htimers⟩

/-- **An idle world is deserted.** -/
theorem deserted_of_isIdle (hs : w.Shape) (ht : Tended [] 0 w) (hi : w.isIdle = true) :
    w.Deserted := by
  have hended := not_isLive_of_isIdle hs ht hi
  have hrest (p : WorkerId) : (w.scope p).kids = [] ∧ (w.scope p).timers.entries = [] := by
    cases p with
    | zero => exact isIdle_iff.1 hi
    | succ n => exact rest_of_not_isLive hs (hended (n + 1))
  exact ⟨hended, fun p ↦ (hrest p).1, fun p ↦ (hrest p).2⟩

/-! ## Waiting -/

/-- By this operation the host does nothing but wait: the root and the workers have their turns, and
time goes by. -/
def HostOp.waits : HostOp → Bool
  | .tick | .step .. | .stepAll | .advance _ | .setClock _ | .now | .idle => true
  | _ => false

section Waiting

variable {c : Callee (World κ)} {p : WorkerId}

/-- Without workers there is nothing to pump. -/
theorem run_pump_none (h : (w.scope p).kids = []) : pump c p w = .ok 0 w := by
  show pumpAll c p (w.scope p).kids w = _
  rw [h]
  rfl

/-- A round of an idle root finds nothing to do. -/
theorem run_tickRoot_idle (hi : w.isIdle = true) : tickRoot engine w = .ok 0 w := by
  obtain ⟨hkids, htimers⟩ := isIdle_iff.1 hi
  have hdue : (w.scope 0).timers.dueAt w.clock.now = [] := by
    rw [Timers.dueAt, htimers, List.filter_nil]
  rw [tickRoot, run_bind_ok (run_tickTimers_of_not_due hdue), run_bind_ok (run_pump_none hkids)]
  rfl

/-- A thread that has ended need not be waited for. -/
theorem run_await_ended {finish : WorkerId → Run (World κ) Unit} (h : w.isLive p = false) :
    await finish p w = .ok () w := by
  rw [await, run_get_bind, if_neg (Bool.eq_false_iff.1 h)]
  rfl

theorem run_stepTimes_ended (h : w.isLive p = false) (n : Nat) :
    stepTimes engine p n w = .ok none w := by
  induction n with
  | zero => rfl
  | succ n ih =>
    rw [stepTimes, run_get_bind, run_bind_ok (run_await_ended h)]
    split
    · rw [run_get_bind, h]
      rfl
    · exact ih

/-- No worker of a deserted world is live. -/
theorem live_of_deserted (hd : w.Deserted) : w.live = [] := by
  rw [live, List.filter_eq_nil_iff]
  exact fun x _ ↦ Bool.eq_false_iff.1 (hd.ended x)

theorem run_withRoot {x : Run (World κ) Answer} (hw : w.root.isSome = true) :
    withRoot x w = x w := by
  rw [withRoot, run_get_bind, if_pos hw]

/-- While the host only waits in an idle world, nothing moves but the clock. -/
theorem perform_of_waits (engine : Engine κ) {op : HostOp} (unlimited : Bool) (fuel : Nat)
    (hw : w.root.isSome = true) (hi : w.isIdle = true) (hd : w.Deserted) (hop : op.waits = true) :
    ∃ a t, perform engine unlimited fuel op w = .ok a { w with clock := t } ∧
      (op = .tick → a = .count 0) := by
  cases op with
  | tick =>
    refine ⟨.count 0, w.clock, ?_, fun _ ↦ rfl⟩
    rw [perform, run_withRoot hw, run_bind_ok (run_tickRoot_idle hi)]
    rfl
  | step id times =>
    refine ⟨.phase none, w.clock, ?_, nofun⟩
    rw [perform, run_bind_ok (run_stepTimes_ended (hd.ended id) times)]
    rfl
  | stepAll =>
    refine ⟨.workers [], w.clock, ?_, nofun⟩
    rw [perform, run_get_bind, live_of_deserted hd]
    rfl
  | advance s => exact ⟨.nothing, w.clock.advance s, rfl, nofun⟩
  | setClock s => exact ⟨.nothing, w.clock.set s, rfl, nofun⟩
  | now => exact ⟨.time w.clock.now, w.clock, rfl, nofun⟩
  | idle =>
    refine ⟨.flag w.isIdle, w.clock, ?_, nofun⟩
    rw [perform, run_withRoot hw]
    rfl
  | _ => cases hop

end Waiting

/-- Rounds of an idle root return zero, however long the host waits. -/
theorem forall₂_trace_of_waits (engine : Engine κ) (unlimited : Bool) (fuel : Nat)
    {ops : List HostOp} : ∀ {w : World κ}, w.root.isSome = true → w.isIdle = true → w.Deserted →
      (∀ op ∈ ops, op.waits = true) →
      List.Forall₂ (fun op r ↦ (op = .tick → r.1 = .count 0) ∧
        ∃ t, r.2 = { w with clock := t, events := #[] }) ops
          (trace engine unlimited fuel ops w) := by
  induction ops with
  | nil => exact fun _ _ _ _ ↦ .nil
  | cons op rest ih =>
    intro w hw hi hd hops
    obtain ⟨a, t, hrun, ha⟩ :=
      perform_of_waits (w := { w with events := #[] }) engine unlimited fuel
      hw hi ⟨hd.ended, hd.kids, hd.timers⟩ (hops op List.mem_cons_self)
    have hon : performOn engine unlimited fuel op w =
        (a, { w with clock := t, events := #[] }) := by
      rw [performOn, EStateM.run, hrun]
    have hrest :=
      ih (w := { w with clock := t, events := #[] }) hw hi ⟨hd.ended, hd.kids, hd.timers⟩
      fun o ho ↦ hops o (List.mem_cons_of_mem op ho)
    rw [trace, hon]
    exact .cons ⟨ha, t, rfl⟩ hrest

/-! ## Loops of the host -/

/-- The log says that the time of a loop was up. -/
def World.OutOfTime (w : World κ) : Prop :=
  ∃ workers timers, (0, Event.log (.outOfTime workers timers)) ∈ w.events

theorem outOfTime_of_note {workers timers : Nat} {u : Unit}
    (h : note 0 (.log (.outOfTime workers timers)) w = .ok u w') : w'.OutOfTime := by
  cases h
  exact ⟨workers, timers, Array.mem_push_self⟩

/-- How a loop ends: the world is idle, or the time is up, or as many rounds have been made as were
allowed. -/
theorem drive_ends {dt : Float} {expired : Nat → Bool} {n : Nat} (fuel : Nat) :
    ∀ {rounds : Nat} {w : World κ}, drive engine dt expired rounds fuel w = .ok n w' →
      w'.isIdle = true ∨ w'.OutOfTime ∨ n = rounds + fuel := by
  induction fuel with
  | zero =>
    intro rounds w h
    cases h
    exact .inr (.inr rfl)
  | succ fuel ih =>
    intro rounds w h
    rw [drive] at h
    obtain ⟨_, _, -, h⟩ := of_run_bind_ok h
    obtain ⟨_, _, -, h⟩ := of_run_bind_ok h
    obtain ⟨_, _, -, h⟩ := of_run_bind_ok h
    obtain ⟨_, w₁, -, h⟩ := of_run_bind_ok h
    obtain ⟨w₂, w₃, hget, h⟩ := of_run_bind_ok h
    cases hget
    split at h
    · rename_i hidle
      cases h
      exact .inl hidle
    · split at h
      · obtain ⟨_, w₄, hnote, h⟩ := of_run_bind_ok h
        cases h
        exact .inr (.inl (outOfTime_of_note hnote))
      · rcases ih h with hidle | hout | hn
        · exact .inl hidle
        · exact .inr (.inl hout)
        · exact .inr (.inr (by omega))

/-- In real time the rounds that are allowed are enough for the time to be up. -/
theorem driveTimed_ends {s : Settings} {u : Unit} (fuel : Nat) :
    ∀ {rounds : Nat} {w : World κ}, s.maxMillis ≤ (rounds + fuel) * s.pause →
      driveTimed engine s rounds (fuel + 1) w = .ok u w' → w'.isIdle = true ∨ w'.OutOfTime := by
  induction fuel with
  | zero =>
    intro rounds w hmax h
    rw [driveTimed] at h
    obtain ⟨_, w₁, -, h⟩ := of_run_bind_ok h
    obtain ⟨w₂, w₃, hget, h⟩ := of_run_bind_ok h
    cases hget
    split at h
    · rename_i hidle
      cases h
      exact .inl hidle
    · -- in the last round that is allowed the time is up
      have hexpired : s.expired rounds = true := by simpa [Settings.expired] using hmax
      rw [if_pos hexpired] at h
      exact .inr (outOfTime_of_note h)
  | succ fuel ih =>
    intro rounds w hmax h
    rw [driveTimed] at h
    obtain ⟨_, w₁, -, h⟩ := of_run_bind_ok h
    obtain ⟨w₂, w₃, hget, h⟩ := of_run_bind_ok h
    cases hget
    split at h
    · rename_i hidle
      cases h
      exact .inl hidle
    · split at h
      · exact .inr (outOfTime_of_note h)
      · obtain ⟨_, w₄, -, h⟩ := of_run_bind_ok h
        refine ih ?_ h
        rwa [Nat.add_right_comm, Nat.add_assoc]

/-- A script that is run in real time ends with an idle world or out of time. -/
theorem runTimed_ends {s : Settings} {id : String} (h : runTimed engine s id w = .ok (.ok ()) w') :
    w'.isIdle = true ∨ w'.OutOfTime := by
  rw [runTimed] at h
  obtain ⟨l, w₁, -, h⟩ := of_run_bind_ok h
  cases hl : l.load id with
  | error text => simp only [hl] at h; cases h
  | ok code =>
    simp only [hl] at h
    obtain ⟨r, w₂, -, h⟩ := of_run_bind_ok h
    cases r with
    | error e => cases h
    | ok _ =>
      obtain ⟨_, w₃, hdrive, h⟩ := of_run_bind_ok h
      cases h
      have hpause : 0 < s.pause := Nat.lt_of_lt_of_le Nat.zero_lt_one (Nat.le_max_right _ _)
      refine driveTimed_ends (s.maxMillis / s.pause + 1) ?_ hdrive
      rw [Nat.zero_add]
      exact Nat.le_of_lt (Nat.lt_mul_of_div_lt (Nat.lt_succ_self _) hpause)

/-- And so does one that is run by the virtual clock, if it has enough rounds. -/
theorem runScript_ends {id : String} {dt : Float} {expired : Nat → Bool} {fuel n : Nat}
    (h : runScript engine id dt expired fuel w = .ok (.ok (), n) w') :
    w'.isIdle = true ∨ w'.OutOfTime ∨ n = fuel := by
  rw [runScript] at h
  obtain ⟨l, w₁, -, h⟩ := of_run_bind_ok h
  cases hl : l.load id with
  | error text => simp only [hl] at h; cases h
  | ok code =>
    simp only [hl] at h
    obtain ⟨r, w₂, -, h⟩ := of_run_bind_ok h
    cases r with
    | error e => cases h
    | ok _ =>
      obtain ⟨m, w₃, hdrive, h⟩ := of_run_bind_ok h
      cases h
      rw [← Nat.zero_add fuel]
      exact drive_ends fuel hdrive

/-- A loop that the host has asked for, with or without a script before it, ends like every loop. -/
theorem perform_loop_ends {unlimited : Bool} {fuel n : Nat} {op : HostOp}
    (hop : (∃ dt, op = .runLoop dt) ∨ ∃ id dt, op = .runScript id dt)
    (h : perform engine unlimited fuel op w = .ok (.loops .done n) w') :
    w'.isIdle = true ∨ w'.OutOfTime ∨ n = fuel := by
  have hroot {x : Run (World κ) Answer} (hx : withRoot x w = .ok (.loops .done n) w') :
      x w = .ok (.loops .done n) w' := by
    rw [withRoot, run_get_bind] at hx
    split at hx
    · exact hx
    · cases hx
  rcases hop with ⟨dt, rfl⟩ | ⟨id, dt, rfl⟩
  · obtain ⟨m, w₁, hdrive, h⟩ := of_run_bind_ok (hroot h)
    cases h
    rw [← Nat.zero_add fuel]
    exact drive_ends fuel hdrive
  · obtain ⟨⟨r, m⟩, w₁, hrun, h⟩ := of_run_bind_ok (hroot h)
    cases r with
    | error e => cases h
    | ok _ =>
      cases h
      exact runScript_ends hrun

namespace Regime.Hosts

variable {r : Regime κ} {g : Guarantee (World κ)} {allowed : Request → Prop}
  (h : r.Hosts g) (hl : r.Lawful engine allowed)
include h hl

theorem keeps_passMillis : ∀ n, Keeps g (passMillis engine n)
  | 0 => keeps_pure g ()
  | n + 1 => fun w ↦ by
    rw [passMillis]
    refine keepsAt_get_bind ((h.keeps_stepEach hl _ w).bind fun _ w₁ _ _ _ ↦ ?_)
    exact (h.clock _ w₁).bind fun _ w₂ _ _ _ ↦ keeps_passMillis n w₂

/-- By induction on the rounds; the root is there in each of them. -/
theorem keepsAt_driveTimed (s : Settings) : ∀ (fuel rounds : Nat) {w : World κ},
    w.root.isSome → KeepsAt g (driveTimed engine s rounds fuel) w
  | 0, _, w, _ => keepsAt_pure g _ w
  | fuel + 1, rounds, w, hw => by
    rw [driveTimed]
    refine (h.keepsAt_root hw (hl.keeps_tickRoot w)).bind fun _ w₁ _ hi hr₁ ↦ ?_
    have hw₁ := h.rooted hi hr₁ hw
    refine keepsAt_get_bind (keepsAt_ite (fun _ ↦ keepsAt_pure g _ w₁) fun _ ↦ ?_)
    refine keepsAt_ite (fun _ ↦ h.keepsAt_root hw₁ (hl.keeps_act (hl.note 0 _) w₁)) fun _ ↦ ?_
    refine (h.keeps_passMillis hl _ w₁).bind fun _ w₂ _ hi₁ hr₂ ↦ ?_
    exact keepsAt_driveTimed s fuel (rounds + 1) (h.rooted hi₁ hr₂ hw₁)

theorem keepsAt_runTimed (s : Settings) (id : String) (hw : w.root.isSome) :
    KeepsAt g (runTimed engine s id) w := by
  rw [runTimed]
  refine keepsAt_read_bind ?_
  split
  · exact keepsAt_pure g _ w
  · refine (h.keepsAt_eval hl _ id hw).bind fun a w₁ _ hi hr ↦ ?_
    cases a with
    | error e => exact keepsAt_pure g _ w₁
    | ok u =>
      exact (h.keepsAt_driveTimed hl s _ 0 (h.rooted hi hr hw)).bind fun _ w₂ _ _ _ ↦
        keepsAt_pure g _ w₂

end Regime.Hosts

/-! ## All worlds -/

/-- The worlds that a host can bring about, by any operations and any scripts run in real time, in
any order.  All of them may end in a panic of the root context. -/
inductive Visited (engine : Engine κ) (loader : Loader) : World κ → Prop
  | created {w : World κ} : create engine loader = .ok w → Visited engine loader w
  | performed {w w' : World κ} {unlimited : Bool} {fuel : Nat} {op : HostOp} {a : Answer} :
    Visited engine loader w → perform engine unlimited fuel op { w with events := #[] } = .ok a w' →
    Visited engine loader w'
  | panicked {w w' : World κ} {unlimited : Bool} {fuel : Nat} {op : HostOp} :
    Visited engine loader w →
    perform engine unlimited fuel op { w with events := #[] } = .error .panic w' →
    Visited engine loader w'
  | ran {w w' : World κ} {s : Settings} {id : String} {r : Except ScriptError Unit} :
    Visited engine loader w → w.root.isSome = true →
    runTimed engine s id { w with events := #[] } = .ok r w' → Visited engine loader w'
  | crashed {w w' : World κ} {s : Settings} {id : String} :
    Visited engine loader w → w.root.isSome = true →
    runTimed engine s id { w with events := #[] } = .error .panic w' → Visited engine loader w'

theorem keepsAt_runTimed_cleared (s : Settings) (id : String) (hw : w.root.isSome = true) :
    KeepsAt Order.host (runTimed engine s id) { w with events := #[] } :=
  Order.hosts.keepsAt_runTimed (Order.lawful engine) s id hw

/-- The tree of the workers is in order in every world that was visited. -/
theorem Visited.orderly {loader : Loader} (h : Visited engine loader w) :
    w.Shape ∧ Tended [] 0 w := by
  induction h with
  | created h => exact Order.shape_tended_of_created h
  | performed _ h ih => exact Order.shape_tended_of_performed ih h
  | panicked _ h ih => exact Order.shape_tended_of_panicked ih h
  | ran _ hw h ih =>
    obtain ⟨hs, hr, -⟩ := (keepsAt_runTimed_cleared _ _ hw).ok (Order.shape_tended_cleared ih).1 h
    exact ⟨hs, hr.2 (Order.shape_tended_cleared ih).2⟩
  | crashed _ hw h ih =>
    obtain ⟨hs, hr, -⟩ :=
      (keepsAt_runTimed_cleared _ _ hw).error (Order.shape_tended_cleared ih).1 h
    exact ⟨hs, hr.2 (Order.shape_tended_cleared ih).2⟩

theorem Visited.deserted {loader : Loader} (h : Visited engine loader w) (hi : w.isIdle = true) :
    w.Deserted :=
  deserted_of_isIdle h.orderly.1 h.orderly.2 hi

/-- **A world that looks idle is deserted.**  If in a world that a host has brought about the root
has neither workers nor intervals, then no thread is running at any depth and no interval is left.
However long the host then waits, every round of the root returns zero and nothing moves but the
clock: no callback is called, and the world stays idle.  So a loop that ends without a word about
its time, after fewer rounds than it was allowed, has left nobody behind. -/
theorem idle_world_deserted (engine : Engine κ) (loader : Loader) (w : World κ)
    (hw : Visited engine loader w) (hroot : w.root.isSome = true) :
    (w.isIdle = true → w.Deserted ∧ ∀ unlimited fuel ops, (∀ op ∈ ops, HostOp.waits op = true) →
      List.Forall₂ (fun op r ↦ (op = .tick → r.1 = .count 0) ∧
        ∃ t, r.2 = { w with clock := t, events := #[] }) ops (trace engine unlimited fuel ops w)) ∧
    (∀ unlimited fuel op n w', ((∃ dt, op = .runLoop dt) ∨ ∃ id dt, op = .runScript id dt) →
      perform engine unlimited fuel op { w with events := #[] } = .ok (.loops .done n) w' →
      n < fuel → ¬ w'.OutOfTime → w'.isIdle = true ∧ w'.Deserted) ∧
    (∀ s id w', runTimed engine s id { w with events := #[] } = .ok (.ok ()) w' →
      ¬ w'.OutOfTime → w'.isIdle = true ∧ w'.Deserted) := by
  refine ⟨fun hi ↦ ?_, fun unlimited fuel op n w' hop h hn hout ↦ ?_, fun s id w' h hout ↦ ?_⟩
  · have hd := hw.deserted hi
    exact ⟨hd, fun unlimited fuel ops ↦ forall₂_trace_of_waits engine unlimited fuel hroot hi hd⟩
  · have hidle : w'.isIdle = true := by
      rcases perform_loop_ends hop h with hidle | hlate | hfuel
      · exact hidle
      · exact absurd hlate hout
      · exact absurd hfuel (Nat.ne_of_lt hn)
    exact ⟨hidle, (hw.performed h).deserted hidle⟩
  · have hidle := (runTimed_ends h).resolve_right hout
    exact ⟨hidle, (hw.ran hroot h).deserted hidle⟩

/-- The root of the nursery after its worker has been terminated, which had a worker of its own. -/
def bereft : World Unit := (performOn nursery true 0 (.kidTerminate 1) family).2

theorem visited_bereft : Visited nursery nurseryShelf bereft := by
  have hnew : Visited nursery nurseryShelf
      { root := some { context := some () }, loader := nurseryShelf } := .created rfl
  have hspawned :=
    hnew.performed (show perform nursery true 0 (.spawn "parent") _ = .ok _ _ from rfl)
  have hfamily : Visited nursery nurseryShelf family :=
    hspawned.performed (show perform nursery true 0 (.step 1 1) _ = .ok _ _ from rfl)
  have hrun : perform nursery true 0 (.kidTerminate 1) { family with events := #[] } =
      .ok (.flag true) bereft := rfl
  exact hfamily.performed hrun

/-- There have been two workers, and none is left; a script that is run afterwards finds the
same. -/
theorem bereft_deserted : bereft.workers.length = 2 ∧ bereft.isIdle = true ∧ bereft.Deserted ∧
    (trace nursery true 0 [.tick, .advance 1, .tick] bereft).map (·.1) =
      [.count 0, .nothing, .count 0] ∧
    ∃ w', runTimed nursery {} "child" { bereft with events := #[] } = .ok (.ok ()) w' ∧
      w'.Deserted := by
  obtain ⟨hidle, -, htimed⟩ := idle_world_deserted nursery nurseryShelf bereft visited_bereft rfl
  obtain ⟨w', hw', hevents⟩ : ∃ w', runTimed nursery {} "child" { bereft with events := #[] } =
      .ok (.ok ()) w' ∧ w'.events = #[] := ⟨_, rfl, rfl⟩
  refine ⟨rfl, rfl, (hidle rfl).1, rfl, w', hw', (htimed {} "child" w' hw' ?_).2⟩
  rintro ⟨_, _, hmem⟩
  rw [hevents] at hmem
  simp at hmem

end ScriptWorkers
