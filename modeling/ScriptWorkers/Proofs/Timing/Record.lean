import ScriptWorkers.Proofs.Guarantee
import ScriptWorkers.Proofs.Timing.Course

/-!
# Ticks on record

Callbacks are anything that edits intervals and comes back; an `Editor` tells which edits they make.

* `Editor.record` is a tick that returns its entries instead of the number of intervals that have
  fired; that it is the same tick is `Editor.run_tick`.
* `Lives` are the runs made of edits from outside and of ticks, one after the other.
* By `Lives.steps` each of these runs is a course of its intervals.
-/

namespace ScriptWorkers.Timers

variable {σ : Type} {place : Place σ Timers} {callee : Callee σ}

/-- Callbacks come back, possibly with an error, and what they do to intervals are edits. -/
structure Editor (place : Place σ Timers) (callee : Callee σ) where
  /-- The edits of the callback of a slot. -/
  edits : Slot → σ → List Edit
  call : ∀ slot s, ∃ r s', callee.call slot [] s = .ok r s' ∧
    place.get s' = (edits slot s).foldl Edit.apply (place.get s)
  log : ∀ line s, ∃ s', callee.log line s = .ok () s' ∧ place.get s' = place.get s

/-- How many intervals have fired. -/
def firedIn : List Entry → Nat
  | [] => 0
  | .fired _ _ :: h => firedIn h + 1
  | _ :: h => firedIn h

theorem firedIn_append (h' : List Entry) : ∀ h : List Entry,
    firedIn (h ++ h') = firedIn h + firedIn h'
  | [] => (Nat.zero_add _).symm
  | .fired _ _ :: h => by
    show firedIn (h ++ h') + 1 = firedIn h + 1 + firedIn h'
    rw [firedIn_append h' h, Nat.add_right_comm]
  | .added _ _ _ :: h | .removed _ :: h | .cleared :: h | .began _ :: h | .ended :: h =>
    firedIn_append h' h

theorem firedIn_entriesOf : ∀ (ts : Timers) (edits : List Edit), firedIn (entriesOf ts edits) = 0
  | _, [] => rfl
  | ts, e :: edits => by
    cases e <;> exact firedIn_entriesOf _ edits

namespace Editor

variable (ed : Editor place callee)

/-- Fires the noted intervals that are still there and returns the entries. -/
def recordFire (now : Float) : List Timer → Run σ (List Entry)
  | [] => return [.ended]
  | t :: rest => do
    let s ← get
    if (place.get s).contains t.id then
      callee.invoke .timer t.callback []
      let h ← recordFire now rest
      return .fired t.id now :: (entriesOf (place.get s) (ed.edits t.callback s) ++ h)
    else recordFire now rest

/-- Fires the intervals that are due and returns the entries. -/
def record (now : Float) : Run σ (List Entry) := do
  let due := (← place.read).dueAt now
  place.update (·.reschedule now)
  let h ← ed.recordFire now due
  return .began now :: h

/-- An invocation comes to its end and has edited the intervals. -/
theorem run_invoke (slot : Slot) (s : σ) : ∃ s', callee.invoke .timer slot [] s = .ok () s' ∧
    place.get s' = (ed.edits slot s).foldl Edit.apply (place.get s) := by
  obtain ⟨r, s₁, hcall, hget⟩ := ed.call slot s
  cases r with
  | ok _ =>
    refine ⟨s₁, ?_, hget⟩
    rw [Callee.invoke, run_bind_ok hcall]
    rfl
  | error e =>
    obtain ⟨s₂, hlog, hsame⟩ := ed.log (.uncaught .timer e) s₁
    refine ⟨s₂, ?_, hsame.trans hget⟩
    rw [Callee.invoke, run_bind_ok hcall]
    exact hlog

/-- Firing on record is firing, and it is a course to the end of the tick. -/
theorem run_fire (now : Float) : ∀ (noted : List Timer) (s : σ), ∃ h s',
    ed.recordFire now noted s = .ok h s' ∧ fire place callee noted s = .ok (firedIn h) s' ∧
      Steps ⟨place.get s, some (now, noted)⟩ h ⟨place.get s', none⟩
  | [], s => ⟨[.ended], s, rfl, rfl, .head (.ended _ now) (.refl _)⟩
  | t :: rest, s => by
    have hget' : (get : Run σ σ) s = .ok s s := rfl
    have hread : place.read s = .ok (place.get s) s := rfl
    by_cases hc : (place.get s).contains t.id = true
    · obtain ⟨s₁, hinvoke, hget⟩ := ed.run_invoke t.callback s
      obtain ⟨h, s', hrecord, hfire, hsteps⟩ := run_fire now rest s₁
      refine ⟨_, s', ?_, ?_, .head (.fired hc) (.trans (steps_edits _ _ _) (hget ▸ hsteps))⟩
      · rw [recordFire, run_bind_ok hget', if_pos hc, run_bind_ok hinvoke, run_bind_ok hrecord]
        rfl
      · rw [fire, run_bind_ok hread, if_pos hc, run_bind_ok hinvoke, run_bind_ok hfire]
        show EStateM.Result.ok (firedIn h + 1) s' = .ok (firedIn (_ ++ h) + 1) s'
        rw [firedIn_append, firedIn_entriesOf, Nat.zero_add]
    · obtain ⟨h, s', hrecord, hfire, hsteps⟩ := run_fire now rest s
      refine ⟨h, s', ?_, ?_, .head (.passed (Bool.eq_false_iff.2 hc)) hsteps⟩
      · rw [recordFire, run_bind_ok hget', if_neg hc, hrecord]
      · rw [fire, run_bind_ok hread, if_neg hc, hfire]

/-- A tick on record is the tick, and it is a course from its beginning to its end. -/
theorem run_tick (hplace : ∀ ts s, place.get (place.set ts s) = ts) (now : Float) (s : σ) : ∃ h s',
    ed.record now s = .ok h s' ∧ tick place callee now s = .ok (firedIn h) s' ∧
      Steps ⟨place.get s, none⟩ h ⟨place.get s', none⟩ := by
  obtain ⟨h, s', hrecord, hfire, hsteps⟩ :=
    ed.run_fire now ((place.get s).dueAt now) (place.modify (·.reschedule now) s)
  rw [Place.modify, hplace] at hsteps
  refine ⟨.began now :: h, s', ?_, hfire, .head (.began _ now) hsteps⟩
  show (ed.recordFire now ((place.get s).dueAt now) >>= fun h ↦ pure (.began now :: h) : Run σ _)
    _ = _
  rw [run_bind_ok hrecord]
  rfl

end Editor

/-- A run of edits from outside and ticks, with the entries of both. -/
inductive Lives (ed : Editor place callee) : σ → List Entry → σ → Prop where
  | done (s : σ) : Lives ed s [] s
  /-- Whatever happens between ticks, it makes these edits. -/
  | edits {s s₁ s' : σ} {h : List Entry} (edits : List Edit)
    (hget : place.get s₁ = edits.foldl Edit.apply (place.get s)) (rest : Lives ed s₁ h s') :
    Lives ed s (entriesOf (place.get s) edits ++ h) s'
  | tick {s s₁ s' : σ} {es h : List Entry} {now : Float} (htick : ed.record now s = .ok es s₁)
    (rest : Lives ed s₁ h s') : Lives ed s (es ++ h) s'

/-- **Every run is a course.** -/
theorem Lives.steps {ed : Editor place callee} (hplace : ∀ ts s, place.get (place.set ts s) = ts)
    {s s' : σ}
    {h : List Entry} (hl : Lives ed s h s') : Steps ⟨place.get s, none⟩ h ⟨place.get s', none⟩ := by
  induction hl with
  | done s => exact .refl _
  | edits edits hget _ ih => exact (steps_edits none edits _).trans (hget ▸ ih)
  | @tick s s₁ _ es _ now htick _ ih =>
    obtain ⟨es', s₂, hrecord, -, hsteps⟩ := ed.run_tick hplace now s
    obtain ⟨rfl, rfl⟩ : es' = es ∧ s₂ = s₁ := by
      rw [htick] at hrecord
      cases hrecord
      exact ⟨rfl, rfl⟩
    exact hsteps.trans ih

end ScriptWorkers.Timers
