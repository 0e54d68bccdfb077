import ScriptWorkers.World.Basic

/-!
# Views of a world

What can be seen of a world, `worker?`, `scope`, `link`, `phase`, `owner?` and the journal, after
each of the small changes that the operations make.  Later proofs look at worlds through these views
only: a change of what a world is made of is felt here and not beyond.

## What is here

* Which workers there are: `worker?_isSome_iff`, `owner?_eq_some_iff`, `isLive_iff`.
* What a view depends on (`worker?_congr`, `scope_congr`, `link_congr`, `owner?_congr`).
* What changes, and what does not, when a worker is updated, added, given another link or another
  scope: one lemma for each change and each view, named `view_change`.
* `HasScope`: the numbers at which a scope can be stored at all.  What is stored elsewhere is lost,
  hence the two cases of `scope_setScope_or`.
-/

namespace ScriptWorkers

/-! ## Views of a mailbox -/

namespace Mailbox

variable {b : Mailbox} {m : Message}

@[simp] theorem closed_push : (b.push m).closed = b.closed := by
  rw [push]
  split <;> rfl

@[simp] theorem waiting_push : (b.push m).waiting = b.waiting := by
  rw [push]
  split <;> rfl

@[simp] theorem callback_push : (b.push m).callback = b.callback := by
  rw [push]
  split <;> rfl

end Mailbox

/-! ## Views of a link -/

namespace Link

variable {l : Link} {side side' : Side} {b : Mailbox}

@[simp] theorem box_setBox_self : (l.setBox side b).box side = b := by cases side <;> rfl

theorem box_setBox_ne (h : side' ≠ side) : (l.setBox side b).box side' = l.box side' := by
  cases side <;> cases side' <;> first | rfl | exact absurd rfl h

@[simp] theorem terminated_setBox : (l.setBox side b).terminated = l.terminated := by
  cases side <;> rfl

end Link

namespace World

variable {κ : Type} {w : World κ} {id x : WorkerId}

/-! ## Views of one worker -/

theorem scope_of_worker? {k : Worker κ} (h : w.worker? x = some k) : w.scope x = k.scope := by
  cases x with
  | zero => simp [worker?] at h
  | succ n => simp [scope, h]

theorem link_of_worker? {k : Worker κ} (h : w.worker? x = some k) : w.link x = k.link := by
  simp [link, h]

theorem owner?_of_worker? {k : Worker κ} (h : w.worker? x = some k) :
    w.owner? x = some k.owner := by
  simp [owner?, h]

/-- The owner of a worker is the one that its record names. -/
theorem owner?_eq_some_iff {p : WorkerId} :
    w.owner? x = some p ↔ ∃ k, w.worker? x = some k ∧ k.owner = p := by
  simp [owner?]

/-- Who has an owner is a worker. -/
theorem worker?_isSome_of_owner? {p : WorkerId} (h : w.owner? x = some p) :
    (w.worker? x).isSome := by
  obtain ⟨k, hk, -⟩ := owner?_eq_some_iff.1 h
  rw [hk]
  rfl

@[simp] theorem worker?_zero (w : World κ) : w.worker? 0 = none := rfl

@[simp] theorem owner?_zero (w : World κ) : w.owner? 0 = none := rfl

/-- The workers of a world are numbered from one on, without gaps. -/
theorem worker?_isSome_iff : (w.worker? x).isSome ↔ 0 < x ∧ x ≤ w.workers.length := by
  cases x with
  | zero => simp
  | succ n =>
    have hsome : (w.worker? (n + 1)).isSome ↔ n < w.workers.length := by simp [worker?]
    exact hsome.trans ⟨fun h ↦ ⟨Nat.succ_pos n, h⟩, fun h ↦ h.2⟩

/-- A worker is live as long as its thread has not exited. -/
theorem isLive_iff : w.isLive x = true ↔ ∃ k, w.worker? x = some k ∧ k.phase ≠ .exited := by
  cases h : w.worker? x with
  | none => simp [isLive, phase, h]
  | some k => simp [isLive, phase, h]

section Congr

variable {w' : World κ}

theorem worker?_congr (h : w'.workers = w.workers) : w'.worker? x = w.worker? x := by
  cases x with
  | zero => rfl
  | succ n => simp only [worker?, h]

/-- What the scope of a worker depends on. -/
theorem scope_congr (hx : x ≠ 0) (h : w'.worker? x = w.worker? x) : w'.scope x = w.scope x := by
  cases x with
  | zero => exact absurd rfl hx
  | succ n => simp only [scope, h]

/-- What the scope of the root depends on. -/
theorem scope_zero_congr (h : w'.root = w.root) : w'.scope 0 = w.scope 0 := by
  simp only [scope, h]

theorem link_congr (h : w'.worker? x = w.worker? x) : w'.link x = w.link x := by
  simp only [link, h]

theorem owner?_congr (h : w'.worker? x = w.worker? x) : w'.owner? x = w.owner? x := by
  simp only [owner?, h]

end Congr

/-! ## Changing a worker -/

/-- Updating a worker touches nobody else. -/
theorem worker?_updateWorker (w : World κ) (id : WorkerId) (f : Worker κ → Worker κ)
    (x : WorkerId) :
    (w.updateWorker id f).worker? x = if x = id then (w.worker? x).map f else w.worker? x := by
  cases id with
  | zero =>
    cases x with
    | zero => rfl
    | succ n => simp [updateWorker, worker?]
  | succ m =>
    cases x with
    | zero => simp
    | succ n =>
      by_cases h : m = n
      · simp [updateWorker, worker?, h]
      · simp [updateWorker, worker?, h, Ne.symm h]

@[simp] theorem root_updateWorker (f : Worker κ → Worker κ) :
    (w.updateWorker id f).root = w.root := by
  cases id <;> rfl

@[simp] theorem handles_updateWorker (f : Worker κ → Worker κ) :
    (w.updateWorker id f).handles = w.handles := by
  cases id <;> rfl

@[simp] theorem journal_updateWorker (f : Worker κ → Worker κ) :
    (w.updateWorker id f).journal = w.journal := by
  cases id <;> rfl

@[simp] theorem events_updateWorker (f : Worker κ → Worker κ) :
    (w.updateWorker id f).events = w.events := by
  cases id <;> rfl

theorem worker?_updateWorker_self {k : Worker κ} (f : Worker κ → Worker κ)
    (h : w.worker? id = some k) : (w.updateWorker id f).worker? id = some (f k) := by
  rw [worker?_updateWorker, if_pos rfl, h]
  rfl

theorem worker?_updateWorker_ne (f : Worker κ → Worker κ) (h : x ≠ id) :
    (w.updateWorker id f).worker? x = w.worker? x := by
  rw [worker?_updateWorker, if_neg h]

@[simp] theorem scope_zero_updateWorker (f : Worker κ → Worker κ) :
    (w.updateWorker id f).scope 0 = w.scope 0 :=
  scope_zero_congr (root_updateWorker f)

/-- Updating somebody who does not exist does nothing. -/
theorem updateWorker_eq_self {f : Worker κ → Worker κ} (h : w.worker? id = none) :
    w.updateWorker id f = w := by
  cases id with
  | zero => rfl
  | succ n =>
    have hn : w.workers.length ≤ n := by simpa [worker?] using h
    rw [updateWorker, List.modify_eq_self hn]

/-! ## Adding a worker -/

/-- A worker that is added gets the next number. -/
theorem worker?_append (w : World κ) (k : Worker κ) (x : WorkerId) :
    ({ w with workers := w.workers ++ [k] } : World κ).worker? x =
      if x = w.workers.length + 1 then some k else w.worker? x := by
  cases x with
  | zero => simp [worker?]
  | succ n =>
    simp only [worker?, Nat.succ_eq_add_one, Nat.add_right_cancel_iff]
    rcases Nat.lt_trichotomy n w.workers.length with hn | hn | hn
    · rw [if_neg (Nat.ne_of_lt hn), List.getElem?_append_left hn]
    · simp [hn]
    · rw [if_neg (Nat.ne_of_gt hn), List.getElem?_eq_none (by simp; omega),
        List.getElem?_eq_none (Nat.le_of_lt hn)]

theorem worker?_next (w : World κ) : w.worker? (w.workers.length + 1) = none := by
  simp [worker?]

/-! ## Changing a link -/

/-- Giving a worker another link touches nothing else of it. -/
theorem worker?_setLink (w : World κ) (id : WorkerId) (l : Link) (x : WorkerId) :
    (w.setLink id l).worker? x =
      if x = id then (w.worker? x).map ({ · with link := l }) else w.worker? x :=
  worker?_updateWorker w id _ x

@[simp] theorem owner?_setLink (l : Link) : (w.setLink id l).owner? x = w.owner? x := by
  rw [owner?, owner?, worker?_setLink]
  split
  · cases w.worker? x <;> rfl
  · rfl

@[simp] theorem scope_setLink (l : Link) : (w.setLink id l).scope x = w.scope x := by
  cases x with
  | zero => exact scope_zero_updateWorker _
  | succ n =>
    rw [scope, scope, worker?_setLink]
    split
    · cases w.worker? (n + 1) <;> rfl
    · rfl

theorem link_setLink_self {l : Link} {k : Worker κ} (h : w.worker? id = some k) :
    (w.setLink id l).link id = l := by
  rw [link, worker?_setLink, if_pos rfl, h]
  rfl

theorem link_setLink_ne {l : Link} (h : x ≠ id) : (w.setLink id l).link x = w.link x :=
  link_congr (worker?_updateWorker_ne _ h)

/-- A mailbox is changed through the link it belongs to. -/
theorem boxPlace_modify (w : World κ) (id : WorkerId) (side : Side) (f : Mailbox → Mailbox) :
    (boxPlace id side).modify f w =
      w.setLink id ((w.link id).setBox side (f ((w.link id).box side))) := rfl

/-! ## Changing a scope -/

/-- A desk is changed through the scope it belongs to. -/
theorem deskPlace_modify (w : World κ) (id : WorkerId) (f : Desk → Desk) :
    (deskPlace id).modify f w = w.setScope id { w.scope id with desk := f (w.scope id).desk } := rfl

theorem timersPlace_modify (w : World κ) (id : WorkerId) (f : Timers → Timers) :
    (timersPlace id).modify f w =
      w.setScope id { w.scope id with timers := f (w.scope id).timers } :=
  rfl

/-- There is a scope of that number: a worker, or the root as long as it is not dropped. -/
def HasScope (w : World κ) (p : WorkerId) : Prop :=
  if p = 0 then w.root.isSome else (w.worker? p).isSome

/-- Giving a worker another scope touches nothing else of it. -/
theorem worker?_setScope (w : World κ) (id : WorkerId) (s : Scope κ) (x : WorkerId) :
    (w.setScope id s).worker? x =
      if x = id then (w.worker? x).map ({ · with scope := s }) else w.worker? x := by
  cases id with
  | zero =>
    cases x with
    | zero => rfl
    | succ n => rfl
  | succ m => exact worker?_updateWorker w (m + 1) _ x

theorem worker?_setScope_ne {s : Scope κ} (h : x ≠ id) :
    (w.setScope id s).worker? x = w.worker? x := by
  rw [worker?_setScope, if_neg h]

/-- The root is a scope only as long as it is there. -/
theorem root_setScope (w : World κ) (id : WorkerId) (s : Scope κ) :
    (w.setScope id s).root = if id = 0 then w.root.map fun _ ↦ s else w.root := by
  cases id with
  | zero => rfl
  | succ m => exact root_updateWorker _

@[simp] theorem handles_setScope (s : Scope κ) : (w.setScope id s).handles = w.handles := by
  cases id <;> rfl

@[simp] theorem journal_setScope (s : Scope κ) : (w.setScope id s).journal = w.journal := by
  cases id <;> rfl

@[simp] theorem events_setScope (s : Scope κ) : (w.setScope id s).events = w.events := by
  cases id <;> rfl

@[simp] theorem owner?_setScope (s : Scope κ) : (w.setScope id s).owner? x = w.owner? x := by
  rw [owner?, owner?, worker?_setScope]
  split
  · cases w.worker? x <;> rfl
  · rfl

@[simp] theorem link_setScope (s : Scope κ) : (w.setScope id s).link x = w.link x := by
  rw [link, link, worker?_setScope]
  split
  · cases w.worker? x <;> rfl
  · rfl

/-- A scope that can be stored is found again. -/
theorem scope_setScope_self {s : Scope κ} (h : w.HasScope id) : (w.setScope id s).scope id = s := by
  cases id with
  | zero =>
    rw [HasScope, if_pos rfl, Option.isSome_iff_exists] at h
    obtain ⟨r, hr⟩ := h
    simp [scope, root_setScope, hr]
  | succ n =>
    rw [HasScope, if_neg (by simp), Option.isSome_iff_exists] at h
    obtain ⟨k, hk⟩ := h
    simp [scope, worker?_setScope, hk]

theorem scope_setScope_ne {s : Scope κ} (h : x ≠ id) : (w.setScope id s).scope x = w.scope x := by
  cases x with
  | zero => exact scope_zero_congr (by rw [root_setScope, if_neg (Ne.symm h)])
  | succ n => exact scope_congr (by simp) (worker?_setScope_ne h)

/-- Worlds that agree on every worker have the same workers. -/
theorem workers_eq {w' : World κ} (h : ∀ x, w'.worker? x = w.worker? x) : w'.workers = w.workers :=
  List.ext_getElem? fun n ↦ h (n + 1)

/-- Storing what is there already does nothing. -/
theorem setScope_scope (w : World κ) (id : WorkerId) : w.setScope id (w.scope id) = w := by
  cases id with
  | zero =>
    have hroot : (w.root.map fun _ ↦ w.root.getD {}) = w.root := by cases w.root <;> rfl
    rw [setScope, scope, hroot]
  | succ n =>
    have hworkers : (w.setScope (n + 1) (w.scope (n + 1))).workers = w.workers := by
      refine workers_eq fun x ↦ ?_
      rw [worker?_setScope]
      split
      · rename_i hx
        cases hk : w.worker? x with
        | none => rfl
        | some k =>
          rw [← hx, scope_of_worker? hk]
          rfl
      · rfl
    exact congrArg (fun ks ↦ ({ w with workers := ks } : World κ)) hworkers

theorem setLink_link (w : World κ) (id : WorkerId) : w.setLink id (w.link id) = w := by
  have hworkers : (w.setLink id (w.link id)).workers = w.workers := by
    refine workers_eq fun x ↦ ?_
    rw [worker?_setLink]
    split
    · rename_i hx
      cases hk : w.worker? x with
      | none => rfl
      | some k =>
        rw [← hx, link_of_worker? hk]
        rfl
    · rfl
  cases id with
  | zero => rfl
  | succ n => exact congrArg (fun ks ↦ ({ w with workers := ks } : World κ)) hworkers

/-- Where no scope can be stored, the empty one is seen. -/
theorem scope_of_not_hasScope (h : ¬ w.HasScope x) : w.scope x = {} := by
  cases x with
  | zero =>
    rw [HasScope, if_pos rfl, Bool.not_eq_true, Option.isSome_eq_false_iff,
      Option.isNone_iff_eq_none] at h
    simp [scope, h]
  | succ n =>
    rw [HasScope, if_neg (by simp), Bool.not_eq_true, Option.isSome_eq_false_iff,
      Option.isNone_iff_eq_none] at h
    simp [scope, h]

theorem hasScope_setScope {s : Scope κ} : (w.setScope id s).HasScope x ↔ w.HasScope x := by
  rw [HasScope, HasScope, root_setScope, worker?_setScope]
  split
  · split <;> simp
  · split <;> simp

/-- Where there is no scope, there is nothing to replace. -/
theorem scope_setScope_or (w : World κ) (id : WorkerId) (s : Scope κ) (x : WorkerId) :
    (w.setScope id s).scope x = w.scope x ∨ x = id ∧ (w.setScope id s).scope x = s := by
  by_cases hx : x = id
  · subst hx
    by_cases hs : w.HasScope x
    · exact .inr ⟨rfl, scope_setScope_self hs⟩
    · rw [scope_of_not_hasScope hs, scope_of_not_hasScope (mt hasScope_setScope.1 hs)]
      exact .inl rfl
  · exact .inl (scope_setScope_ne hx)

end World
end ScriptWorkers
