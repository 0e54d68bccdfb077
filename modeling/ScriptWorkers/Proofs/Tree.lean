import Mathlib.Logic.Relation
import ScriptWorkers.Proofs.Views

/-!
# The tree of workers

Every worker has been spawned by a context, so workers form a tree with the root context on top;
`Under w a x` says that `x` is `a` or has been spawned below it.  The tree never changes, it only
grows.  What does change is who is still registered: a scope keeps a list of the workers it owns,
and loses one when it terminates it.

* `Shape` is what holds of every world at every moment, even in the middle of a termination:
  registered workers are the scope's own, a thread that has exited leaves nothing behind, a mailbox
  is closed exactly if its link is terminated.
* `Tended away me` says that below `me` nobody is lost: a worker is registered with the context that
  has spawned it, or it is `Dead`, or it is one of those `away` who are being waited for.
* `Frame me` is what a computation on behalf of `me` may do to the world.  The important clause is
  `Frame.apart`: nothing outside the subtree of `me` is touched.
-/

namespace ScriptWorkers

variable {κ : Type}

namespace World

variable {w w' w'' : World κ} {a b c me p x : WorkerId}

/-! ## Descent -/

/-- `x` is `a` or has been spawned by a worker under `a`. -/
def Under (w : World κ) (a x : WorkerId) : Prop :=
  Relation.ReflTransGen (fun p c ↦ w.owner? c = some p) a x

theorem Under.refl (w : World κ) (a : WorkerId) : w.Under a a := Relation.ReflTransGen.refl

/-- Descent goes from generation to generation. -/
theorem Under.trans (h₁ : w.Under a b) (h₂ : w.Under b c) : w.Under a c :=
  Relation.ReflTransGen.trans h₁ h₂

/-- A worker is under the one who has spawned it. -/
theorem under_of_owner? (h : w.owner? c = some p) : w.Under p c := Relation.ReflTransGen.single h

theorem Under.tail (h : w.Under a p) (hc : w.owner? c = some p) : w.Under a c :=
  Relation.ReflTransGen.tail h hc

/-- Who is under `a` is `a` itself or has an owner under `a`. -/
theorem Under.eq_or_owner (h : w.Under a x) : x = a ∨ ∃ p, w.owner? x = some p ∧ w.Under a p := by
  rcases Relation.ReflTransGen.cases_tail h with h | ⟨p, hp, hx⟩
  · exact .inl h
  · exact .inr ⟨p, hx, hp⟩

/-- The owner of somebody below `a` is under `a`. -/
theorem Under.owner_under (h : w.Under a x) (hne : x ≠ a) (hp : w.owner? x = some p) :
    w.Under a p := by
  rcases h.eq_or_owner with h | ⟨q, hq, hu⟩
  · exact absurd h hne
  · rw [hp, Option.some_inj] at hq
    exact hq ▸ hu

/-! ## What always holds -/

/-- The thread of the worker has come to its end, and its link is closed for good. -/
def Dead (w : World κ) (c : WorkerId) : Prop :=
  ∃ k, w.worker? c = some k ∧ k.phase = .exited ∧ k.link.terminated = true

/-- The worker has been told to end. -/
def Flagged (w : World κ) (c : WorkerId) : Prop :=
  ∃ k, w.worker? c = some k ∧ k.link.terminated = true

/-- The context has not come to its end: the root is there, or the thread has not exited. -/
def Awake (w : World κ) (p : WorkerId) : Prop :=
  if p = 0 then w.root.isSome = true else ∃ k, w.worker? p = some k ∧ k.phase ≠ .exited

/-- A context that has not come to its end has a scope. -/
theorem Awake.hasScope (h : w.Awake p) : w.HasScope p := by
  rw [HasScope]
  rw [Awake] at h
  split
  · rename_i hp
    rwa [if_pos hp] at h
  · rename_i hp
    rw [if_neg hp] at h
    obtain ⟨k, hk, -⟩ := h
    rw [hk]
    rfl

theorem Awake.known (h : w.Awake p) : p = 0 ∨ (w.worker? p).isSome := by
  by_cases hp : p = 0
  · exact .inl hp
  · have hs := h.hasScope
    rw [HasScope, if_neg hp] at hs
    exact .inr hs

theorem Awake.phase_ne {k : Worker κ} (h : w.Awake p) (hk : w.worker? p = some k) :
    k.phase ≠ .exited := by
  have hp : p ≠ 0 := by
    rintro rfl
    simp at hk
  rw [Awake, if_neg hp] at h
  obtain ⟨k', hk', hne⟩ := h
  rw [hk, Option.some_inj] at hk'
  exact hk' ▸ hne

/-- A live worker has not come to its end. -/
theorem awake_of_isLive (h : w.isLive p = true) : w.Awake p := by
  have hp : p ≠ 0 := by
    rintro rfl
    simp [isLive, phase] at h
  rw [Awake, if_neg hp]
  exact isLive_iff.1 h

end World

/-- The scope `p` lists only workers of its own. -/
structure Scope.Fits (w : World κ) (p : WorkerId) (s : Scope κ) : Prop where
  kids : ∀ c ∈ s.kids, w.owner? c = some p
  nodup : s.kids.Nodup
  held : ∀ c ∈ s.desk.workers, w.owner? c = some p

/-- The worker `c` is as it should be. -/
structure Worker.Fits (w : World κ) (c : WorkerId) (k : Worker κ) : Prop where
  owner : k.owner < c
  scope : k.scope.Fits w c
  /-- A thread that has exited leaves nothing behind. -/
  rest : k.phase = .exited →
    k.scope.kids = [] ∧ k.scope.timers.entries = [] ∧ k.scope.context = none
  closed : ∀ side, (k.link.box side).closed = k.link.terminated
  /-- Only in trials of single mailboxes do posts have to wait. -/
  waiting : ∀ side, (k.link.box side).waiting = []

/-- What may have become of a worker later on. -/
structure Worker.Later (k k' : Worker κ) : Prop where
  owner : k'.owner = k.owner
  script : k'.script = k.script
  terminated : k.link.terminated = true → k'.link.terminated = true
  exited : k.phase = .exited → k'.phase = .exited ∧ k'.scope = k.scope

theorem Worker.Later.refl (k : Worker κ) : k.Later k :=
  ⟨rfl, rfl, id, fun h ↦ ⟨h, rfl⟩⟩

/-- What becomes of a worker becomes of it step by step. -/
theorem Worker.Later.trans {k k' k'' : Worker κ} (h : k.Later k') (h' : k'.Later k'') :
    k.Later k'' where
  owner := h'.owner.trans h.owner
  script := h'.script.trans h.script
  terminated ht := h'.terminated (h.terminated ht)
  exited he := by
    obtain ⟨he', hs⟩ := h.exited he
    obtain ⟨he'', hs'⟩ := h'.exited he'
    exact ⟨he'', hs'.trans hs⟩

namespace World

variable {w w' w'' : World κ} {a b c me p x : WorkerId}

/-- Everything in the world is as it should be, even in the middle of an operation. -/
structure Shape (w : World κ) : Prop where
  root : (w.scope 0).Fits w 0
  workers : ∀ c k, w.worker? c = some k → k.Fits w c
  handles : ∀ c ∈ w.handles, w.owner? c = some 0

/-- Every worker that `p` has spawned is registered with it, or dead, or one of those `away`. -/
def Accounted (w : World κ) (away : List WorkerId) (p : WorkerId) : Prop :=
  ∀ c, w.owner? c = some p → c ∈ (w.scope p).kids ∨ w.Dead c ∨ c ∈ away

/-- Nobody under `me` is lost. -/
def Tended (away : List WorkerId) (me : WorkerId) (w : World κ) : Prop :=
  ∀ p, w.Under me p → w.Accounted away p

namespace Shape

/-- Workers are younger than those who have spawned them. -/
theorem owner_lt (h : w.Shape) (hc : w.owner? c = some p) : p < c := by
  obtain ⟨k, hk, rfl⟩ := owner?_eq_some_iff.1 hc
  exact (h.workers c k hk).owner

/-- Registered workers are the scope's own, also for the root. -/
theorem fits (h : w.Shape) (p : WorkerId) : (w.scope p).Fits w p := by
  cases p with
  | zero => exact h.root
  | succ n =>
    cases hk : w.worker? (n + 1) with
    | some k =>
      rw [scope_of_worker? hk]
      exact (h.workers _ k hk).scope
    | none =>
      have hs : w.scope (n + 1) = {} := by simp [scope, hk]
      rw [hs]
      exact ⟨by simp, List.nodup_nil, by simp⟩

/-- Numbers grow downwards. -/
theorem le_of_under (h : w.Shape) (hu : w.Under a x) : a ≤ x := by
  induction hu with
  | refl => exact Nat.le_refl a
  | tail _ hc ih => exact Nat.le_of_lt (Nat.lt_of_le_of_lt ih (h.owner_lt hc))

theorem lt_of_under (h : w.Shape) (hu : w.Under a x) (hne : a ≠ x) : a < x :=
  Nat.lt_of_le_of_ne (h.le_of_under hu) hne

/-- The owner of a worker is the root or a worker itself. -/
theorem owner_exists (h : w.Shape) (hc : w.owner? c = some p) :
    p = 0 ∨ (w.worker? p).isSome := by
  rcases Nat.eq_zero_or_pos p with hp | hp
  · exact .inl hp
  · have hlt := h.owner_lt hc
    have hb := (worker?_isSome_iff.1 (worker?_isSome_of_owner? hc)).2
    exact .inr (worker?_isSome_iff.2 ⟨hp, Nat.le_trans (Nat.le_of_lt hlt) hb⟩)

/-- Everybody is under the root. -/
theorem under_root (h : w.Shape) : ∀ x, (w.worker? x).isSome → w.Under 0 x := by
  intro x
  induction x using Nat.strongRecOn with
  | ind x ih =>
    intro hx
    obtain ⟨k, hk⟩ := Option.isSome_iff_exists.1 hx
    have ho := owner?_of_worker? hk
    rcases h.owner_exists ho with hp | hp
    · exact under_of_owner? (hp ▸ ho)
    · exact (ih k.owner (h.owner_lt ho) hp).tail ho

/-- And so is the root itself. -/
theorem under_root_of_known (h : w.Shape) (hx : x = 0 ∨ (w.worker? x).isSome) : w.Under 0 x := by
  rcases hx with rfl | hx
  · exact .refl w 0
  · exact h.under_root x hx

end Shape

end World

/-! ## What a computation may do -/

/-- Whom the deed is about: the one whose link was posted to, otherwise the one on whose
behalf it was done. -/
def Deed.about : Deed → WorkerId
  | .posted id .. => id
  | .began me .. | .called me .. | .logged me .. | .ended me .. | .retained me _ | .timed me _
  | .retired me _ => me

namespace World

variable {w w' w'' : World κ} {a b c id me p x : WorkerId}

/-- What any computation does to the world: workers go on, and threads that have exited are
silent. -/
structure Passage (w w' : World κ) : Prop where
  kept : ∀ c k, w.worker? c = some k → ∃ k', w'.worker? c = some k' ∧ k.Later k'
  events : ∃ es, w'.events.toList = w.events.toList ++ es ∧
    ∀ e ∈ es, ∀ k, w.worker? e.1 = some k → k.phase ≠ .exited

/-- What a computation on behalf of `me` does to the world. -/
structure Frame (me : WorkerId) (w w' : World κ) : Prop extends Passage w w' where
  /-- Workers that are not under `me` stay as they are. -/
  apart : ∀ c k, w.worker? c = some k → ¬ w.Under me c → w'.worker? c = some k
  fresh : ∀ c, w.worker? c = none → (w'.worker? c).isSome → w'.Under me c
  root : me ≠ 0 → w'.root = w.root
  rooted : w'.root.isSome = w.root.isSome
  handles : w'.handles = w.handles
  /-- Whom `me` itself sends its messages to is not its own business. -/
  mine : (w'.link me).outbox.callback = (w.link me).outbox.callback
  journal : ∃ ds, w'.journal.toList = w.journal.toList ++ ds ∧ ∀ d ∈ ds, w'.Under me d.about

namespace Passage

theorem refl (w : World κ) : w.Passage w where
  kept _ k hk := ⟨k, hk, .refl k⟩
  events := ⟨[], by simp, by simp⟩

theorem trans (h : w.Passage w') (h' : w'.Passage w'') : w.Passage w'' where
  kept c k hk := by
    obtain ⟨k', hk', hl⟩ := h.kept c k hk
    obtain ⟨k'', hk'', hl'⟩ := h'.kept c k' hk'
    exact ⟨k'', hk'', hl.trans hl'⟩
  events := by
    obtain ⟨es, he, hes⟩ := h.events
    obtain ⟨es', he', hes'⟩ := h'.events
    refine ⟨es ++ es', by rw [he', he, List.append_assoc], fun e hm k hk ↦ ?_⟩
    rcases List.mem_append.1 hm with hm | hm
    · exact hes e hm k hk
    · -- a thread that had exited before the first part would still have exited after it
      obtain ⟨k', hk', hl⟩ := h.kept _ k hk
      exact fun hx ↦ hes' e hm k' hk' (hl.exited hx).1

theorem owner? (h : w.Passage w') (hc : w.owner? c = some p) : w'.owner? c = some p := by
  obtain ⟨k, hk, rfl⟩ := owner?_eq_some_iff.1 hc
  obtain ⟨k', hk', hl⟩ := h.kept c k hk
  exact owner?_eq_some_iff.2 ⟨k', hk', hl.owner⟩

/-- Nobody changes the owner of a worker that was there before. -/
theorem owner?_back (h : w.Passage w') (hex : (w.worker? c).isSome) (hc : w'.owner? c = some p) :
    w.owner? c = some p := by
  obtain ⟨k, hk⟩ := Option.isSome_iff_exists.1 hex
  have ho := owner?_of_worker? hk
  have ho' := h.owner? ho
  rw [hc, Option.some_inj] at ho'
  rw [ho, ho']

theorem under (h : w.Passage w') (hu : w.Under a x) : w'.Under a x := by
  induction hu with
  | refl => exact Under.refl w' a
  | tail _ hc ih => exact ih.tail (h.owner? hc)

/-- Among those who were there before, descent is what it was. -/
theorem under_back (h : w.Passage w') (hs : w.Shape) :
    ∀ x, x = 0 ∨ (w.worker? x).isSome → w'.Under a x → w.Under a x := by
  intro x
  induction x using Nat.strongRecOn with
  | ind x ih =>
    intro hx hu
    rcases hu.eq_or_owner with rfl | ⟨p, hp, hap⟩
    · exact Under.refl w x
    · have hex : (w.worker? x).isSome := by
        rcases hx with rfl | hx
        · simp at hp
        · exact hx
      have ho := h.owner?_back hex hp
      exact (ih p (hs.owner_lt ho) (hs.owner_exists ho) hap).tail ho

/-- Who has been told to end stays told. -/
theorem flagged (h : w.Passage w') (hc : w.Flagged c) : w'.Flagged c := by
  obtain ⟨k, hk, ht⟩ := hc
  obtain ⟨k', hk', hl⟩ := h.kept c k hk
  exact ⟨k', hk', hl.terminated ht⟩

/-- The dead stay dead. -/
theorem dead (h : w.Passage w') (hd : w.Dead c) : w'.Dead c := by
  obtain ⟨k, hk, hx, ht⟩ := hd
  obtain ⟨k', hk', hl⟩ := h.kept c k hk
  exact ⟨k', hk', (hl.exited hx).1, hl.terminated ht⟩

theorem isSome (h : w.Passage w') (hex : (w.worker? c).isSome) : (w'.worker? c).isSome := by
  obtain ⟨k, hk⟩ := Option.isSome_iff_exists.1 hex
  obtain ⟨k', hk', -⟩ := h.kept c k hk
  rw [hk']
  rfl

end Passage

/-! ## Frames compose -/

namespace Frame

theorem refl (me : WorkerId) (w : World κ) : Frame me w w where
  toPassage := .refl w
  apart _ _ hk _ := hk
  fresh c hn hs := by simp [hn] at hs
  root _ := rfl
  rooted := rfl
  handles := rfl
  mine := rfl
  journal := ⟨[], by simp, by simp⟩

/-- Two computations on behalf of one context make one. -/
theorem trans (hs : w.Shape) (h : Frame me w w') (h' : Frame me w' w'') : Frame me w w'' where
  toPassage := h.toPassage.trans h'.toPassage
  apart c k hk hn := by
    refine h'.apart c k (h.apart c k hk hn) fun hu ↦ hn ?_
    exact h.under_back hs c (.inr (by rw [hk]; rfl)) hu
  fresh c hn hc := by
    cases hc' : w'.worker? c with
    | none => exact h'.fresh c hc' hc
    | some k => exact h'.under (h.fresh c hn (by rw [hc']; rfl))
  root hne := (h'.root hne).trans (h.root hne)
  rooted := h'.rooted.trans h.rooted
  handles := h'.handles.trans h.handles
  mine := h'.mine.trans h.mine
  journal := by
    obtain ⟨ds, hd, hds⟩ := h.journal
    obtain ⟨ds', hd', hds'⟩ := h'.journal
    refine ⟨ds ++ ds', by rw [hd', hd, List.append_assoc], fun d hm ↦ ?_⟩
    rcases List.mem_append.1 hm with hm | hm
    · exact h'.under (hds d hm)
    · exact hds' d hm

/-- New workers are under the context on whose behalf they were made. -/
theorem worker?_none (h : Frame me w w') (hn : w.worker? c = none) (hu : ¬ w'.Under me c) :
    w'.worker? c = none := by
  cases hc : w'.worker? c with
  | none => rfl
  | some k => exact absurd (h.fresh c hn (by rw [hc]; rfl)) hu

/-- Whoever is above `b` is not touched by what is done on behalf of `b`. -/
theorem above (h : Frame b w w') (hs : w'.Shape) (ha : a < b) : w'.worker? a = w.worker? a := by
  have hu : ¬ w'.Under b a := fun hu ↦ Nat.not_lt_of_le (hs.le_of_under hu) ha
  cases hk : w.worker? a with
  | none => exact h.worker?_none hk hu
  | some k => exact h.apart a k hk fun hu' ↦ hu (h.under hu')

/-- The scopes of older contexts stay as they are. -/
theorem scope_above (h : Frame b w w') (hs : w'.Shape) (ha : a < b) : w'.scope a = w.scope a := by
  rcases Nat.eq_zero_or_pos a with rfl | hp
  · exact scope_zero_congr (h.root (Nat.ne_of_gt ha))
  · exact scope_congr (Nat.ne_of_gt hp) (h.above hs ha)

/-- What is done on behalf of a worker is done on behalf of those above it. -/
theorem lift (h : Frame b w w') (hs' : w'.Shape) (hab : w'.Under a b) (hu : w.Under a b)
    (hne : a ≠ b) : Frame a w w' where
  toPassage := h.toPassage
  apart c k hk hn := h.apart c k hk fun hb ↦ hn (hu.trans hb)
  fresh c hn hc := hab.trans (h.fresh c hn hc)
  root _ := h.root (Nat.ne_of_gt (Nat.zero_lt_of_lt (hs'.lt_of_under hab hne)))
  rooted := h.rooted
  handles := h.handles
  mine := by rw [link_congr (h.above hs' (hs'.lt_of_under hab hne))]
  journal := by
    obtain ⟨ds, hd, hds⟩ := h.journal
    exact ⟨ds, hd, fun d hm ↦ hab.trans (hds d hm)⟩

end Frame

/-- Things are done on behalf of the workers of a list, in any order. -/
def Frames (ids : List WorkerId) : World κ → World κ → Prop :=
  Relation.ReflTransGen fun w w' ↦ w.Shape ∧ w'.Shape ∧ ∃ id ∈ ids, Frame id w w'

namespace Frames

variable {ids : List WorkerId}

theorem single (hs : w.Shape) (hs' : w'.Shape) (hid : id ∈ ids) (h : Frame id w w') :
    Frames ids w w' :=
  Relation.ReflTransGen.single ⟨hs, hs', id, hid, h⟩

theorem trans (h : Frames ids w w') (h' : Frames ids w' w'') : Frames ids w w'' :=
  Relation.ReflTransGen.trans h h'

theorem passage (h : Frames ids w w') : w.Passage w' := by
  induction h with
  | refl => exact .refl w
  | tail _ hf ih =>
    obtain ⟨-, -, id, -, hf⟩ := hf
    exact ih.trans hf.toPassage

/-- What is done on behalf of workers of `me` is done on behalf of `me`. -/
theorem frame (h : Frames ids w w') (hs : w.Shape) (hown : ∀ id ∈ ids, w.owner? id = some me) :
    Frame me w w' := by
  induction h with
  | refl => exact .refl me w
  | tail hp hf ih =>
    obtain ⟨hs₁, hs₂, id, hid, hf⟩ := hf
    have ho := hown id hid
    have ho₁ := (passage hp).owner? ho
    refine ih.trans hs (hf.lift hs₂ (under_of_owner? (hf.owner? ho₁)) (under_of_owner? ho₁) ?_)
    exact Nat.ne_of_lt (hs.owner_lt ho)

/-- Workers that are under none of the list stay as they are. -/
theorem apart (h : Frames ids w w') (hs : w.Shape) {k : Worker κ} (hk : w.worker? c = some k)
    (hn : ∀ id ∈ ids, ¬ w.Under id c) : w'.worker? c = some k := by
  induction h with
  | refl => exact hk
  | tail hp hf ih =>
    obtain ⟨-, -, id, hid, hf⟩ := hf
    refine hf.apart c k ih fun hu ↦ hn id hid ?_
    exact (passage hp).under_back hs c (.inr (by rw [hk]; rfl)) hu

/-- A new worker is under one of those on whose behalf something was done. -/
theorem fresh (h : Frames ids w w') (hc : w.worker? c = none) (hs : (w'.worker? c).isSome) :
    ∃ id ∈ ids, w'.Under id c := by
  induction h with
  | refl => simp [hc] at hs
  | @tail w₁ w₂ hp hf ih =>
    obtain ⟨-, -, id, hid, hf⟩ := hf
    cases hw : w₁.worker? c with
    | none => exact ⟨id, hid, hf.fresh c hw hs⟩
    | some k =>
      obtain ⟨id', hid', hu⟩ := ih (by rw [hw]; rfl)
      exact ⟨id', hid', hf.under hu⟩

/-- The scope that they are workers of stays as it is. -/
theorem scope_owner (h : Frames ids w w') (hs : w.Shape)
    (hown : ∀ id ∈ ids, w.owner? id = some me) : w'.scope me = w.scope me := by
  induction h with
  | refl => rfl
  | tail hp hf ih =>
    obtain ⟨-, hs₂, id, hid, hf⟩ := hf
    rw [hf.scope_above hs₂ (hs.owner_lt (hown id hid)), ih]

theorem root (h : Frames ids w w') (hne : 0 ∉ ids) : w'.root = w.root := by
  induction h with
  | refl => rfl
  | tail _ hf ih =>
    obtain ⟨-, -, id, hid, hf⟩ := hf
    rw [hf.root (fun h ↦ hne (h ▸ hid)), ih]

theorem handles (h : Frames ids w w') : w'.handles = w.handles := by
  induction h with
  | refl => rfl
  | tail _ hf ih =>
    obtain ⟨-, -, id, -, hf⟩ := hf
    rw [hf.handles, ih]

end Frames

/-! ## Nobody is lost -/

/-- What is done on behalf of `me` loses nobody if the workers that are no longer registered are
away, and the new ones are registered. -/
theorem Tended.frame {away away' : List WorkerId} (h : Tended away me w) (hs : w.Shape)
    (hf : Frame me w w') (haway : ∀ c ∈ away, w'.Dead c ∨ c ∈ away')
    (hkids : ∀ p, w.Under me p → ∀ c ∈ (w.scope p).kids, c ∈ (w'.scope p).kids ∨ c ∈ away')
    (hfresh : ∀ p c, w.worker? c = none → w'.owner? c = some p → c ∈ (w'.scope p).kids) :
    Tended away' me w' := by
  intro p hp c hc
  cases hw : w.worker? c with
  | none => exact .inl (hfresh p c hw hc)
  | some k =>
    have ho := hf.owner?_back (by rw [hw]; rfl) hc
    have hu := hf.under_back hs p (hs.owner_exists ho) hp
    rcases h p hu c ho with hk | hd | ha
    · exact (hkids p hu c hk).imp_right .inr
    · exact .inr (.inl (hf.dead hd))
    · exact .inr (haway c ha)

/-- What is done on behalf of a worker loses nobody under `me` if it loses nobody under that
worker. -/
theorem Tended.nested {away : List WorkerId} (h : Tended away me w) (hs : w.Shape)
    (hid : (w.worker? id).isSome) (hf : Frame id w w') (ht : Tended [] id w') :
    Tended away me w' := by
  intro p hp c hc
  by_cases hu : w'.Under id p
  · exact (ht p hu c hc).imp_right (.imp_right (by simp))
  · cases hw : w.worker? c with
    | none =>
      -- a new worker is under `id`, and so is the one that has spawned it
      obtain ⟨k, hk, -⟩ := owner?_eq_some_iff.1 hc
      have hne : c ≠ id := by
        rintro rfl
        simp [hw] at hid
      exact absurd ((hf.fresh c hw (by rw [hk]; rfl)).owner_under hne hc) hu
    | some k =>
      have ho := hf.owner?_back (by rw [hw]; rfl) hc
      have hscope : w'.scope p = w.scope p := by
        rcases hs.owner_exists ho with rfl | hp'
        · exact scope_zero_congr (hf.root (by rintro rfl; simp at hid))
        · obtain ⟨k, hk⟩ := Option.isSome_iff_exists.1 hp'
          rw [scope_of_worker? hk, scope_of_worker? (hf.apart p k hk fun h' ↦ hu (hf.under h'))]
      rcases h p (hf.under_back hs p (hs.owner_exists ho) hp) c ho with hk | hd | ha
      · exact .inl (hscope ▸ hk)
      · exact .inr (.inl (hf.dead hd))
      · exact .inr (.inr ha)

/-- Under a worker of `me` nobody is away if only workers of `me` are. -/
theorem Tended.kid {away : List WorkerId} (h : Tended away me w) (hs : w.Shape)
    (haway : ∀ c ∈ away, w.owner? c = some me) (hid : w.owner? id = some me) :
    Tended [] id w := by
  intro p hp c hc
  rcases h p ((under_of_owner? hid).trans hp) c hc with hk | hd | ha
  · exact .inl hk
  · exact .inr (.inl hd)
  · have hme := haway c ha
    rw [hc, Option.some_inj] at hme
    exact absurd (hs.owner_lt hid) (Nat.not_lt_of_le (hme ▸ hs.le_of_under hp))

/-- Who has been waited for is not away any more. -/
theorem Tended.dead {away : List WorkerId} (h : Tended away me w) (hd : ∀ c ∈ away, w.Dead c) :
    Tended [] me w := by
  intro p hp c hc
  rcases h p hp c hc with hk | hd' | ha
  · exact .inl hk
  · exact .inr (.inl hd')
  · exact .inr (.inl (hd c ha))

/-- With a dead worker everybody under it is dead. -/
theorem Tended.under_dead (h : Tended [] me w) (hs : w.Shape) (hd : w.Dead me) (hx : w.Under me x) :
    w.Dead x := by
  induction hx with
  | refl => exact hd
  | @tail p c hp hc ih =>
    obtain ⟨k, hk, hx, -⟩ := ih
    have hkids := ((hs.workers p k hk).rest hx).1
    rcases h p hp c hc with hm | hm | hm
    · rw [scope_of_worker? hk, hkids] at hm
      simp at hm
    · exact hm
    · simp at hm

end World
end ScriptWorkers
