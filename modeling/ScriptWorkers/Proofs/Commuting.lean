import ScriptWorkers.Proofs.Likeness.Steps
import ScriptWorkers.Proofs.Termination

/-!
# Steps of unrelated workers

Two workers neither of which has been spawned below the other do not interact: their steps commute.

A step of a worker reads nothing outside the subtree of the worker but the clock, the loader and the
number of workers there are.  So it does the same in two worlds that have the subtree in common
(`Likeness.below`).  Nor does it touch anything outside of the subtree, which is `World.Frame`.  If
neither of two steps moves what they share, each of them finds its own subtree as it would have
found it without the other.

* `Under.comparable`: of two workers above a third one is above the other, so two subtrees are one
  inside the other or have nobody in common (`Unrelated.not_under`).
* `worlds_below`: after a step of the other worker the world is like the one before it.
* `after_step`: what a step does, it does in both worlds.
* `filter_swap`: what was put down in another order is the same thread by thread.
* `unrelated_steps_commute` puts the two orders side by side.
-/

namespace ScriptWorkers

variable {κ : Type}

/-! ## Two subtrees -/

namespace World

variable {w w' : World κ} {a b c x : WorkerId}

/-- Of two workers above a third one, one is above the other. -/
theorem Under.comparable (ha : w.Under a x) (hb : w.Under b x) : w.Under a b ∨ w.Under b a := by
  induction ha with
  | refl => exact .inr hb
  | @tail p c h hc ih =>
    by_cases hbc : c = b
    · exact .inl (hbc ▸ h.tail hc)
    · exact ih (hb.owner_under hbc hc)

/-- Neither of the two workers has been spawned below the other. -/
def Unrelated (w : World κ) (a b : WorkerId) : Prop := ¬ w.Under a b ∧ ¬ w.Under b a

theorem Unrelated.symm (h : w.Unrelated a b) : w.Unrelated b a := ⟨h.2, h.1⟩

/-- The subtrees of unrelated workers have nobody in common. -/
theorem Unrelated.not_under (h : w.Unrelated a b) (ha : w.Under a x) : ¬ w.Under b x :=
  fun hb ↦ (ha.comparable hb).elim h.1 h.2

/-- What all workers share has not been touched: nobody has been spawned, the clock stands where it
stood and the loader is as it was. -/
structure Undisturbed (w w' : World κ) : Prop where
  count : w'.workers.length = w.workers.length
  clock : w'.clock = w.clock
  loader : w'.loader = w.loader

theorem worker?_isSome_congr (hc : w'.workers.length = w.workers.length) (x : WorkerId) :
    (w'.worker? x).isSome = (w.worker? x).isSome := by
  rw [Bool.eq_iff_iff, worker?_isSome_iff, worker?_isSome_iff, hc]

theorem worker?_none_congr (hc : w'.workers.length = w.workers.length) (hx : w.worker? x = none) :
    w'.worker? x = none := by
  rw [← Option.not_isSome_iff_eq_none, worker?_isSome_congr hc, hx]
  simp

theorem le_length_of_worker? {k : Worker κ} (hk : w.worker? x = some k) : x ≤ w.workers.length :=
  (worker?_isSome_iff.1 (Option.isSome_iff_exists.2 ⟨k, hk⟩)).2

/-- As long as nobody is spawned, owners stay as they are. -/
theorem Passage.owner?_eq (h : w.Passage w') (hc : w'.workers.length = w.workers.length) :
    w'.owner? c = w.owner? c := by
  cases hk : w.worker? c with
  | some k =>
    obtain ⟨k', hk', hl⟩ := h.kept c k hk
    rw [owner?_of_worker? hk, owner?_of_worker? hk', hl.owner]
  | none => exact owner?_congr ((worker?_none_congr hc hk).trans hk.symm)

/-- Outside of the subtree of `b` all workers are as they were. -/
theorem Frame.worker?_eq (h : Frame b w w') (hc : w'.workers.length = w.workers.length)
    (hx : ¬ w.Under b x) : w'.worker? x = w.worker? x := by
  cases hk : w.worker? x with
  | some k => exact h.apart x k hk hx
  | none => exact worker?_none_congr hc hk

/-- The tree is given by the owners. -/
theorem under_congr (h : ∀ c, w'.owner? c = w.owner? c) : w'.Under a x ↔ w.Under a x := by
  simp only [Under, h]

end World

namespace Likeness

open World

/-! ## Worlds with a subtree in common -/

/-- Two worlds that have the subtree of `a` in common.  `w` and `v` are how they have started out;
since then the same has happened on both sides, and only to the subtree. -/
def below (w v : World κ) (a : WorkerId) : Likeness κ κ where
  inside x := w.Under a x ∨ w.workers.length < x
  context := Eq
  events es₁ es₂ := ∃ es, es₁.toList = w.events.toList ++ es ∧ es₂.toList = v.events.toList ++ es ∧
    ∀ e ∈ es, w.Under a e.1 ∨ w.workers.length < e.1
  journal ds₁ ds₂ := ∃ ds, ds₁.toList = w.journal.toList ++ ds ∧
    ds₂.toList = v.journal.toList ++ ds ∧ ∀ d ∈ ds, w.Under a d.about ∨ w.workers.length < d.about
  push_events := by
    rintro es₁ es₂ id e hid ⟨es, h₁, h₂, hes⟩
    refine ⟨es ++ [(id, e)], by simp [h₁], by simp [h₂], fun x hx ↦ ?_⟩
    rcases List.mem_append.1 hx with hx | hx
    · exact hes x hx
    · rw [List.mem_singleton] at hx
      exact hx ▸ hid
  push_journal := by
    rintro ds₁ ds₂ d hd ⟨ds, h₁, h₂, hds⟩
    refine ⟨ds ++ [d], by simp [h₁], by simp [h₂], fun x hx ↦ ?_⟩
    rcases List.mem_append.1 hx with hx | hx
    · exact hds x hx
    · rw [List.mem_singleton] at hx
      exact hx ▸ hd

section Below

variable {w w' : World κ} {a b : WorkerId}

theorem below_workers {c : WorkerId} {k : Worker κ} {v : World κ} (hs : w.Shape) (hc : w.Under a c)
    (hk : w.worker? c = some k) : (below w v a).Workers k k := by
  have hfit := (hs.workers c k hk).scope
  refine ⟨rfl, rfl, rfl, rfl, rfl, rfl, rfl, rfl, ?_, fun d hd ↦ ?_, fun d hd ↦ ?_⟩
  · cases k.scope.context with
    | none => exact .none
    | some x => exact .some rfl
  · exact .inl (hc.tail (hfit.kids d hd))
  · exact .inl (hc.tail (hfit.held d hd))

/-- Both worlds have the same workers in the subtree. -/
theorem worker?_eq_of_below {v w₁ w₂ : World κ} {x : WorkerId} (h : (below w v a).Worlds w₁ w₂)
    (hx : w.Under a x) : w₁.worker? x = w₂.worker? x := by
  rcases h.worker (.inl hx) with ⟨h₁, h₂⟩ | ⟨k₁, k₂, h₁, h₂, hk⟩
  · rw [h₁, h₂]
  · rw [h₁, h₂, hk.eq fun _ _ ↦ id]

/-- After a step of an unrelated worker the subtree of `a` is as it was. -/
theorem worlds_below (hs : w.Shape) (hf : Frame b w w') (hu : w.Undisturbed w')
    (hab : w.Unrelated a b) (ha : 0 < a) : (below w w' a).Worlds w w' where
  count := hu.count.symm
  owners c := (hf.toPassage.owner?_eq hu.count).symm
  unborn c hc := .inr hc
  family c p hc hp := by
    rcases hp with hp | hp
    · exact .inl (hp.tail hc)
    · obtain ⟨k, hk, -⟩ := owner?_eq_some_iff.1 hc
      have hpc := Nat.le_trans (Nat.le_of_lt (hs.owner_lt hc)) (le_length_of_worker? hk)
      exact absurd hp (Nat.not_lt.2 hpc)
  workers c hc := by
    cases hk : w.worker? c with
    | none =>
      rw [worker?_none_congr hu.count hk]
      exact .none
    | some k =>
      have hc' : w.Under a c := hc.resolve_right (Nat.not_lt.2 (le_length_of_worker? hk))
      rw [hf.apart c k hk (hab.not_under hc')]
      exact .some (below_workers hs hc' hk)
  root h0 := by
    rcases h0 with h0 | h0
    · exact absurd ha (Nat.not_lt.2 (hs.le_of_under h0))
    · exact absurd h0 (Nat.not_lt_zero _)
  handles h0 := hf.handles.symm
  clock := hu.clock.symm
  loader := hu.loader.symm
  events := ⟨[], by simp, by simp, by simp⟩
  journal := ⟨[], by simp, by simp, by simp⟩

end Below

end Likeness

open World

/-! ## Steps commute -/

/-- The deeds that are about a worker. -/
def World.deedsOf (w : World κ) (x : WorkerId) : List Deed := w.journal.toList.filter (·.about = x)

/-- Two worlds are the same, except that what has happened on different threads may have happened in
another order. -/
structure World.SameUpToOrder (w₁ w₂ : World κ) : Prop where
  root : w₁.root = w₂.root
  workers : w₁.workers = w₂.workers
  handles : w₁.handles = w₂.handles
  clock : w₁.clock = w₂.clock
  loader : w₁.loader = w₂.loader
  events : ∀ x ≤ w₁.workers.length, w₁.eventsOf x = w₂.eventsOf x
  journal : ∀ x ≤ w₁.workers.length, w₁.deedsOf x = w₂.deedsOf x

/-- What happens in one subtree and what happens in the other may be told in any order. -/
theorem filter_swap {α : Type} {key : α → WorkerId} {w : World κ} {a b x : WorkerId}
    {l s t : List α}
    (hab : w.Unrelated a b) (hs : ∀ e ∈ s, w.Under a (key e) ∨ w.workers.length < key e)
    (ht : ∀ e ∈ t, w.Under b (key e) ∨ w.workers.length < key e) (hx : x ≤ w.workers.length) :
    (l ++ s ++ t).filter (key · = x) = (l ++ t ++ s).filter (key · = x) := by
  have hnil {c : WorkerId} {r : List α} (hc : ¬ w.Under c x)
      (hr : ∀ e ∈ r, w.Under c (key e) ∨ w.workers.length < key e) : r.filter (key · = x) = [] := by
    rw [List.filter_eq_nil_iff]
    intro e he hex
    rw [decide_eq_true_eq] at hex
    rcases hr e he with h | h
    · exact hc (hex ▸ h)
    · exact absurd (hex ▸ h) (Nat.not_lt.2 hx)
  by_cases ha : w.Under a x
  · simp [hnil (hab.not_under ha) ht]
  · simp [hnil ha hs]

section Steps

variable {engine : Engine κ} {w w' : World κ} {a b : WorkerId} {n : Nat}

/-- A step of `a` stays within the subtree of `a`. -/
theorem frame_of_step {u : Unit} (hs : w.Shape) (h : step engine n a w = .ok u w') :
    w'.Shape ∧ Frame a w w' := by
  obtain ⟨hs', hf, -⟩ := (((Order.lawful engine).brings_step n).keeps a w).ok hs h
  exact ⟨hs', hf⟩

/-- A step of `a` does the same before and after a step of an unrelated worker. -/
theorem after_step (engine : Engine κ) (n : Nat) (hs : w.Shape) (hf : Frame b w w')
    (hu : w.Undisturbed w') (hab : w.Unrelated a b) (ha : 0 < a) :
    (Likeness.below w w' a).After Eq (step engine n a w) (step engine n a w') :=
  Likeness.ends_step (Likeness.engines_same (fun _ _ ↦ Iff.rfl) engine) n a
    (Or.inl (.refl w a)) w w'
    (Likeness.worlds_below hs hf hu hab ha)

end Steps

/-- **Steps of unrelated workers commute.**  If in a world that a host can bring about two live
workers, neither of which has been spawned below the other, make a step one after the other, and
nobody is spawned, the clock is not moved and the loader is not changed, then they can make
their steps in the other order too, and the world that comes out is the same: all queues,
callbacks, intervals, registers, links and contexts, and for each thread what has happened on
it, in the same order. -/
theorem unrelated_steps_commute (engine : Engine κ) (loader : Loader) (w : World κ) (a b : WorkerId)
    (hw : Reachable engine loader (fun _ ↦ True) w) (ha : w.isLive a = true)
    (hb : w.isLive b = true)
    (hab : w.Unrelated a b) (m n : Nat) (wa wab : World κ) (h₁ : step engine m a w = .ok () wa)
    (h₂ : step engine n b wa = .ok () wab) (hu₁ : w.Undisturbed wa) (hu₂ : wa.Undisturbed wab) :
    ∃ wb wba, step engine n b w = .ok () wb ∧ step engine m a wb = .ok () wba ∧
      wab.SameUpToOrder wba := by
  have hpos {x : WorkerId} (hx : w.isLive x = true) : 0 < x := by
    obtain ⟨k, hk, -⟩ := isLive_iff.1 hx
    exact (worker?_isSome_iff.1 (Option.isSome_iff_exists.2 ⟨k, hk⟩)).1
  obtain ⟨hs, -⟩ := Order.shape_tended_of_reachable hw
  obtain ⟨hsa, fa⟩ := frame_of_step hs h₁
  obtain ⟨-, fab⟩ := frame_of_step hsa h₂
  -- `b` finds its subtree as it was before the step of `a`
  have hb' := after_step engine n hs fa hu₁ hab.symm (hpos hb)
  rw [h₂] at hb'
  obtain ⟨_, wb, hwb, -, lb⟩ := hb'.ok_right
  obtain ⟨hsb, fb⟩ := frame_of_step hs hwb
  have hub : w.Undisturbed wb := ⟨by rw [lb.count, hu₂.count, hu₁.count],
    by rw [lb.clock, hu₂.clock, hu₁.clock], by rw [lb.loader, hu₂.loader, hu₁.loader]⟩
  -- and `a` finds its own as if `b` had made no step
  have ha' := after_step engine m hs fb hub hab (hpos ha)
  rw [h₁] at ha'
  obtain ⟨_, wba, hwba, -, la⟩ := ha'.ok_left
  obtain ⟨-, fba⟩ := frame_of_step hsb hwba
  refine ⟨wb, wba, hwb, hwba, ?_⟩
  have hcount : wba.workers.length = wb.workers.length := by rw [← la.count, hub.count, hu₁.count]
  have hunder {c x : WorkerId} : wa.Under c x ↔ w.Under c x :=
    under_congr fun _ ↦ fa.owner?_eq hu₁.count
  have hunder' {c x : WorkerId} : wb.Under c x ↔ w.Under c x :=
    under_congr fun _ ↦ fb.owner?_eq hub.count
  have hworker (x : WorkerId) : wab.worker? x = wba.worker? x := by
    by_cases hxa : w.Under a x
    · rw [fab.worker?_eq hu₂.count (mt hunder.1 (hab.not_under hxa)),
        Likeness.worker?_eq_of_below la hxa]
    · rw [fba.worker?_eq hcount (mt hunder'.1 hxa)]
      by_cases hxb : w.Under b x
      · exact (Likeness.worker?_eq_of_below lb hxb).symm
      · rw [fab.worker?_eq hu₂.count (mt hunder.1 hxb), fa.worker?_eq hu₁.count hxa,
          fb.worker?_eq hub.count hxb]
  have hlen : wab.workers.length = w.workers.length := by rw [hu₂.count, hu₁.count]
  obtain ⟨s, hs₁, hs₂, hsin⟩ := la.events
  obtain ⟨t, ht₁, ht₂, htin⟩ := lb.events
  obtain ⟨d, hd₁, hd₂, hdin⟩ := la.journal
  obtain ⟨e, he₁, he₂, hein⟩ := lb.journal
  have h0a := Nat.ne_of_gt (hpos ha)
  have h0b := Nat.ne_of_gt (hpos hb)
  refine ⟨?_, workers_eq hworker, ?_, ?_, ?_, fun x hx ↦ ?_, fun x hx ↦ ?_⟩
  · rw [fab.root h0b, fa.root h0a, fba.root h0a, fb.root h0b]
  · rw [fab.handles, fa.handles, fba.handles, fb.handles]
  · rw [hu₂.clock, la.clock]
  · rw [hu₂.loader, la.loader]
  · rw [eventsOf, eventsOf, ht₂, hs₁, hs₂, ht₁, filter_swap hab hsin htin (hlen ▸ hx)]
  · rw [deedsOf, deedsOf, he₂, hd₁, hd₂, he₁, filter_swap hab hdin hein (hlen ▸ hx)]

/-! ## Two chimes -/

/-- An engine whose scripts tell that they run and post to their owners. -/
def chime : Engine Unit where
  create _ := .ok ()
  execute _ _ name := .ask (.desk (.note (.exec name))) fun _ ↦
    .ask (.desk (.post ⟨"true"⟩)) fun _ ↦ .done ((), .done)
  call _ _ _ := .done ((), .done)
  depth := 4

/-- The scripts of the chimes. -/
def chimeShelf : Loader := .shelf ⟨[("chime", .text "")]⟩

/-- The root with two workers that have not begun. -/
def chimes : World Unit where
  root := some { context := some (), kids := [1, 2] }
  workers := [{ owner := 0, script := "chime", link := { id := 1 } },
    { owner := 0, script := "chime", link := { id := 2 } }]
  handles := [1, 2]
  loader := chimeShelf

theorem reachable_chimes : Reachable chime chimeShelf (fun _ ↦ True) chimes := by
  have hnew : Reachable chime chimeShelf (fun _ ↦ True)
      { root := some { context := some () }, loader := chimeShelf } := .created rfl
  have hfirst := hnew.performed trivial
    (show perform chime true 0 (.spawn "chime") _ = .ok _ _ from rfl)
  exact hfirst.performed trivial (show perform chime true 0 (.spawn "chime") _ = .ok _ _ from rfl)

theorem unrelated_chimes : chimes.Unrelated 1 2 := by
  have hs := (Order.shape_tended_of_reachable reachable_chimes).1
  refine ⟨fun h ↦ ?_, fun h ↦ absurd (hs.le_of_under h) (by decide)⟩
  have h0 := h.owner_under (by decide) (show chimes.owner? 2 = some 0 from rfl)
  exact absurd (hs.le_of_under h0) (by decide)

/-- It does not matter which of the two chimes begins. -/
theorem chimes_commute : ∃ wa wab wb wba, step chime 4 1 chimes = .ok () wa ∧
    step chime 4 2 wa = .ok () wab ∧ step chime 4 2 chimes = .ok () wb ∧
    step chime 4 1 wb = .ok () wba ∧ wab.SameUpToOrder wba ∧
    (wab.link 2).outbox.items = [⟨"true"⟩] := by
  obtain ⟨wa, wab, h₁, h₂, hu₁, hu₂, hbox⟩ : ∃ wa wab, step chime 4 1 chimes = .ok () wa ∧
      step chime 4 2 wa = .ok () wab ∧ chimes.Undisturbed wa ∧ wa.Undisturbed wab ∧
      (wab.link 2).outbox.items = [⟨"true"⟩] :=
    ⟨_, _, rfl, rfl, ⟨rfl, rfl, rfl⟩, ⟨rfl, rfl, rfl⟩, rfl⟩
  obtain ⟨wb, wba, h₃, h₄, hsame⟩ := unrelated_steps_commute chime chimeShelf chimes 1 2
    reachable_chimes (by decide) (by decide) unrelated_chimes 4 4 wa wab h₁ h₂ hu₁ hu₂
  exact ⟨wa, wab, wb, wba, h₁, h₂, h₃, h₄, hsame, hbox⟩

end ScriptWorkers
