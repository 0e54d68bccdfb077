import ScriptWorkers.Proofs.Tree

/-!
# Small changes

The core changes a world in small ways: a worker, a scope, a link at a time.  Such a change
keeps the world in shape if what is put in fits, and it is framed by the context on behalf of
which it is made.

## What is here

For each kind of change the same lemmas: when it keeps the `Shape` of the world, when it is a
`Frame` of a context, and when it leaves those `Tended` who were.

* Changes of one worker (`updateWorker`), of a scope (`setScope`, `unregister`), of a
  link (`setLink`).
* `Same`: changes that leave workers, root and handles alone.  Notes in the journal (`noted`) and
  events are of this kind.
* `deposited` and `spawned`: the worlds that posting a message and spawning a worker lead to, so
  that `run_deposit` and `run_spawn` say in one line what these do.
-/

namespace ScriptWorkers

variable {κ : Type}

/-! ## Changes of one worker -/

section Mono

variable {w w' : World κ} {c p : WorkerId}

/-- A scope that fits goes on fitting when the tree grows. -/
theorem Scope.Fits.mono {s : Scope κ} (h : s.Fits w p)
    (hw : ∀ c p, w.owner? c = some p → w'.owner? c = some p) : s.Fits w' p where
  kids c hc := hw c p (h.kids c hc)
  nodup := h.nodup
  held c hc := hw c p (h.held c hc)

theorem Worker.Fits.mono {k : Worker κ} (h : k.Fits w c)
    (hw : ∀ c p, w.owner? c = some p → w'.owner? c = some p) : k.Fits w' c where
  owner := h.owner
  scope := h.scope.mono hw
  rest := h.rest
  closed := h.closed
  waiting := h.waiting

end Mono

namespace World

variable {w w' w'' : World κ} {c id me p : WorkerId}

theorem owner?_updateWorker {f : Worker κ → Worker κ} (hf : ∀ k, (f k).owner = k.owner) :
    (w.updateWorker id f).owner? c = w.owner? c := by
  rw [owner?, owner?, worker?_updateWorker]
  split
  · cases w.worker? c with
    | none => rfl
    | some k => simp [hf]
  · rfl

/-- A worker may be replaced by one that fits and has the same owner. -/
theorem Shape.updateWorker {f : Worker κ → Worker κ} (h : w.Shape)
    (hf : ∀ k, (f k).owner = k.owner) (hfit : ∀ k, w.worker? id = some k → (f k).Fits w id) :
    (w.updateWorker id f).Shape := by
  have hown (c p : WorkerId) (hc : w.owner? c = some p) :
      (w.updateWorker id f).owner? c = some p := (owner?_updateWorker hf).trans hc
  refine ⟨?_, fun c k hk ↦ ?_, fun c hc ↦ hown c 0 (h.handles c (by simpa using hc))⟩
  · rw [scope_zero_updateWorker]
    exact h.root.mono hown
  · rw [worker?_updateWorker] at hk
    split at hk
    · rename_i hid
      obtain ⟨k₀, hk₀, rfl⟩ := Option.map_eq_some_iff.1 hk
      subst hid
      exact (hfit k₀ hk₀).mono hown
    · exact (h.workers c k hk).mono hown

/-- A worker may be replaced by what may have become of it. -/
theorem Passage.updateWorker {f : Worker κ → Worker κ}
    (hl : ∀ k, w.worker? id = some k → k.Later (f k)) : w.Passage (w.updateWorker id f) where
  kept c k hk := by
    rw [worker?_updateWorker]
    split
    · rename_i hid
      subst hid
      exact ⟨f k, by simp [hk], hl k hk⟩
    · exact ⟨k, hk, .refl k⟩
  events := ⟨[], by simp, by simp⟩

theorem isSome_updateWorker {f : Worker κ → Worker κ} :
    ((w.updateWorker id f).worker? c).isSome = (w.worker? c).isSome := by
  rw [worker?_updateWorker]
  split
  · exact Option.isSome_map
  · rfl

/-- A context may update who is under it, but not the callback of its own outbox. -/
theorem Frame.updateWorker {f : Worker κ → Worker κ} (hu : w.Under me id)
    (hl : ∀ k, w.worker? id = some k → k.Later (f k))
    (hmine : ∀ k, w.worker? me = some k → id = me →
      (f k).link.outbox.callback = k.link.outbox.callback) :
    Frame me w (w.updateWorker id f) where
  toPassage := .updateWorker hl
  apart c k hk hn := by
    have hne : c ≠ id := by
      rintro rfl
      exact hn hu
    rw [worker?_updateWorker_ne f hne, hk]
  fresh c hn hs := by
    rw [isSome_updateWorker, hn] at hs
    simp at hs
  root _ := root_updateWorker f
  rooted := by rw [root_updateWorker]
  handles := handles_updateWorker f
  mine := by
    rw [link, link, worker?_updateWorker]
    split
    · cases hk : w.worker? me with
      | none => rfl
      | some k => exact hmine k hk (by simp_all)
    · rfl
  journal := ⟨[], by simp, by simp⟩

/-- If no register changes and nobody is new, nobody gets lost. -/
theorem Tended.of_kids_eq {away : List WorkerId} (h : Tended away me w) (hs : w.Shape)
    (hf : Frame me w w') (hkids : ∀ p, (w'.scope p).kids = (w.scope p).kids)
    (hnew : ∀ c, w.worker? c = none → w'.worker? c = none) : Tended away me w' := by
  refine h.frame hs hf (fun c hc ↦ .inr hc) (fun p _ c hc ↦ .inl (hkids p ▸ hc)) ?_
  intro p c hn hc
  simp [owner?, hnew c hn] at hc

theorem Tended.updateWorker {away : List WorkerId} {f : Worker κ → Worker κ} (h : Tended away me w)
    (hs : w.Shape) (hframe : Frame me w (w.updateWorker id f))
    (hf : ∀ k, (f k).scope.kids = k.scope.kids) : Tended away me (w.updateWorker id f) := by
  refine h.of_kids_eq hs hframe (fun p ↦ ?_) fun c hn ↦ ?_
  · cases p with
    | zero => rw [scope_zero_updateWorker]
    | succ n =>
      rw [scope, scope, worker?_updateWorker]
      split
      · cases w.worker? (n + 1) with
        | none => rfl
        | some k => exact hf k
      · rfl
  · rw [worker?_updateWorker, hn]
    split <;> rfl

/-! ## Changes of a scope -/

/-- A context that has not come to its end may get any scope that fits. -/
theorem Shape.setScope {s : Scope κ} (h : w.Shape) (ha : w.Awake me) (hfit : s.Fits w me) :
    (w.setScope me s).Shape := by
  have hown (c p : WorkerId) (hc : w.owner? c = some p) : (w.setScope me s).owner? c = some p := by
    rwa [owner?_setScope]
  cases me with
  | zero =>
    refine ⟨?_, fun c k hk ↦ ?_, fun c hc ↦ hown c 0 (h.handles c hc)⟩
    · rw [scope_setScope_self ha.hasScope]
      exact hfit.mono hown
    · exact (h.workers c k hk).mono hown
  | succ n =>
    show (w.updateWorker (n + 1) fun x ↦ { x with scope := s }).Shape
    refine h.updateWorker (fun _ ↦ rfl) fun k hk ↦ ?_
    have hk' := h.workers _ k hk
    have hne := ha.phase_ne hk
    exact ⟨hk'.owner, hfit, fun hx ↦ absurd hx hne, hk'.closed, hk'.waiting⟩

theorem Frame.setScope {s : Scope κ} (ha : w.Awake me) : Frame me w (w.setScope me s) := by
  cases me with
  | zero =>
    refine ⟨⟨fun c k hk ↦ ⟨k, hk, .refl k⟩, [], by simp, by simp⟩, fun c k hk _ ↦ hk, ?_,
      fun h ↦ absurd rfl h, ?_, rfl, rfl, [], by simp, by simp⟩
    · intro c hn hs
      rw [worker?_setScope_ne (by rintro rfl; simp at hs), hn] at hs
      simp at hs
    · rw [root_setScope, if_pos rfl, Option.isSome_map]
  | succ n =>
    refine Frame.updateWorker (.refl w _) (fun k hk ↦ ?_) fun k _ _ ↦ rfl
    exact ⟨rfl, rfl, id, fun hx ↦ absurd hx (ha.phase_ne hk)⟩

theorem awake_setScope {s : Scope κ} : (w.setScope me s).Awake p ↔ w.Awake p := by
  rw [Awake, Awake]
  split
  · rw [root_setScope]
    split
    · rw [Option.isSome_map]
    · rfl
  · rw [worker?_setScope]
    split
    · cases w.worker? p <;> simp
    · rfl

/-- Who leaves the register has to be waited for. -/
theorem Tended.setScope {away away' : List WorkerId} {s : Scope κ} (h : Tended away me w)
    (hs : w.Shape) (ha : w.Awake me) (haway : ∀ c ∈ away, c ∈ away')
    (hkids : ∀ c ∈ (w.scope me).kids, c ∈ s.kids ∨ c ∈ away') :
    Tended away' me (w.setScope me s) := by
  refine h.frame hs (.setScope ha) (fun c hc ↦ .inr (haway c hc)) (fun p _ c hc ↦ ?_) ?_
  · by_cases hp : p = me
    · subst hp
      rw [scope_setScope_self ha.hasScope]
      exact hkids c hc
    · rw [scope_setScope_ne hp]
      exact .inl hc
  · intro p c hn hc
    rw [owner?_setScope] at hc
    simp [owner?, hn] at hc

/-- The world in which some workers are no longer registered with `me`. -/
def unregister (w : World κ) (me : WorkerId) (ids : List WorkerId) : World κ :=
  w.setScope me { w.scope me with kids := (w.scope me).kids.filter (· ∉ ids) }

section Unregister

variable {ids : List WorkerId}

theorem Shape.unregister (h : w.Shape) (ha : w.Awake me) : (w.unregister me ids).Shape := by
  have hfit := h.fits me
  refine h.setScope ha ⟨fun c hc ↦ hfit.kids c (List.mem_filter.1 hc).1, ?_, hfit.held⟩
  exact hfit.nodup.filter _

theorem Tended.unregister (h : Tended [] me w) (hs : w.Shape) (ha : w.Awake me) :
    Tended ids me (w.unregister me ids) := by
  refine h.setScope hs ha (by simp) fun c hc ↦ ?_
  by_cases hids : c ∈ ids
  · exact .inr hids
  · exact .inl (List.mem_filter.2 ⟨hc, by simpa using hids⟩)

end Unregister

/-! ## Changes of a link -/

/-- A link may change as long as closing and terminating go together. -/
theorem Shape.setLink {l : Link} (h : w.Shape) (hl : (w.worker? id).isSome →
    ∀ side, (l.box side).closed = l.terminated ∧ (l.box side).waiting = []) :
    (w.setLink id l).Shape := by
  refine h.updateWorker (fun _ ↦ rfl) fun k hk ↦ ?_
  have hk' := h.workers _ k hk
  replace hl := hl (by rw [hk]; rfl)
  exact ⟨hk'.owner, hk'.scope, hk'.rest, fun side ↦ (hl side).1, fun side ↦ (hl side).2⟩

/-- A context may change the links under it, except for the callback of its own outbox. -/
theorem Frame.setLink {l : Link} (hu : w.Under me id)
    (ht : (w.link id).terminated = true → l.terminated = true)
    (hmine : id = me → l.outbox.callback = (w.link me).outbox.callback) :
    Frame me w (w.setLink id l) := by
  refine Frame.updateWorker hu (fun k hk ↦ ?_) fun k hk hid ↦ ?_
  · rw [link_of_worker? hk] at ht
    exact ⟨rfl, rfl, ht, fun hx ↦ ⟨hx, rfl⟩⟩
  · rw [← link_of_worker? hk]
    exact hmine hid

theorem awake_setLink {l : Link} : (w.setLink id l).Awake p ↔ w.Awake p := by
  rw [Awake, Awake, World.setLink, root_updateWorker]
  split
  · rfl
  · rw [worker?_updateWorker]
    split
    · cases w.worker? p <;> simp
    · rfl

/-! ## Changes of the rest -/

/-- Workers, root and handles are the same. -/
structure Same (w w' : World κ) : Prop where
  workers : w'.workers = w.workers
  root : w'.root = w.root
  handles : w'.handles = w.handles

namespace Same

theorem worker? (h : Same w w') : w'.worker? c = w.worker? c := worker?_congr h.workers

theorem scope (h : Same w w') : w'.scope p = w.scope p := by
  cases p with
  | zero => exact scope_zero_congr h.root
  | succ n => exact scope_congr (by simp) h.worker?

theorem shape (h : Same w w') (hs : w.Shape) : w'.Shape := by
  have hown (c p : WorkerId) (hc : w.owner? c = some p) : w'.owner? c = some p := by
    rwa [owner?_congr h.worker?]
  refine ⟨?_, fun c k hk ↦ ?_, fun c hc ↦ hown c 0 (hs.handles c (h.handles ▸ hc))⟩
  · rw [h.scope]
    exact hs.root.mono hown
  · rw [h.worker?] at hk
    exact (hs.workers c k hk).mono hown

theorem awake (h : Same w w') : w'.Awake p ↔ w.Awake p := by
  rw [Awake, Awake, h.root, h.worker?]

/-- What is only written down is framed, if it is about somebody under `me`. -/
theorem frame (h : Same w w')
    (he : ∃ es, w'.events.toList = w.events.toList ++ es ∧
      ∀ e ∈ es, ∀ k, w.worker? e.1 = some k → k.phase ≠ .exited)
    (hj : ∃ ds, w'.journal.toList = w.journal.toList ++ ds ∧ ∀ d ∈ ds, w.Under me d.about) :
    Frame me w w' := by
  have hp : w.Passage w' := ⟨fun c k hk ↦ ⟨k, by rw [h.worker?, hk], .refl k⟩, he⟩
  refine ⟨hp, fun c k hk _ ↦ by rw [h.worker?, hk], fun c hn hs ↦ ?_, fun _ ↦ h.root,
    by rw [h.root], h.handles, by rw [link_congr h.worker?], ?_⟩
  · rw [h.worker?, hn] at hs
    simp at hs
  · obtain ⟨ds, hd, hds⟩ := hj
    exact ⟨ds, hd, fun d hm ↦ hp.under (hds d hm)⟩

theorem tended {away : List WorkerId} (h : Same w w') (hs : w.Shape) (hf : Frame me w w')
    (ht : Tended away me w) : Tended away me w' :=
  ht.of_kids_eq hs hf (fun p ↦ by rw [h.scope]) fun c hn ↦ by rw [h.worker?, hn]

end Same

/-- The world with a deed put down. -/
def noted (w : World κ) (d : Deed) : World κ := { w with journal := w.journal.push d }

theorem same_noted (w : World κ) (d : Deed) : Same w (w.noted d) := ⟨rfl, rfl, rfl⟩

theorem journal_noted (w : World κ) (d : Deed) :
    (w.noted d).journal.toList = w.journal.toList ++ [d] := by
  simp [noted]

/-- The world after a message has been posted. -/
def deposited (w : World κ) (id : WorkerId) (side : Side) (m : Message) : World κ :=
  (boxPlace id side).modify (·.push m) (w.noted (.posted id side m !(w.link id).terminated))

/-- Posting a message takes one step and always succeeds. -/
theorem run_deposit (w : World κ) (id : WorkerId) (side : Side) (m : Message) :
    deposit id side m w = .ok () (w.deposited id side m) := rfl

theorem owner?_deposited {side : Side} {m : Message} :
    (w.deposited id side m).owner? c = w.owner? c := by
  rw [deposited, boxPlace_modify, owner?_setLink, owner?_congr (same_noted w _).worker?]

/-! ## A new worker -/

/-- The world with one more worker, not yet registered. -/
def grow (w : World κ) (me : WorkerId) (script : String) : World κ :=
  { w with workers := w.workers ++ [{ owner := me, script, link := { id := w.workers.length + 1 } }]
    }

/-- The world after `me` has spawned a worker. -/
def spawned (w : World κ) (me : WorkerId) (script : String) : World κ :=
  (w.grow me script).setScope me
    { w.scope me with kids := (w.scope me).kids ++ [w.workers.length + 1] }

section Grow

variable {script : String}

/-- The new worker comes last, and the others stay. -/
theorem worker?_grow : (w.grow me script).worker? c = if c = w.workers.length + 1 then
    some { owner := me, script, link := { id := w.workers.length + 1 } } else w.worker? c :=
  worker?_append w _ c

theorem worker?_grow_of_some {k : Worker κ} (hk : w.worker? c = some k) :
    (w.grow me script).worker? c = some k := by
  rw [worker?_grow, if_neg, hk]
  rintro rfl
  rw [worker?_next] at hk
  cases hk

theorem scope_grow : (w.grow me script).scope p = w.scope p := by
  cases p with
  | zero => rfl
  | succ n =>
    rw [scope, scope, worker?_grow]
    split
    · rename_i h
      rw [h, worker?_next]
      rfl
    · rfl

theorem owner?_grow (hc : w.owner? c = some p) : (w.grow me script).owner? c = some p := by
  obtain ⟨k, hk, rfl⟩ := owner?_eq_some_iff.1 hc
  exact owner?_of_worker? (worker?_grow_of_some hk)

theorem owner?_grow_next : (w.grow me script).owner? (w.workers.length + 1) = some me := by
  rw [owner?, worker?_grow, if_pos rfl]
  rfl

/-- Every context is older than the worker that comes next. -/
theorem Awake.lt_next (ha : w.Awake me) : me < w.workers.length + 1 := by
  rcases Nat.eq_zero_or_pos me with rfl | hp
  · exact Nat.succ_pos _
  · have hs := ha.hasScope
    rw [HasScope, if_neg (Nat.ne_of_gt hp)] at hs
    exact Nat.lt_succ_of_le (worker?_isSome_iff.1 hs).2

theorem awake_grow (ha : w.Awake p) : (w.grow me script).Awake p := by
  rw [Awake] at ha ⊢
  split
  · rename_i hp
    rwa [if_pos hp] at ha
  · rename_i hp
    rw [if_neg hp] at ha
    obtain ⟨k, hk, hne⟩ := ha
    exact ⟨k, worker?_grow_of_some hk, hne⟩

theorem Shape.grow (h : w.Shape) (ha : w.Awake me) : (w.grow me script).Shape := by
  refine ⟨?_, fun c k hk ↦ ?_, fun c hc ↦ owner?_grow (h.handles c hc)⟩
  · rw [scope_grow]
    exact h.root.mono fun c p ↦ owner?_grow
  · rw [worker?_grow] at hk
    split at hk
    · rename_i hc
      subst hc
      cases hk
      refine ⟨ha.lt_next, ⟨by simp, List.nodup_nil, by simp⟩, by simp, ?_, ?_⟩
      · rintro (_ | _) <;> rfl
      · rintro (_ | _) <;> rfl
    · exact (h.workers c k hk).mono fun c p ↦ owner?_grow

theorem Frame.grow (ha : w.Awake me) : Frame me w (w.grow me script) where
  kept c k hk := ⟨k, worker?_grow_of_some hk, .refl k⟩
  events := ⟨[], by simp [World.grow], by simp⟩
  apart c k hk _ := worker?_grow_of_some hk
  fresh c hn hs := by
    rw [worker?_grow] at hs
    split at hs
    · rename_i hc
      exact hc ▸ under_of_owner? owner?_grow_next
    · simp [hn] at hs
  root _ := rfl
  rooted := rfl
  handles := rfl
  mine := by
    rw [link, link, worker?_grow, if_neg (Nat.ne_of_lt ha.lt_next)]
  journal := ⟨[], by simp [World.grow], by simp⟩

/-- The scope that a new worker is registered in. -/
theorem Shape.fits_register (h : w.Shape) :
    ({ w.scope me with kids := (w.scope me).kids ++ [w.workers.length + 1] } : Scope κ).Fits
      (w.grow me script) me := by
  have hfit := h.fits me
  refine ⟨fun c hc ↦ ?_, ?_, fun c hc ↦ owner?_grow (hfit.held c hc)⟩
  · rcases List.mem_append.1 hc with hc | hc
    · exact owner?_grow (hfit.kids c hc)
    · rw [List.mem_singleton.1 hc]
      exact owner?_grow_next
  · refine List.nodup_append.2 ⟨hfit.nodup, by simp, fun a ha b hb ↦ ?_⟩
    rw [List.mem_singleton.1 hb]
    rintro rfl
    have ho := hfit.kids _ ha
    rw [owner?, worker?_next] at ho
    cases ho

theorem owner?_spawned : (w.spawned me script).owner? (w.workers.length + 1) = some me := by
  rw [spawned, owner?_setScope, owner?_grow_next]

/-- Spawning succeeds exactly if the script can be loaded, and otherwise changes nothing. -/
theorem run_spawn (w : World κ) (me : WorkerId) (script : String) :
    spawn me script w = if w.loader.contains script then
      .ok (.ok (w.workers.length + 1)) (w.spawned me script)
    else .ok (.error (.scriptNotFound script)) w := by
  have hscope : (w.grow me script).scope me = w.scope me := scope_grow
  rw [spawned, ← hscope]
  change (if w.loader.contains script then _ else _ : Run (World κ) _) w = _
  split <;> rfl

/-- The new worker belongs to the one who has spawned it. -/
theorem owner?_of_spawn (h : spawn me script w = .ok (.ok c) w') : w'.owner? c = some me := by
  rw [run_spawn] at h
  split at h
  · cases h
    exact owner?_spawned
  · cases h

end Grow

end World

end ScriptWorkers
