import ScriptWorkers.Proofs.Order.Host

/-!
# Upkeep

All runs keep the tree of workers in order.  Other things are kept on top of that: the books of the
contexts, the account of the messages.  They have in common that each context sees to affairs of its
own, and that what is done for others does not concern it.

An `Upkeep` says what is seen to:

* `sound` holds of the world at any time;
* `rest me` holds of the affairs of `me` when nothing is under way for it;
* `busy me` holds of them whenever `me` has control, perhaps in the middle of a drain;
* `own me` is what `me` leaves as it is of its own affairs while it has control.

Its laws say that these hold across changes that have nothing to do with them (`Alike`, `Besides`)
and across what is done on behalf of others (`Apart`).  From an upkeep come guarantees for all
levels of a run, each on top of the guarantee of order of that level.
-/

namespace ScriptWorkers

variable {κ : Type}

namespace World

variable {w w' w'' : World κ} {id me x : WorkerId}

/-! ## What does not concern a context -/

/-- In between nothing but such deeds has been put down. -/
def Adds (P : Deed → Prop) (w w' : World κ) : Prop :=
  ∃ ds, w'.journal.toList = w.journal.toList ++ ds ∧ ∀ d ∈ ds, P d

section Adds

variable {P Q : Deed → Prop}

theorem adds_of_eq (h : w'.journal = w.journal) : Adds P w w' := ⟨[], by simp [h], by simp⟩

theorem adds_noted {d : Deed} (h : P d) : Adds P w (w.noted d) :=
  ⟨[d], journal_noted w d, by simpa using h⟩

/-- Journals only grow. -/
theorem Adds.trans (h : Adds P w w') (h' : Adds P w' w'') : Adds P w w'' := by
  obtain ⟨ds, hd, hds⟩ := h
  obtain ⟨ds', hd', hds'⟩ := h'
  refine ⟨ds ++ ds', by rw [hd', hd, List.append_assoc], fun d hm ↦ ?_⟩
  rcases List.mem_append.1 hm with hm | hm
  · exact hds d hm
  · exact hds' d hm

theorem Adds.mono (hPQ : ∀ d, P d → Q d) (h : Adds P w w') : Adds Q w w' := by
  obtain ⟨ds, hd, hds⟩ := h
  exact ⟨ds, hd, fun d hm ↦ hPQ d (hds d hm)⟩

end Adds

/-- Nothing is put down about `me`. -/
def Unmentioned (me : WorkerId) : World κ → World κ → Prop := Adds (·.about ≠ me)

/-- What is done on behalf of the worker `id` is none of the affairs of `me`. -/
structure Apart (id me : WorkerId) (w w' : World κ) : Prop where
  shape : w.Shape
  frame : Frame id w w'
  worker : (w.worker? id).isSome
  known : me = 0 ∨ (w.worker? me).isSome
  apart : ¬ w.Under id me

theorem Apart.not_under (h : Apart id me w w') : ¬ w'.Under id me :=
  fun hu ↦ h.apart (h.frame.under_back h.shape me h.known hu)

/-- Nothing is put down about those on whose behalf nothing is done. -/
theorem Apart.unmentioned (h : Apart id me w w') : Unmentioned me w w' := by
  obtain ⟨ds, hd, hds⟩ := h.frame.journal
  refine ⟨ds, hd, fun d hm he ↦ h.not_under ?_⟩
  exact he ▸ hds d hm

/-- The worlds differ in the scope of `me` at most. -/
structure Besides (me : WorkerId) (w w' : World κ) : Prop where
  journal : w'.journal = w.journal
  handles : w'.handles = w.handles
  owner? : ∀ x, w'.owner? x = w.owner? x
  link : ∀ x, w'.link x = w.link x
  scope : ∀ x, x ≠ me → w'.scope x = w.scope x
  awake : ∀ x, x ≠ me → (w'.Awake x ↔ w.Awake x)

/-- To store another scope of `me` is to touch nothing besides. -/
theorem besides_setScope (s : Scope κ) : Besides me w (w.setScope me s) where
  journal := journal_setScope s
  handles := handles_setScope s
  owner? _ := owner?_setScope s
  link _ := link_setScope s
  scope _ hx := scope_setScope_ne hx
  awake _ _ := awake_setScope

theorem besides_dropped : Besides 0 w { w with root := none } where
  journal := rfl
  handles := rfl
  owner? _ := rfl
  link _ := rfl
  scope x hx := scope_congr hx rfl
  awake x hx := by
    rw [Awake, Awake, if_neg hx, if_neg hx]
    rfl

end World

/-- The workers differ in nothing that bookkeeping or delivery is about. -/
structure Worker.Alike (k k' : Worker κ) : Prop where
  owner : k'.owner = k.owner
  kids : k'.scope.kids = k.scope.kids
  timers : k'.scope.timers = k.scope.timers
  desk : k'.scope.desk = k.scope.desk
  awake : k'.phase ≠ .exited → k.phase ≠ .exited
  items : ∀ side, (k'.link.box side).items = (k.link.box side).items
  callback : ∀ side, (k'.link.box side).callback = (k.link.box side).callback

namespace World

variable {w w' w'' : World κ} {id me x : WorkerId}

/-- The worlds differ in nothing that bookkeeping or delivery is about. -/
structure Alike (w w' : World κ) : Prop where
  journal : w'.journal = w.journal
  handles : w'.handles = w.handles
  owner? : ∀ x, w'.owner? x = w.owner? x
  kids : ∀ x, (w'.scope x).kids = (w.scope x).kids
  timers : ∀ x, (w'.scope x).timers = (w.scope x).timers
  desk : ∀ x, (w'.scope x).desk = (w.scope x).desk
  awake : ∀ x, w'.Awake x → w.Awake x
  items : ∀ x side, ((w'.link x).box side).items = ((w.link x).box side).items
  callback : ∀ x side, ((w'.link x).box side).callback = ((w.link x).box side).callback

theorem Alike.under (h : Alike w w') : w'.Under me x ↔ w.Under me x := by
  simp only [Under, h.owner?]

/-- What leaves workers, root, handles and journal alone does not matter. -/
theorem alike_of_same (h : Same w w') (hj : w'.journal = w.journal) : Alike w w' where
  journal := hj
  handles := h.handles
  owner? _ := owner?_congr h.worker?
  kids _ := by rw [h.scope]
  timers _ := by rw [h.scope]
  desk _ := by rw [h.scope]
  awake _ := h.awake.1
  items _ _ := by rw [link_congr h.worker?]
  callback _ _ := by rw [link_congr h.worker?]

/-- What a change of a worker does not touch looks the same in the world. -/
theorem view_updateWorker {β : Type} (F : Option (Worker κ) → β) {f : Worker κ → Worker κ}
    (hF : ∀ k, w.worker? id = some k → F (some (f k)) = F (some k)) :
    F ((w.updateWorker id f).worker? x) = F (w.worker? x) := by
  rw [worker?_updateWorker]
  split
  · rename_i hx
    subst hx
    cases hk : w.worker? x with
    | none => rfl
    | some k => exact hF k hk
  · rfl

theorem view_scope_updateWorker {β : Type} (F : Scope κ → β) {f : Worker κ → Worker κ}
    (hF : ∀ k, w.worker? id = some k → F (f k).scope = F k.scope) (x : WorkerId) :
    F ((w.updateWorker id f).scope x) = F (w.scope x) := by
  cases x with
  | zero => rw [scope_zero_updateWorker]
  | succ n => exact view_updateWorker (fun o ↦ F ((o.map Worker.scope).getD {})) hF

theorem view_link_updateWorker {β : Type} (F : Link → β) {f : Worker κ → Worker κ}
    (hF : ∀ k, w.worker? id = some k → F (f k).link = F k.link) (x : WorkerId) :
    F ((w.updateWorker id f).link x) = F (w.link x) :=
  view_updateWorker (fun o ↦ F ((o.map Worker.link).getD (Link.terminate { id := x }))) hF

/-- A worker may be replaced by one that is alike. -/
theorem alike_updateWorker {f : Worker κ → Worker κ}
    (hf : ∀ k, w.worker? id = some k → k.Alike (f k)) : Alike w (w.updateWorker id f) where
  journal := journal_updateWorker f
  handles := handles_updateWorker f
  owner? x := view_updateWorker (fun o ↦ o.map Worker.owner) fun k hk ↦ congrArg some
    (hf k hk).owner
  kids := view_scope_updateWorker (·.kids) fun k hk ↦ (hf k hk).kids
  timers := view_scope_updateWorker (·.timers) fun k hk ↦ (hf k hk).timers
  desk := view_scope_updateWorker (·.desk) fun k hk ↦ (hf k hk).desk
  awake x hx := by
    rw [Awake, root_updateWorker] at hx
    rw [Awake]
    split
    · rwa [if_pos (by assumption)] at hx
    · rw [if_neg (by assumption)] at hx
      obtain ⟨k', hk', hne⟩ := hx
      rw [worker?_updateWorker] at hk'
      split at hk'
      · rename_i hid
        obtain ⟨k, hk, rfl⟩ := Option.map_eq_some_iff.1 hk'
        exact ⟨k, hk, (hf k (hid ▸ hk)).awake hne⟩
      · exact ⟨k', hk', hne⟩
  items x side := view_link_updateWorker (fun l ↦ (l.box side).items)
    (fun k hk ↦ (hf k hk).items side) x
  callback x side := view_link_updateWorker (fun l ↦ (l.box side).callback)
    (fun k hk ↦ (hf k hk).callback side) x

theorem alike_setScope {s : Scope κ} (hk : s.kids = (w.scope me).kids)
    (ht : s.timers = (w.scope me).timers) (hd : s.desk = (w.scope me).desk) :
    Alike w (w.setScope me s) := by
  have hview {β : Type} (F : Scope κ → β) (hF : F s = F (w.scope me)) (x : WorkerId) :
      F ((w.setScope me s).scope x) = F (w.scope x) := by
    rcases scope_setScope_or w me s x with h | ⟨rfl, h⟩
    · rw [h]
    · rw [h, hF]
  exact ⟨journal_setScope s, handles_setScope s, fun _ ↦ owner?_setScope s, hview (·.kids) hk,
    hview (·.timers) ht, hview (·.desk) hd, fun _ ↦ awake_setScope.1,
    fun _ _ ↦ by rw [link_setScope], fun _ _ ↦ by rw [link_setScope]⟩

/-- A computation that always ends and changes nothing that bookkeeping or delivery is about. -/
def Mild {α : Type} (x : Run (World κ) α) (w : World κ) : Prop :=
  ∃ a w', x w = .ok a w' ∧ Alike w w'

theorem mild_note (e : Event) : Mild (note id e) w :=
  ⟨_, _, rfl, alike_of_same ⟨rfl, rfl, rfl⟩ rfl⟩

theorem mild_clock (f : Clock → Clock) : Mild (clockPlace.update f) w :=
  ⟨_, _, rfl, alike_of_same ⟨rfl, rfl, rfl⟩ rfl⟩

theorem mild_loader (f : Loader → Loader) : Mild (loaderPlace.update f) w :=
  ⟨_, _, rfl, alike_of_same ⟨rfl, rfl, rfl⟩ rfl⟩

theorem mild_context (f : Option κ → Option κ) : Mild ((contextPlace me).update f) w :=
  ⟨_, _, rfl, alike_setScope rfl rfl rfl⟩

theorem mild_flag : Mild (flag id) w := by
  refine ⟨_, _, rfl, alike_updateWorker fun k hk ↦ ?_⟩
  have hlink : (linkPlace id).get w = k.link := link_of_worker? hk
  rw [hlink]
  refine ⟨rfl, rfl, rfl, rfl, fun h ↦ h, ?_, ?_⟩
  · rintro (_ | _) <;> rfl
  · rintro (_ | _) <;> rfl

/-- A change of phase does not matter, as long as nobody comes back. -/
theorem mild_setPhase {p : Phase} (hp : p ≠ .exited → w.Awake me) : Mild (setPhase me p) w :=
  ⟨_, _, rfl, alike_updateWorker fun _ hk ↦
    ⟨rfl, rfl, rfl, rfl, fun hne ↦ (hp hne).phase_ne hk, fun _ ↦ rfl, fun _ ↦ rfl⟩⟩

theorem mild_logCrash : Mild (logCrash me id) w := by
  have hnone : Mild (pure () : Run (World κ) Unit) w :=
    ⟨_, _, rfl, alike_of_same ⟨rfl, rfl, rfl⟩ rfl⟩
  have hget : (get : Run (World κ) (World κ)) w = .ok w w := rfl
  rw [Mild, logCrash, run_bind_ok hget]
  cases w.worker? id with
  | none => exact hnone
  | some x =>
    cases hc : x.crashed with
    | true =>
      simp only [hc, if_true]
      exact mild_note _
    | false =>
      simp only [hc]
      exact hnone

theorem mild_crashed : Mild
    (modify fun w ↦ w.updateWorker me fun x ↦ { x with crashed := true } : Run (World κ) Unit) w :=
  ⟨_, _, rfl, alike_updateWorker fun _ _ ↦
    ⟨rfl, rfl, rfl, rfl, fun hne ↦ hne, fun _ ↦ rfl, fun _ ↦ rfl⟩⟩

end World

open World

/-! ## Upkeeps -/

/-- What is seen to besides the order of the tree. -/
structure Upkeep (κ : Type) where
  /-- Holds of the world at any time. -/
  sound : World κ → Prop
  /-- Holds of the affairs of a context that has control. -/
  busy : WorkerId → World κ → Prop
  /-- Holds of the affairs of a context when nothing is under way for it. -/
  rest : WorkerId → World κ → Prop
  /-- What a context in control leaves as it is of its own affairs. -/
  own : WorkerId → World κ → World κ → Prop
  /-- Callbacks may panic. -/
  panics : Prop
  own_refl : ∀ me w, own me w w
  own_trans : ∀ {me w w' w''}, own me w w' → own me w' w'' → own me w w''
  busy_of_rest : ∀ {me w}, rest me w → busy me w
  rest_of_own : ∀ {me w w'}, rest me w → busy me w' → own me w w' → rest me w'
  ended : ∀ {me w w'}, rest me w → Unmentioned me w w' → ¬ w'.Awake me → rest me w'
  alike_sound : ∀ {w w'}, Alike w w' → sound w → sound w'
  alike_busy : ∀ {me w w'}, Alike w w' → busy me w → busy me w'
  alike_rest : ∀ {me w w'}, Alike w w' → rest me w → rest me w'
  alike_own : ∀ {me w w'}, Alike w w' → own me w w'
  besides_sound : ∀ {me w w'}, Besides me w w' → sound w → sound w'
  besides_rest : ∀ {me x w w'}, Besides me w w' → x ≠ me → rest x w → rest x w'
  apart_busy : ∀ {id me w w'}, Apart id me w w' → busy me w → busy me w'
  apart_rest : ∀ {id me w w'}, Apart id me w w' → rest me w → rest me w'
  apart_own : ∀ {id me w w'}, Apart id me w w' → own me w w'

namespace Upkeep

variable (u : Upkeep κ) {w w' w'' : World κ} {id me x : WorkerId}

/-- Under `me` everybody's affairs are at rest. -/
def All (me : WorkerId) (w : World κ) : Prop := u.sound w ∧ ∀ x, w.Under me x → u.rest x w

/-- Under `me` everybody else's affairs are at rest. -/
def Others (me : WorkerId) (w : World κ) : Prop :=
  u.sound w ∧ ∀ x, w.Under me x → x ≠ me → u.rest x w

/-- How things stand when a computation is broken off. -/
def Left (may : Prop) (inv : World κ → Prop) (rel : World κ → World κ → Prop) :
    Abort → World κ → World κ → Prop
  | .panic, w, w' => may ∧ inv w' ∧ rel w w'
  | .exhausted, _, _ => True
  | .endless p, _, w' => u.sound w' ∧ u.busy p w'

/-- The guarantee of an invariant and a relation; `may` says whether there may be panics. -/
def keeping (may : Prop) (inv : World κ → Prop) (rel : World κ → World κ → Prop)
    (refl : ∀ w, rel w w) (trans : ∀ {w w' w''}, rel w w' → rel w' w'' → rel w w'') :
    Guarantee (World κ) where
  inv := inv
  rel := rel
  broken := u.Left may inv rel
  refl := refl
  trans _ _ := trans
  after {e _ _ _} _ _ h h' := by
    cases e with
    | panic => exact ⟨h'.1, h'.2.1, trans h h'.2.2⟩
    | exhausted => trivial
    | endless p => exact h'

/-- While `me` has control. -/
def controlled (me : WorkerId) : Guarantee (World κ) :=
  u.keeping u.panics (fun w ↦ u.Others me w ∧ u.busy me w) (u.own me) (u.own_refl me) u.own_trans

/-- While nothing is seen to for `me` itself. -/
def leaving (me : WorkerId) : Guarantee (World κ) :=
  u.keeping True (u.Others me) (Unmentioned me) (fun _ ↦ adds_of_eq rfl) Adds.trans

/-- While nothing is under way for `me`. -/
def resting (me : WorkerId) : Guarantee (World κ) :=
  u.keeping True (u.All me) (fun _ _ ↦ True) (fun _ ↦ trivial) fun _ _ ↦ trivial

/-- The guarantee of a context in control that cannot panic. -/
def quiet (me : WorkerId) : Guarantee (World κ) := (Order.quiet me).both (u.controlled me)

/-- The guarantee of a context in control. -/
def call (me : WorkerId) : Guarantee (World κ) := (Order.act me).both (u.controlled me)

/-- The guarantee of what the core does for a context. -/
def act (me : WorkerId) : Guarantee (World κ) := (Order.act me).both (u.resting me)

/-- The guarantee of a whole step. -/
def whole (me : WorkerId) : Guarantee (World κ) := (Order.whole me).both (u.resting me)

/-- The guarantee of what is done for a context when its affairs are no longer seen to. -/
def spent (me : WorkerId) : Guarantee (World κ) := (Order.quiet me).both (u.leaving me)

/-- While workers of `me` are brought to their ends. -/
def waiting (me : WorkerId) (ids : List WorkerId) : Guarantee (World κ) :=
  (Order.waiting me ids).both (u.leaving me)

/-- The guarantees of the three levels. -/
def regime : Regime κ := ⟨u.call, u.act, u.whole⟩

/-! ## Changes that do not matter -/

variable {u}

theorem Others.alike (h : Alike w w') (ho : u.Others me w) : u.Others me w' :=
  ⟨u.alike_sound h ho.1, fun x hx hne ↦ u.alike_rest h (ho.2 x (h.under.1 hx) hne)⟩

theorem All.alike (h : Alike w w') (ha : u.All me w) : u.All me w' :=
  ⟨u.alike_sound h ha.1, fun x hx ↦ u.alike_rest h (ha.2 x (h.under.1 hx))⟩

theorem All.others (h : u.All me w) : u.Others me w := ⟨h.1, fun x hx _ ↦ h.2 x hx⟩

/-- Everybody is oneself and everybody else. -/
theorem All.of_rest (h : u.Others me w) (hme : u.rest me w) : u.All me w := by
  refine ⟨h.1, fun x hx ↦ ?_⟩
  by_cases hne : x = me
  · exact hne ▸ hme
  · exact h.2 x hx hne

/-- Changes of one's own scope do not concern the others. -/
theorem Others.besides (h : Besides me w w') (ho : u.Others me w) : u.Others me w' := by
  refine ⟨u.besides_sound h ho.1, fun x hx hne ↦ u.besides_rest h hne (ho.2 x ?_ hne)⟩
  simpa only [Under, h.owner?] using hx

section Mild

variable {α : Type} {g : Guarantee (World κ)} {y : Run (World κ) α}

/-- What changes nothing that matters keeps what is seen to. -/
theorem controlled_of_mild (hg : KeepsAt g y w) (hm : Mild y w) :
    KeepsAt (g.both (u.controlled me)) y w := by
  obtain ⟨a, w', hy, h⟩ := hm
  exact hg.both_of_ok hy fun _ hi _ _ ↦ ⟨⟨hi.1.alike h, u.alike_busy h hi.2⟩, u.alike_own h⟩

theorem leaving_of_mild (hg : KeepsAt g y w) (hm : Mild y w) :
    KeepsAt (g.both (u.leaving me)) y w := by
  obtain ⟨a, w', hy, h⟩ := hm
  exact hg.both_of_ok hy fun _ hi _ _ ↦ ⟨Others.alike h hi, adds_of_eq h.journal⟩

theorem resting_of_mild (hg : KeepsAt g y w) (hm : Mild y w) :
    KeepsAt (g.both (u.resting me)) y w := by
  obtain ⟨a, w', hy, h⟩ := hm
  exact hg.both_of_ok hy fun _ hi _ _ ↦ ⟨All.alike h hi, trivial⟩

end Mild

end Upkeep

end ScriptWorkers
