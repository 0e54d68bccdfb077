import ScriptWorkers.Proofs.Change
import ScriptWorkers.Proofs.Regime

/-!
# Order

Whatever scripts do, the tree of workers stays in shape, nothing outside the subtree of the one who
acts is touched, and nobody is lost.  This file states the guarantees that say so, and shows them
for the small operations.

## What is here

* The guarantees of the three levels of a run: `quiet` and `act` of a context in control, `whole` of
  a step; together they are `regime`.  `still` and `waiting` are for what is done in between.
* `Interrupted`, `BrokenOff`: what is known when a computation does not come back, because a script
  goes on for ever or panics.
* One lemma for each small operation on a desk, on intervals, links, mailboxes and the journal, and
  for spawning (`keeps_spawn`).
-/

namespace ScriptWorkers

open World

variable {κ : Type}

namespace Order

variable {w w' : World κ} {c id me p : WorkerId} {finish : WorkerId → Run (World κ) Unit}

/-! ## The regime -/

/-- The context `p` under `me` has control and keeps it for ever. -/
structure Interrupted (away : List WorkerId) (me p : WorkerId) (w w' : World κ) : Prop where
  shape : w'.Shape
  awake : w'.Awake p
  under : w'.Under me p
  passage : w.Passage w'
  tended : Tended away me w → Tended [] p w'

/-- What holds when a computation on behalf of `me` is broken off other than by a panic. -/
def BrokenOff (away : List WorkerId) (me : WorkerId) : Abort → World κ → World κ → Prop
  | .panic, _, _ => False
  | .exhausted, _, _ => True
  | .endless p, w, w' => Interrupted away me p w w'

/-- What was done before a computation is broken off does not matter. -/
theorem BrokenOff.after {away away' : List WorkerId} {e : Abort} {w₀ : World κ}
    (hp : w₀.Passage w) (ht : Tended away' me w₀ → Tended away me w)
    (h : BrokenOff away me e w w') : BrokenOff away' me e w₀ w' := by
  cases e with
  | panic => exact h
  | exhausted => trivial
  | endless p => exact ⟨h.shape, h.awake, h.under, hp.trans h.passage, fun h' ↦ h.tended (ht h')⟩

/-- The guarantee of what the core does on behalf of `me` without handing control to its script. -/
def quiet (me : WorkerId) : Guarantee (World κ) where
  inv w := w.Shape ∧ w.Awake me
  rel w w' := Frame me w w' ∧ (Tended [] me w → Tended [] me w')
  broken := BrokenOff [] me
  refl w := ⟨.refl me w, fun h ↦ h⟩
  trans hs _ h h' := ⟨h.1.trans hs.1 h'.1, fun ht ↦ h'.2 (h.2 ht)⟩
  after _ _ h h' := h'.after h.1.toPassage h.2

/-- The guarantee of a context in control, which may also panic. -/
def act (me : WorkerId) : Guarantee (World κ) where
  inv := (quiet me).inv
  rel := (quiet me).rel
  broken e w w' := (e = .panic ∧ (quiet me).inv w' ∧ (quiet me).rel w w') ∨ BrokenOff [] me e w w'
  refl := (quiet me).refl
  trans := (quiet me).trans
  after hs ht h h' := by
    rcases h' with ⟨he, hi, h'⟩ | h'
    · exact .inl ⟨he, hi, (quiet me).trans hs ht h h'⟩
    · exact .inr (h'.after h.1.toPassage h.2)

/-- The guarantee of a whole step. -/
def whole (me : WorkerId) : Guarantee (World κ) where
  inv w := w.Shape
  rel w w' := Frame me w w' ∧ (Tended [] me w → Tended [] me w')
  broken := BrokenOff [] me
  refl w := ⟨.refl me w, fun h ↦ h⟩
  trans hs _ h h' := ⟨h.1.trans hs h'.1, fun ht ↦ h'.2 (h.2 ht)⟩
  after _ _ h h' := h'.after h.1.toPassage h.2

/-- The guarantee of small changes on behalf of `me` that are made whether it is awake or not,
and leave it so. -/
def still (me : WorkerId) : Guarantee (World κ) where
  inv w := w.Shape
  rel w w' := (whole me).rel w w' ∧ (w.Awake me → w'.Awake me)
  broken := BrokenOff [] me
  refl w := ⟨(whole me).refl w, fun h ↦ h⟩
  trans hs ht h h' := ⟨(whole me).trans hs ht h.1 h'.1, fun ha ↦ h'.2 (h.2 ha)⟩
  after hs ht h h' := (whole me).after hs ht h.1 h'

/-- While the workers `ids` of `me` are brought to their ends. -/
def waiting (me : WorkerId) (ids : List WorkerId) : Guarantee (World κ) where
  inv w := (w.Shape ∧ w.Awake me) ∧ ∀ id ∈ ids, w.owner? id = some me
  rel w w' := Frames ids w w' ∧ (Tended ids me w → Tended ids me w')
  broken := BrokenOff ids me
  refl _ := ⟨Relation.ReflTransGen.refl, fun h ↦ h⟩
  trans _ _ h h' := ⟨h.1.trans h'.1, fun ht ↦ h'.2 (h.2 ht)⟩
  after _ _ h h' := h'.after h.1.passage h.2

/-- The guarantees of the three levels; a context in control may do no more than the core. -/
def regime : Regime κ := ⟨act, act, whole⟩

theorem quiet_of_still {α : Type} {x : Run (World κ) α} (h : KeepsAt (still me) x w) :
    KeepsAt (quiet me) x w :=
  h.mono (·.1) (fun _ hi hs' hr ↦ ⟨⟨hs', hr.2 hi.2⟩, hr.1⟩) fun _ _ _ hb ↦ hb

theorem whole_of_still {α : Type} {x : Run (World κ) α} (h : KeepsAt (still me) x w) :
    KeepsAt (whole me) x w :=
  h.mono (fun hs ↦ hs) (fun _ _ hs' hr ↦ ⟨hs', hr.1⟩) fun _ _ _ hb ↦ hb

/-! ## Small changes -/

/-- A scope may change as long as nobody is struck off its register. -/
theorem scope_changed {s : Scope κ} (hi : (quiet me).inv w) (hfit : s.Fits w me)
    (hkids : ∀ c ∈ (w.scope me).kids, c ∈ s.kids) :
    (quiet me).inv (w.setScope me s) ∧ (quiet me).rel w (w.setScope me s) := by
  obtain ⟨hs, ha⟩ := hi
  refine ⟨⟨hs.setScope ha hfit, awake_setScope.2 ha⟩, .setScope ha, fun ht ↦ ?_⟩
  exact ht.setScope hs ha (by simp) fun c hc ↦ .inl (hkids c hc)

/-- A desk may lose workers, but not get any. -/
theorem keeps_desk {f : Desk → Desk} (hf : ∀ d, ∀ c ∈ (f d).workers, c ∈ d.workers) :
    Keeps (quiet me) ((deskPlace me).update f : Run (World κ) Unit) := by
  refine fun w ↦ keepsAt_update fun hi ↦ scope_changed hi ?_ fun c hc ↦ hc
  have hfit := hi.1.fits me
  exact ⟨hfit.kids, hfit.nodup, fun c hc ↦ hfit.held c (hf _ c hc)⟩

/-- A desk may get workers of its own context. -/
theorem keepsAt_hold (hid : w.owner? id = some me) :
    KeepsAt (quiet me) ((deskPlace me).update (·.hold id)) w := by
  refine keepsAt_update fun hi ↦ scope_changed hi ?_ fun c hc ↦ hc
  have hfit := hi.1.fits me
  refine ⟨hfit.kids, hfit.nodup, fun c hc ↦ ?_⟩
  rcases List.mem_append.1 hc with hc | hc
  · exact hfit.held c hc
  · rw [List.mem_singleton.1 hc, hid]

theorem keeps_timers (f : Timers → Timers) :
    Keeps (quiet me) ((timersPlace me).update f : Run (World κ) Unit) := by
  refine fun w ↦ keepsAt_update fun hi ↦ scope_changed hi ?_ fun c hc ↦ hc
  have hfit := hi.1.fits me
  exact ⟨hfit.kids, hfit.nodup, hfit.held⟩

theorem keeps_context (f : Option κ → Option κ) :
    Keeps (quiet me) ((contextPlace me).update f) := by
  refine fun w ↦ keepsAt_update fun hi ↦ scope_changed hi ?_ fun c hc ↦ hc
  have hfit := hi.1.fits me
  exact ⟨hfit.kids, hfit.nodup, hfit.held⟩

/-- A context may change its own link and those of its workers. -/
theorem link_changed {l : Link} (hs : w.Shape) (hid : id = me ∨ w.owner? id = some me)
    (ht : (w.link id).terminated = true → l.terminated = true)
    (hl : (w.worker? id).isSome →
      ∀ side, (l.box side).closed = l.terminated ∧ (l.box side).waiting = [])
    (hmine : id = me → l.outbox.callback = (w.link me).outbox.callback) :
    (still me).inv (w.setLink id l) ∧ (still me).rel w (w.setLink id l) := by
  have hu : w.Under me id := by
    rcases hid with rfl | ho
    · exact .refl w id
    · exact under_of_owner? ho
  have hf : Frame me w (w.setLink id l) := .setLink hu ht hmine
  exact ⟨hs.setLink hl, ⟨hf, fun h ↦ h.updateWorker hs hf fun _ ↦ rfl⟩, awake_setLink.2⟩

theorem keepsAt_box {side : Side} {f : Mailbox → Mailbox} (hid : id = me ∨ w.owner? id = some me)
    (hclosed : ∀ b, (f b).closed = b.closed) (hwaiting : ∀ b, b.waiting = [] → (f b).waiting = [])
    (hcallback : id = me → side = .outbox → ∀ b, (f b).callback = b.callback) :
    KeepsAt (still me) ((boxPlace id side).update f) w := by
  refine keepsAt_update fun hs ↦ ?_
  rw [boxPlace_modify]
  refine link_changed hs hid ?_ (fun hex side' ↦ ?_) fun hme ↦ ?_
  · exact fun h ↦ Link.terminated_setBox.trans h
  · obtain ⟨k, hk⟩ := Option.isSome_iff_exists.1 hex
    have hfit := hs.workers id k hk
    have hlink := link_of_worker? hk
    rw [Link.terminated_setBox, hlink]
    by_cases hside : side' = side
    · subst hside
      rw [Link.box_setBox_self, hclosed]
      exact ⟨hfit.closed side', hwaiting _ (hfit.waiting side')⟩
    · rw [Link.box_setBox_ne hside]
      exact ⟨hfit.closed side', hfit.waiting side'⟩
  · subst hme
    cases side with
    | inbox => rfl
    | outbox => exact hcallback rfl rfl _

/-- A context may tell itself and its workers to end. -/
theorem keepsAt_flag (hid : id = me ∨ w.owner? id = some me) :
    KeepsAt (still me) (flag id) w := by
  rw [flag]
  refine keepsAt_read_bind (KeepsAt.bind (keepsAt_update fun hs ↦ ?_) fun _ w' _ _ _ ↦
    keepsAt_pure _ _ w')
  refine link_changed hs hid (fun _ ↦ rfl) (fun _ side ↦ ?_) ?_
  · cases side <;> exact ⟨rfl, rfl⟩
  · rintro rfl
    rfl

/-- A context may write down what is about somebody under it. -/
theorem same_changed (hs : w.Shape) (h : Same w w')
    (he : ∃ es, w'.events.toList = w.events.toList ++ es ∧
      ∀ e ∈ es, ∀ k, w.worker? e.1 = some k → k.phase ≠ .exited)
    (hj : ∃ ds, w'.journal.toList = w.journal.toList ++ ds ∧ ∀ d ∈ ds, w.Under me d.about) :
    (still me).inv w' ∧ (still me).rel w w' := by
  have hf : Frame me w w' := h.frame he hj
  exact ⟨h.shape hs, ⟨hf, h.tended hs hf⟩, h.awake.2⟩

theorem keepsAt_record {d : Deed} (hd : w.Under me d.about) : KeepsAt (still me) (record d) w := by
  refine keepsAt_modify fun hs ↦ same_changed hs ⟨rfl, rfl, rfl⟩ ⟨[], by simp, by simp⟩ ?_
  exact ⟨[d], by simp, by simpa using hd⟩

theorem keeps_note (e : Event) : Keeps (quiet me) (note me e : Run (World κ) Unit) := by
  intro w hi
  refine quiet_of_still (keepsAt_modify fun hs ↦ ?_) hi
  refine same_changed hs ⟨rfl, rfl, rfl⟩ ?_ ⟨[], by simp, by simp⟩
  exact ⟨[(me, e)], by simp, by simpa using fun k hk ↦ hi.2.phase_ne hk⟩

theorem keeps_clock (f : Clock → Clock) :
    Keeps (still me) (clockPlace.update f : Run (World κ) Unit) := fun _ ↦
  keepsAt_update fun hs ↦ same_changed hs ⟨rfl, rfl, rfl⟩ ⟨[], List.append_nil _ |>.symm, by simp⟩
    ⟨[], List.append_nil _ |>.symm, by simp⟩

theorem keeps_loader (f : Loader → Loader) :
    Keeps (still me) (loaderPlace.update f : Run (World κ) Unit) := fun _ ↦
  keepsAt_update fun hs ↦ same_changed hs ⟨rfl, rfl, rfl⟩ ⟨[], List.append_nil _ |>.symm, by simp⟩
    ⟨[], List.append_nil _ |>.symm, by simp⟩

/-! ## Small operations -/

/-- A context may post to itself and to its workers. -/
theorem keepsAt_deposit {side : Side} (hid : id = me ∨ w.owner? id = some me) (m : Message) :
    KeepsAt (still me) (deposit id side m) w := by
  rw [deposit]
  refine keepsAt_read_bind (KeepsAt.bind (keepsAt_record ?_) fun _ w' _ _ hr ↦ ?_)
  · rcases hid with rfl | ho
    · exact Under.refl w id
    · exact under_of_owner? ho
  · exact keepsAt_box (hid.imp_right hr.1.1.owner?) (fun b ↦ by simp) (fun b ↦ by simp)
      fun _ _ b ↦ by simp

theorem keepsAt_exchange {side : Side} (hid : id = me ∧ side = .inbox ∨ w.owner? id = some me)
    (hne : w.owner? id = some me → id ≠ me) (cb : Option Slot) :
    KeepsAt (still me) (exchange (boxPlace id side) cb) w := by
  rw [exchange]
  refine keepsAt_read_bind (KeepsAt.bind (keepsAt_box (hid.imp_left (·.1)) (fun _ ↦ rfl)
    (fun _ h ↦ h) fun hme hside ↦ ?_) fun _ w' _ _ _ ↦ keepsAt_pure _ _ w')
  rcases hid with ⟨-, h⟩ | h
  · rw [h] at hside
    cases hside
  · exact absurd hme (hne h)

theorem keeps_retain (f : FunctionRef) : Keeps (quiet me) (retain me f : Run (World κ) Slot) := by
  intro w
  rw [retain]
  refine keepsAt_read_bind (KeepsAt.bind (quiet_of_still (keepsAt_record ?_)) fun _ w₁ _ _ _ ↦ ?_)
  · exact Under.refl w me
  · refine KeepsAt.bind (keeps_desk ?_ w₁) fun _ w₂ _ _ _ ↦ keepsAt_pure _ _ w₂
    exact fun d c h ↦ h

theorem keeps_forget (old : Option Slot) :
    Keeps (quiet me) ((deskPlace me).update (·.forget old) : Run (World κ) Unit) := by
  refine keeps_desk fun d c h ↦ ?_
  cases old with
  | none => exact h
  | some slot => exact h

theorem keeps_addTimer (cb : Slot) (period : Option Float) :
    Keeps (quiet me) (addTimer me cb period : Run (World κ) UInt32) := by
  intro w
  rw [addTimer]
  refine keepsAt_read_bind (keepsAt_read_bind ?_)
  refine KeepsAt.bind (quiet_of_still (keepsAt_record ?_)) fun _ w₁ _ _ _ ↦ ?_
  · exact Under.refl w me
  · exact (keeps_timers _ w₁).bind fun _ w₂ _ _ _ ↦ keepsAt_pure _ _ w₂

theorem keeps_removeTimer (id : UInt32) :
    Keeps (quiet me) (removeTimer me id : Run (World κ) (Option Slot)) := by
  intro w
  rw [removeTimer]
  exact keepsAt_read_bind ((keeps_timers _ w).bind fun _ w₁ _ _ _ ↦ keepsAt_pure _ _ w₁)

/-! ## New workers -/

/-- A new worker is registered, so nobody is lost. -/
theorem spawned_changed {script : String} (hi : (quiet me).inv w) :
    (quiet me).inv (w.spawned me script) ∧ (quiet me).rel w (w.spawned me script) := by
  obtain ⟨hs, ha⟩ := hi
  have ha' : (w.grow me script).Awake me := awake_grow ha
  have hs' : (w.grow me script).Shape := hs.grow ha
  have hf : Frame me w (w.spawned me script) := (Frame.grow ha).trans hs (.setScope ha')
  refine ⟨⟨hs'.setScope ha' hs.fits_register, awake_setScope.2 ha'⟩, hf, fun ht ↦ ?_⟩
  have hself : ((w.spawned me script).scope me).kids =
      (w.scope me).kids ++ [w.workers.length + 1] := by
    rw [spawned, scope_setScope_self ha'.hasScope]
  refine ht.frame hs hf (by simp) (fun p _ c hc ↦ .inl ?_) fun p c hn hc ↦ ?_
  · by_cases hp : p = me
    · subst hp
      rw [hself]
      exact List.mem_append_left _ hc
    · rwa [spawned, scope_setScope_ne hp, scope_grow]
  · rw [spawned, owner?_setScope, owner?, worker?_grow] at hc
    split at hc
    · rename_i hc'
      cases hc
      rw [hself, hc']
      exact List.mem_append_right _ (List.mem_singleton_self _)
    · rw [hn] at hc
      cases hc

theorem keeps_spawn (script : String) :
    Keeps (quiet me) (spawn me script : Run (World κ) (Except CreationError WorkerId)) := by
  intro w hi
  rw [run_spawn]
  by_cases h : w.loader.contains script
  · rw [if_pos h]
    exact spawned_changed hi
  · rw [if_neg h]
    exact ⟨hi, (quiet me).refl w⟩

end Order

end ScriptWorkers
