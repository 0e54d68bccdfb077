import ScriptWorkers.Proofs.Upkeep.Basic

/-!
# Silence

A context that has terminated one of its workers over its desk has let go of it for ever, and never
again hears from it.  What makes this so is kept by every single step, whoever makes it and in the
middle of whatever it is made, so a single guarantee does for all levels of a run:

* `World.LetGo me id`: the worker `id` is one of `me`, and neither the desk of `me` nor the
  host holds it;
* `Silence.Sound`: nothing was ever called back for a worker after it had been retired, and nobody
  could be called back for it now;
* `World.Later`: the journal has grown, and who was let go of before is let go of still.

Most steps do not come near any of this (`World.Eases`).  Those that do are to register a callback,
to enter a deed in the journal, and to create a worker.
-/

namespace ScriptWorkers

variable {κ : Type}

/-- A callback was invoked for a message of that worker. -/
def Deed.callsFor (id : WorkerId) : Deed → Bool
  | .called _ (.mail id' .outbox) _ _ _ => id' == id
  | _ => false

/-- The deed has nothing to do with who is heard of. -/
def Deed.Routine (d : Deed) : Prop := (∀ id, d.callsFor id = false) ∧ ∀ me id, d ≠ .retired me id

namespace World

variable {w w' w'' : World κ} {c id me x : WorkerId}

/-- The worker is one of `me`, and nobody has a hold of it any more. -/
structure LetGo (w : World κ) (me id : WorkerId) : Prop where
  owner : w.owner? id = some me
  unheld : id ∉ (w.scope me).desk.workers
  unhandled : id ∉ w.handles

/-- Nobody is called back for the messages of the worker. -/
def Unheard (w : World κ) (id : WorkerId) : Prop := (w.link id).outbox.callback = none

/-- The journal has grown, and nobody has got a hold of a worker that was let go of. -/
structure Later (w w' : World κ) : Prop where
  journal : w.journal.toList <+: w'.journal.toList
  letGo : ∀ me id, w.LetGo me id → w'.LetGo me id

theorem Later.refl (w : World κ) : Later w w := ⟨List.prefix_rfl, fun _ _ h ↦ h⟩

theorem Later.trans (h : Later w w') (h' : Later w' w'') : Later w w'' :=
  ⟨h.journal.trans h'.journal, fun me id hl ↦ h'.letGo me id (h.letGo me id hl)⟩

/-- Nobody holds more workers than before, nobody has begun to listen to a worker that was let go
of, and nothing is put down. -/
structure Eases (w w' : World κ) : Prop where
  journal : w'.journal = w.journal
  handles : w'.handles = w.handles
  owner? : ∀ x, w'.owner? x = w.owner? x
  held : ∀ x, ∀ c ∈ (w'.scope x).desk.workers, c ∈ (w.scope x).desk.workers
  unheard : ∀ me id, w.LetGo me id → w.Unheard id → w'.Unheard id

/-- Who was let go of is let go of still. -/
theorem Eases.letGo (h : Eases w w') (hl : w.LetGo me id) : w'.LetGo me id where
  owner := by rw [h.owner?, hl.owner]
  unheld hid := hl.unheld (h.held me id hid)
  unhandled := by
    rw [h.handles]
    exact hl.unhandled

theorem Eases.later (h : Eases w w') : Later w w' where
  journal := h.journal ▸ List.prefix_rfl
  letGo _ _ := h.letGo

theorem Alike.eases (h : Alike w w') : Eases w w' where
  journal := h.journal
  handles := h.handles
  owner? := h.owner?
  held x c hc := by rwa [h.desk] at hc
  unheard _ id _ hu := (h.callback id .outbox).trans hu

/-- A desk may lose workers. -/
theorem eases_setScope {s : Scope κ}
    (hs : ∀ c ∈ s.desk.workers, c ∈ (w.scope me).desk.workers) : Eases w (w.setScope me s) where
  journal := journal_setScope s
  handles := handles_setScope s
  owner? _ := owner?_setScope s
  held x c hc := by
    rcases scope_setScope_or w me s x with h | ⟨rfl, h⟩
    · rwa [h] at hc
    · rw [h] at hc
      exact hs c hc
  unheard _ id _ hu := by
    rw [Unheard, link_setScope]
    exact hu

/-- The callback of a link may go, but not come back. -/
theorem eases_setLink {l : Link}
    (hl : ∀ me, w.LetGo me id → w.Unheard id → l.outbox.callback = none) :
    Eases w (w.setLink id l) where
  journal := journal_updateWorker _
  handles := handles_updateWorker _
  owner? _ := owner?_setLink l
  held x c hc := by rwa [scope_setLink] at hc
  unheard me x hx hu := by
    rw [Unheard, setLink, link, worker?_updateWorker]
    split
    · rename_i hid
      subst hid
      cases hk : w.worker? x with
      | none => rfl
      | some k => exact hl me hx hu
    · exact hu

theorem eases_setPhase (p : Phase) :
    Eases w (w.updateWorker id fun x ↦ { x with phase := p }) := by
  have hscope (k : Worker κ) (_ : w.worker? id = some k) :
      ({ k with phase := p } : Worker κ).scope.desk.workers = k.scope.desk.workers := rfl
  have hlink (k : Worker κ) (_ : w.worker? id = some k) :
      ({ k with phase := p } : Worker κ).link.outbox.callback = k.link.outbox.callback := rfl
  refine ⟨journal_updateWorker _, handles_updateWorker _, fun _ ↦ owner?_updateWorker fun _ ↦ rfl,
    fun x c hc ↦ ?_, fun _ x _ hu ↦ ?_⟩
  · rwa [view_scope_updateWorker (·.desk.workers) hscope x] at hc
  · exact (view_link_updateWorker (·.outbox.callback) hlink x).trans hu

theorem eases_dropped : Eases w { w with root := none } where
  journal := rfl
  handles := rfl
  owner? _ := rfl
  held x c hc := by
    cases x with
    | zero => cases hc
    | succ n => exact hc
  unheard _ _ _ hu := hu

/-! ## A new worker -/

/-- There is one more worker, which `me` has spawned; the desk of `me` may hold it, or
else the host. -/
structure Gains (me : WorkerId) (w w' : World κ) : Prop where
  journal : w'.journal = w.journal
  next : w'.owner? (w.workers.length + 1) = some me
  owner? : ∀ x p, w.owner? x = some p → w'.owner? x = some p
  held : ∀ x, ∀ c ∈ (w'.scope x).desk.workers, c ∈ (w.scope x).desk.workers ∨
    c = w.workers.length + 1 ∧ x = me ∧ w'.handles = w.handles
  handles : ∀ c ∈ w'.handles, c ∈ w.handles ∨
    c = w.workers.length + 1 ∧ ∀ x, (w'.scope x).desk.workers = (w.scope x).desk.workers
  link : ∀ x p, w.owner? x = some p → w'.link x = w.link x

theorem owner?_next (w : World κ) : w.owner? (w.workers.length + 1) = none := by
  rw [owner?, worker?_next]
  rfl

theorem ne_next {p : WorkerId} (h : w.owner? c = some p) : c ≠ w.workers.length + 1 := by
  rintro rfl
  rw [owner?_next] at h
  cases h

/-- The new worker is another one than those that were let go of. -/
theorem Gains.letGo (h : Gains me w w') (hl : w.LetGo x id) : w'.LetGo x id where
  owner := h.owner? id x hl.owner
  unheld hid := by
    rcases h.held x id hid with hid | ⟨hid, -⟩
    · exact hl.unheld hid
    · exact ne_next hl.owner hid
  unhandled hid := by
    rcases h.handles id hid with hid | ⟨hid, -⟩
    · exact hl.unhandled hid
    · exact ne_next hl.owner hid

theorem Gains.later (h : Gains me w w') : Later w w' where
  journal := h.journal ▸ List.prefix_rfl
  letGo _ _ := h.letGo

section Spawned

variable {script : String}

theorem desk_spawned (w : World κ) (me : WorkerId) (script : String) (x : WorkerId) :
    ((w.spawned me script).scope x).desk = (w.scope x).desk := by
  rw [spawned]
  rcases scope_setScope_or (w.grow me script) me _ x with h | ⟨rfl, h⟩
  · rw [h, scope_grow]
  · rw [h]

theorem gains_spawned : Gains me w (w.spawned me script) where
  journal := journal_setScope _
  next := owner?_spawned
  owner? x p hx := by
    rw [spawned, owner?_setScope]
    exact owner?_grow hx
  held x c hc := by
    rw [desk_spawned] at hc
    exact .inl hc
  handles c hc := by
    rw [spawned, handles_setScope] at hc
    exact .inl hc
  link x p hx := by
    rw [spawned, link_setScope]
    refine link_congr ?_
    rw [worker?_grow, if_neg (ne_next hx)]

/-- The world after `me` has spawned a worker and taken hold of it. -/
def created (w : World κ) (me : WorkerId) (script : String) : World κ :=
  (deskPlace me).modify (·.hold (w.workers.length + 1)) (w.spawned me script)

theorem handles_created : (w.created me script).handles = w.handles :=
  (handles_setScope _).trans (handles_setScope _)

theorem mem_desk_created (h : c ∈ ((w.created me script).scope x).desk.workers) :
    c ∈ (w.scope x).desk.workers ∨ c = w.workers.length + 1 ∧ x = me := by
  rw [created, deskPlace_modify] at h
  rcases scope_setScope_or (w.spawned me script) me { (w.spawned me script).scope me with
    desk := ((w.spawned me script).scope me).desk.hold (w.workers.length + 1) } x with hx |
      ⟨rfl, hx⟩
  · rw [hx, desk_spawned] at h
    exact .inl h
  · rw [hx] at h
    rcases List.mem_append.1 h with h | h
    · rw [desk_spawned] at h
      exact .inl h
    · exact .inr ⟨List.mem_singleton.1 h, rfl⟩

/-- A script that creates a worker takes hold of it. -/
theorem gains_created : Gains me w (w.created me script) where
  journal := (journal_setScope _).trans gains_spawned.journal
  next := by rw [created, deskPlace_modify, owner?_setScope, owner?_spawned]
  owner? x p hx := by
    rw [created, deskPlace_modify, owner?_setScope]
    exact gains_spawned.owner? x p hx
  held x c hc := (mem_desk_created hc).imp_right fun ⟨hnext, hx⟩ ↦ ⟨hnext, hx, handles_created⟩
  handles c hc := by
    rw [handles_created] at hc
    exact .inl hc
  link x p hx := by
    rw [created, deskPlace_modify, link_setScope]
    exact gains_spawned.link x p hx

/-- A worker of the host is held by the host. -/
theorem gains_employed : Gains 0 w { w.spawned 0 script with
    handles := (w.spawned 0 script).handles ++ [w.workers.length + 1] } where
  journal := gains_spawned.journal
  next := owner?_spawned
  owner? x p hx := gains_spawned.owner? x p hx
  held x c hc := by
    have hdesk := desk_spawned w 0 script x
    cases x with
    | zero => exact .inl (hdesk ▸ hc)
    | succ n => exact .inl (hdesk ▸ hc)
  handles c hc := by
    rcases List.mem_append.1 hc with hc | hc
    · rw [spawned, handles_setScope] at hc
      exact .inl hc
    · refine .inr ⟨List.mem_singleton.1 hc, fun x ↦ ?_⟩
      rw [← desk_spawned w 0 script x]
      cases x <;> rfl
  link x p hx := gains_spawned.link x p hx

end Spawned

end World

open World

namespace Silence

variable {w w' : World κ} {c id me x : WorkerId} {α : Type}

/-- Nothing was called back for a worker after it had been retired, and nobody could be called
back for it now. -/
structure Sound (w : World κ) : Prop where
  /-- A context holds workers of its own only, and none that the host has a handle of. -/
  held : ∀ me, ∀ id ∈ (w.scope me).desk.workers, w.owner? id = some me ∧ id ∉ w.handles
  handles : ∀ id ∈ w.handles, (w.owner? id).isSome
  retired : ∀ me id, Deed.retired me id ∈ w.journal.toList → w.LetGo me id ∧ w.Unheard id
  silent : w.journal.toList.Pairwise fun d d' ↦ ∀ me id, d = .retired me id → d'.callsFor id = false

/-- What all computations keep, however they end. -/
def silence : Guarantee (World κ) where
  inv := Sound
  rel := Later
  broken _ w w' := Sound w' ∧ Later w w'
  refl := .refl
  trans _ _ := .trans
  after _ _ h h' := ⟨h'.1, h.trans h'.2⟩

/-- What eases matters keeps silence. -/
theorem Sound.eases (hw : Sound w) (h : Eases w w') : Sound w' where
  held me id hid := by
    rw [h.owner?, h.handles]
    exact hw.held me id (h.held me id hid)
  handles id hid := by
    rw [h.handles] at hid
    rw [h.owner?]
    exact hw.handles id hid
  retired me id hd := by
    rw [h.journal] at hd
    obtain ⟨hl, hu⟩ := hw.retired me id hd
    exact ⟨h.letGo hl, h.unheard me id hl hu⟩
  silent := by
    rw [h.journal]
    exact hw.silent

/-- A new worker keeps silence. -/
theorem Sound.gains (hw : Sound w) (h : Gains me w w') : Sound w' where
  held x c hc := by
    have hown : w'.owner? c = some x := by
      rcases h.held x c hc with hold | ⟨rfl, rfl, -⟩
      · exact h.owner? c x (hw.held x c hold).1
      · exact h.next
    refine ⟨hown, fun hin ↦ ?_⟩
    rcases h.held x c hc with hold | ⟨rfl, -, hhandles⟩
    · obtain ⟨ho, hn⟩ := hw.held x c hold
      rcases h.handles c hin with hin | ⟨hin, -⟩
      · exact hn hin
      · exact ne_next ho hin
    · rw [hhandles] at hin
      have hs := hw.handles _ hin
      rw [owner?_next] at hs
      cases hs
  handles c hc := by
    rcases h.handles c hc with hc | ⟨rfl, -⟩
    · obtain ⟨p, hp⟩ := Option.isSome_iff_exists.1 (hw.handles c hc)
      rw [h.owner? c p hp]
      rfl
    · rw [h.next]
      rfl
  retired me id hd := by
    rw [h.journal] at hd
    obtain ⟨hl, hu⟩ := hw.retired me id hd
    refine ⟨h.letGo hl, ?_⟩
    rw [Unheard, h.link id me hl.owner]
    exact hu
  silent := by
    rw [h.journal]
    exact hw.silent

/-- A deed may be entered if it calls nobody back who was let go of, and if whoever it retires has
been let go of. -/
theorem Sound.noted {d : Deed} (hw : Sound w)
    (hcalls : ∀ id, d.callsFor id = true → ¬ w.Unheard id)
    (hretired : ∀ me id, d = .retired me id → w.LetGo me id ∧ w.Unheard id) :
    Sound (w.noted d) where
  held me id hid := by
    have hs := same_noted w d
    rw [hs.scope] at hid
    rw [owner?_congr hs.worker?, hs.handles]
    exact hw.held me id hid
  handles id hid := hw.handles id hid
  retired me id hd := by
    have heases : w.LetGo me id ∧ w.Unheard id := by
      rw [journal_noted] at hd
      rcases List.mem_append.1 hd with hd | hd
      · exact hw.retired me id hd
      · exact hretired me id (List.mem_singleton.1 hd).symm
    obtain ⟨⟨ho, hh, hn⟩, hu⟩ := heases
    refine ⟨⟨ho, ?_, hn⟩, hu⟩
    rwa [(same_noted w d).scope]
  silent := by
    rw [journal_noted, List.pairwise_append]
    refine ⟨hw.silent, List.pairwise_singleton _ _, fun a ha b hb me id hret ↦ ?_⟩
    rw [List.mem_singleton.1 hb, Bool.eq_false_iff]
    subst hret
    exact fun hc ↦ hcalls id hc (hw.retired me id ha).2

/-! ## Single steps -/

theorem keepsAt_of_eases {y : Run (World κ) α} {a : α} (hy : y w = .ok a w') (h : Eases w w') :
    KeepsAt silence y w := by
  intro hw
  rw [hy]
  exact ⟨hw.eases h, h.later⟩

/-- Changes that matter to nobody keep silence. -/
theorem keepsAt_of_mild {y : Run (World κ) α} (h : Mild y w) : KeepsAt silence y w := by
  obtain ⟨a, w', hy, ha⟩ := h
  exact keepsAt_of_eases hy ha.eases

theorem keepsAt_of_gains {y : Run (World κ) α} {a : α} (hy : y w = .ok a w') (h : Gains me w w') :
    KeepsAt silence y w := by
  intro hw
  rw [hy]
  exact ⟨hw.gains h, h.later⟩

theorem keeps_note (e : Event) : Keeps silence (note id e : Run (World κ) Unit) :=
  fun _ ↦ keepsAt_of_mild (mild_note e)

theorem keeps_clock (f : Clock → Clock) :
    Keeps silence (clockPlace.update f : Run (World κ) Unit) :=
  fun _ ↦ keepsAt_of_mild (mild_clock f)

theorem keeps_loader (f : Loader → Loader) :
    Keeps silence (loaderPlace.update f : Run (World κ) Unit) :=
  fun _ ↦ keepsAt_of_mild (mild_loader f)

theorem keeps_context (f : Option κ → Option κ) : Keeps silence ((contextPlace me).update f) :=
  fun _ ↦ keepsAt_of_mild (mild_context f)

theorem keeps_flag : Keeps silence (flag id : Run (World κ) Bool) :=
  fun _ ↦ keepsAt_of_mild mild_flag

theorem keeps_setPhase (p : Phase) : Keeps silence (setPhase id p : Run (World κ) Unit) :=
  fun _ ↦ keepsAt_of_eases rfl (eases_setPhase p)

theorem keeps_crashed : Keeps silence
    (modify fun w ↦ w.updateWorker me fun x ↦ { x with crashed := true } : Run (World κ) Unit) :=
  fun _ ↦ keepsAt_of_mild mild_crashed

theorem keeps_timers (f : Timers → Timers) :
    Keeps silence ((timersPlace me).update f : Run (World κ) Unit) :=
  fun _ ↦ keepsAt_of_eases rfl (eases_setScope fun _ hc ↦ hc)

theorem keeps_kids (f : List WorkerId → List WorkerId) :
    Keeps silence ((kidsPlace me).update f : Run (World κ) Unit) :=
  fun _ ↦ keepsAt_of_eases rfl (eases_setScope fun _ hc ↦ hc)

theorem keeps_desk {f : Desk → Desk} (hf : ∀ d, ∀ c ∈ (f d).workers, c ∈ d.workers) :
    Keeps silence ((deskPlace me).update f : Run (World κ) Unit) :=
  fun _ ↦ keepsAt_of_eases rfl (eases_setScope fun c hc ↦ hf _ c hc)

theorem keeps_forget (old : Option Slot) :
    Keeps silence ((deskPlace me).update (·.forget old) : Run (World κ) Unit) := by
  refine keeps_desk fun d c hc ↦ ?_
  cases old <;> exact hc

/-- Messages come and go, as long as the callback stays. -/
theorem keeps_box {side : Side} {f : Mailbox → Mailbox} (hf : ∀ b, (f b).callback = b.callback) :
    Keeps silence ((boxPlace id side).update f : Run (World κ) Unit) := by
  refine fun w ↦ keepsAt_of_eases rfl (eases_setLink fun _ _ hu ↦ ?_)
  cases side with
  | inbox => exact hu
  | outbox => exact (hf _).trans hu

/-! ## Callbacks -/

theorem keeps_listen_inbox (cb : Option Slot) :
    Keeps silence ((boxPlace id .inbox).update (·.listen cb) : Run (World κ) Unit) :=
  fun _ ↦ keepsAt_of_eases rfl (eases_setLink fun _ _ hu ↦ hu)

theorem keeps_unlisten :
    Keeps silence ((boxPlace id .outbox).update (·.listen none) : Run (World κ) Unit) :=
  fun _ ↦ keepsAt_of_eases rfl (eases_setLink fun _ _ _ ↦ rfl)

/-- Somebody has a hold of the worker. -/
def HasHold (w : World κ) (id : WorkerId) : Prop :=
  id ∈ w.handles ∨ ∃ me, id ∈ (w.scope me).desk.workers

/-- Who is held was not let go of. -/
theorem Sound.not_letGo (hw : Sound w) (h : HasHold w id) : ¬ w.LetGo me id := by
  intro hl
  rcases h with h | ⟨x, h⟩
  · exact hl.unhandled h
  · have ho := (hw.held x id h).1
    rw [hl.owner, Option.some_inj] at ho
    exact hl.unheld (ho ▸ h)

/-- A callback may be registered for a worker that somebody has a hold of: it has not been
retired. -/
theorem keepsAt_listen (cb : Option Slot) (h : HasHold w id) :
    KeepsAt silence ((boxPlace id .outbox).update (·.listen cb)) w := by
  intro hw
  exact keepsAt_of_eases rfl (eases_setLink fun _ hl _ ↦ absurd hl (hw.not_letGo h)) hw

/-! ## Deeds -/

theorem keepsAt_record {d : Deed} (hcalls : ∀ id, d.callsFor id = true → ¬ w.Unheard id)
    (hretired : ∀ me id, d = .retired me id → w.LetGo me id ∧ w.Unheard id) :
    KeepsAt silence (record d) w := by
  refine keepsAt_modify fun hw ↦ ⟨hw.noted hcalls hretired, ?_,
    fun me id hl ↦ ⟨hl.owner, ?_, hl.unhandled⟩⟩
  · exact ⟨[d], (journal_noted w d).symm⟩
  · have hs := (same_noted w d).scope (p := me)
    exact fun hid ↦ hl.unheld (hs ▸ hid)

theorem keeps_record {d : Deed} (hd : d.Routine) :
    Keeps silence (record d : Run (World κ) Unit) := by
  refine fun w ↦ keepsAt_record (fun id hc ↦ ?_) fun me id hr ↦ absurd hr (hd.2 me id)
  rw [hd.1 id] at hc
  cases hc

/-- A callback is invoked only if it is registered, so the worker was not let go of. -/
theorem keepsAt_record_called {side : Side} {slot : Slot} {f : Option FunctionRef}
    {args : List Json} (h : ((boxPlace id side).get w).callback = some slot) :
    KeepsAt silence (record (.called me (.mail id side) slot f args)) w := by
  refine keepsAt_record (fun id' hc ↦ ?_) fun _ _ hr ↦ by cases hr
  cases side with
  | inbox => cases hc
  | outbox =>
    rw [Deed.callsFor, beq_iff_eq] at hc
    subst hc
    intro hu
    exact absurd (hu.symm.trans h) (by simp)

theorem keeps_deposit {side : Side} (m : Message) :
    Keeps silence (deposit id side m : Run (World κ) Unit) := by
  refine fun w ↦
    keepsAt_read_bind ((keeps_record ⟨fun _ ↦ rfl, by simp⟩ w).bind fun _ w₁ _ _ _ ↦ ?_)
  exact keeps_box (fun _ ↦ Mailbox.callback_push) w₁

/-- A function is kept on the desk. -/
theorem keeps_retain (f : FunctionRef) : Keeps silence (retain me f : Run (World κ) Slot) := by
  have hf (d : Desk) (c : WorkerId) (hc : c ∈ (d.retain f).workers) : c ∈ d.workers := hc
  refine fun w ↦
    keepsAt_read_bind ((keeps_record ⟨fun _ ↦ rfl, by simp⟩ w).bind fun _ w₁ _ _ _ ↦ ?_)
  exact (keeps_desk hf w₁).bind fun _ w₂ _ _ _ ↦ keepsAt_pure _ _ w₂

/-- An interval is started. -/
theorem keeps_addTimer (cb : Slot) (period : Option Float) :
    Keeps silence (addTimer me cb period : Run (World κ) UInt32) := by
  refine fun w ↦ keepsAt_read_bind (keepsAt_read_bind ((keeps_record ⟨fun _ ↦ rfl, by simp⟩ w).bind
    fun _ w₁ _ _ _ ↦ ?_))
  exact (keeps_timers _ w₁).bind fun _ w₂ _ _ _ ↦ keepsAt_pure _ _ w₂

theorem keeps_removeTimer (id : UInt32) :
    Keeps silence (removeTimer me id : Run (World κ) (Option Slot)) :=
  fun w ↦ keepsAt_read_bind ((keeps_timers _ w).bind fun _ w₁ _ _ _ ↦ keepsAt_pure _ _ w₁)

/-! ## Exchanging callbacks -/

theorem keepsAt_exchange {place : Place (World κ) Mailbox} {cb : Option Slot}
    (h : KeepsAt silence (place.update (·.listen cb)) w) : KeepsAt silence (exchange place cb) w :=
  keepsAt_read_bind (h.bind fun _ w₁ _ _ _ ↦ keepsAt_pure _ _ w₁)

end Silence

end ScriptWorkers
