import ScriptWorkers.Proofs.Silence.Basic
import ScriptWorkers.Proofs.Throughout

/-!
# Mute workers

Only the worker itself puts messages into its outbox, and only its owner takes them out.  Once its
link is terminated the worker is mute: the outbox is closed to it, and its owner passes it over.
From then on the messages that are in the outbox stay there, whoever does whatever
(`Mute.keeps_step`).

Most of what goes on is `Plain`.  It neither changes who is registered nor takes messages out of an
outbox, and who has been told to end stays so.

* `Plain.updateWorker`, `Plain.setLink`: which changes are plain, whoever makes them.
* `plain` is a guarantee that all requests keep but those that spawn or terminate
  (`keeps_serve_of_not_staffs`).
* `stays c` is what everybody keeps: the mute worker stays mute, and its outbox is as it was.
* `keeps_pumpOne` is where this could go wrong: an owner drains the outboxes of its workers, but
  passes over those that have been told to end.
-/

namespace ScriptWorkers

variable {κ : Type}

namespace World

variable {w w' w'' : World κ} {c id me x : WorkerId}

/-! ## Plain changes -/

/-- A change on behalf of `me` that leaves the registers as they are, and of the outboxes adds to
that of `me` at most. -/
structure Plain (me : WorkerId) (w w' : World κ) : Prop where
  owner? : ∀ c, w'.owner? c = w.owner? c
  kids : ∀ x, (w'.scope x).kids = (w.scope x).kids
  terminated : ∀ c, (w.link c).terminated = true → (w'.link c).terminated = true
  closed : ∀ c, (w.link c).outbox.closed = true → (w'.link c).outbox.closed = true
  items : ∀ c, c ≠ me ∨ (w.link c).outbox.closed = true →
    (w'.link c).outbox.items = (w.link c).outbox.items

namespace Plain

theorem refl (me : WorkerId) (w : World κ) : Plain me w w :=
  ⟨fun _ ↦ rfl, fun _ ↦ rfl, fun _ h ↦ h, fun _ h ↦ h, fun _ _ ↦ rfl⟩

theorem trans (h : Plain me w w') (h' : Plain me w' w'') : Plain me w w'' where
  owner? c := (h'.owner? c).trans (h.owner? c)
  kids x := (h'.kids x).trans (h.kids x)
  terminated c hc := h'.terminated c (h.terminated c hc)
  closed c hc := h'.closed c (h.closed c hc)
  items c hc := (h'.items c (hc.imp_right (h.closed c))).trans (h.items c hc)

theorem of_same (h : Same w w') : Plain me w w' := by
  have hlink (c : WorkerId) : w'.link c = w.link c := link_congr h.worker?
  refine ⟨fun _ ↦ owner?_congr h.worker?, fun _ ↦ by rw [h.scope], ?_, ?_, ?_⟩
  all_goals
    intro c hc
    rw [hlink]
  · exact hc
  · exact hc

theorem setScope {s : Scope κ} (hs : s.kids = (w.scope id).kids) :
    Plain me w (w.setScope id s) := by
  refine ⟨fun _ ↦ owner?_setScope s, fun x ↦ ?_, ?_, ?_, ?_⟩
  · rcases scope_setScope_or w id s x with h | ⟨rfl, h⟩
    · rw [h]
    · rw [h, hs]
  all_goals
    intro c hc
    rw [link_setScope]
  · exact hc
  · exact hc

/-- A change of a worker that does not concern its link or its register. -/
theorem updateWorker {f : Worker κ → Worker κ} (howner : ∀ k, (f k).owner = k.owner)
    (hkids : ∀ k, (f k).scope.kids = k.scope.kids) (hlink : ∀ k, (f k).link = k.link) :
    Plain me w (w.updateWorker id f) := by
  have hview (c : WorkerId) : (w.updateWorker id f).link c = w.link c :=
    view_link_updateWorker (fun l ↦ l) (fun k _ ↦ hlink k) c
  refine ⟨fun _ ↦ owner?_updateWorker howner,
    view_scope_updateWorker (·.kids) fun k _ ↦ hkids k, ?_, ?_, ?_⟩
  all_goals
    intro c hc
    rw [hview]
  · exact hc
  · exact hc

/-- A link may be terminated, not revived, and only `me` adds to its own outbox. -/
theorem setLink {l : Link} (ht : (w.link id).terminated = true → l.terminated = true)
    (hc : (w.link id).outbox.closed = true → l.outbox.closed = true)
    (hi : id ≠ me ∨ (w.link id).outbox.closed = true → l.outbox.items = (w.link id).outbox.items) :
    Plain me w (w.setLink id l) := by
  have hview (c : WorkerId) :
      (w.setLink id l).link c = w.link c ∨ c = id ∧ (w.setLink id l).link c = l := by
    by_cases hid : c = id
    · subst hid
      cases hk : w.worker? c with
      | none => exact .inl (by rw [World.setLink, updateWorker_eq_self hk])
      | some k => exact .inr ⟨rfl, link_setLink_self hk⟩
    · exact .inl (link_setLink_ne hid)
  refine ⟨fun _ ↦ owner?_setLink l, fun _ ↦ by rw [scope_setLink], ?_, ?_, ?_⟩
  all_goals
    intro c h
    rcases hview c with hv | ⟨rfl, hv⟩
    all_goals rw [hv]
  · exact h
  · exact ht h
  · exact h
  · exact hc h
  · exact hi h

end Plain

/-- The worker has been told to end and can post no more. -/
structure Mute (w : World κ) (c : WorkerId) : Prop where
  known : (w.owner? c).isSome = true
  terminated : (w.link c).terminated = true
  closed : (w.link c).outbox.closed = true

theorem Mute.congr (h : w.Mute c) (ho : w'.owner? c = w.owner? c) (hl : w'.link c = w.link c) :
    w'.Mute c :=
  ⟨ho ▸ h.known, hl ▸ h.terminated, hl ▸ h.closed⟩

/-- A worker that has been told to end is mute. -/
theorem Flagged.mute (h : w.Flagged c) (hs : w.Shape) : w.Mute c := by
  obtain ⟨k, hk, ht⟩ := h
  refine ⟨by rw [owner?_of_worker? hk]; rfl, by rw [link_of_worker? hk, ht], ?_⟩
  rw [link_of_worker? hk]
  exact ((hs.workers c k hk).closed .outbox).trans ht

end World

open World

namespace Mute

variable {w w' : World κ} {c id me x : WorkerId} {α : Type} {finish : WorkerId → Run (World κ) Unit}

/-! ## What is plain -/

/-- The guarantee of plain changes; they are never broken off. -/
def plain (me : WorkerId) : Guarantee (World κ) where
  inv _ := True
  rel := Plain me
  broken _ _ _ := False
  refl := .refl me
  trans _ _ := .trans
  after _ _ _ h := h

/-- What makes a plain change. -/
theorem keepsAt_of_plain {y : Run (World κ) α} {a : α} (hy : y w = .ok a w') (h : Plain me w w') :
    KeepsAt (plain me) y w := by
  intro _
  rw [hy]
  exact ⟨trivial, h⟩

theorem keeps_note (e : Event) : Keeps (plain me) (note id e : Run (World κ) Unit) :=
  fun _ ↦ keepsAt_of_plain rfl (.of_same ⟨rfl, rfl, rfl⟩)

theorem keeps_record (d : Deed) : Keeps (plain me) (record d : Run (World κ) Unit) :=
  fun w ↦ keepsAt_of_plain rfl (.of_same (same_noted w d))

theorem keeps_clock (f : Clock → Clock) :
    Keeps (plain me) (clockPlace.update f : Run (World κ) Unit) :=
  fun _ ↦ keepsAt_of_plain rfl (.of_same ⟨rfl, rfl, rfl⟩)

theorem keeps_loader (f : Loader → Loader) :
    Keeps (plain me) (loaderPlace.update f : Run (World κ) Unit) :=
  fun _ ↦ keepsAt_of_plain rfl (.of_same ⟨rfl, rfl, rfl⟩)

theorem keeps_desk (f : Desk → Desk) :
    Keeps (plain me) ((deskPlace id).update f : Run (World κ) Unit) :=
  fun _ ↦ keepsAt_of_plain rfl (.setScope rfl)

theorem keeps_timers (f : Timers → Timers) :
    Keeps (plain me) ((timersPlace id).update f : Run (World κ) Unit) :=
  fun _ ↦ keepsAt_of_plain rfl (.setScope rfl)

theorem keeps_context (f : Option κ → Option κ) : Keeps (plain me) ((contextPlace id).update f) :=
  fun _ ↦ keepsAt_of_plain rfl (.setScope rfl)

theorem keeps_setPhase (p : Phase) : Keeps (plain me) (setPhase id p : Run (World κ) Unit) :=
  fun _ ↦ keepsAt_of_plain rfl (.updateWorker (fun _ ↦ rfl) (fun _ ↦ rfl) fun _ ↦ rfl)

theorem keeps_crashed : Keeps (plain me)
    (modify fun w ↦ w.updateWorker id fun x ↦ { x with crashed := true } : Run (World κ) Unit) :=
  fun _ ↦ keepsAt_of_plain rfl (.updateWorker (fun _ ↦ rfl) (fun _ ↦ rfl) fun _ ↦ rfl)

theorem keeps_flag : Keeps (plain me) (flag id : Run (World κ) Bool) :=
  fun _ ↦ keepsAt_of_plain rfl (.setLink (fun _ ↦ rfl) (fun _ ↦ rfl) fun _ ↦ rfl)

theorem keeps_inbox (f : Mailbox → Mailbox) :
    Keeps (plain me) ((boxPlace id .inbox).update f : Run (World κ) Unit) :=
  fun _ ↦ keepsAt_of_plain rfl (.setLink (fun h ↦ h) (fun h ↦ h) fun _ ↦ rfl)

theorem keeps_push (m : Message) :
    Keeps (plain me) ((boxPlace me .outbox).update (·.push m) : Run (World κ) Unit) := by
  refine fun w ↦ keepsAt_of_plain rfl (.setLink (fun h ↦ h) (fun h ↦ ?_) fun h ↦ ?_)
  · exact Mailbox.closed_push.trans h
  · -- a closed outbox takes no more messages
    have hclosed := h.resolve_left fun hne ↦ hne rfl
    have hpush : (w.link me).outbox.push m = (w.link me).outbox := if_pos hclosed
    exact congrArg Mailbox.items hpush

/-- Callbacks may be exchanged. -/
theorem keeps_exchange (side : Side) (cb : Option Slot) :
    Keeps (plain me) (exchange (boxPlace id side) cb : Run (World κ) (Option Slot)) := by
  refine fun w ↦ keepsAt_of_plain rfl (.setLink ?_ ?_ fun _ ↦ ?_)
  all_goals cases side
  all_goals first | rfl | exact fun h ↦ h

/-- A worker posts to its own outbox. -/
theorem keeps_post (m : Message) : Keeps (plain me) (deposit me .outbox m : Run (World κ) Unit) :=
  fun w ↦ keepsAt_read_bind (((keeps_record _).bind fun _ ↦ keeps_push m) w)

/-- Anybody may post to an inbox. -/
theorem keeps_send (m : Message) : Keeps (plain me) (deposit id .inbox m : Run (World κ) Unit) :=
  fun w ↦ keepsAt_read_bind (((keeps_record _).bind fun _ ↦ keeps_inbox _) w)

theorem errands (me : WorkerId) : (plain me : Guarantee (World κ)).Errands me where
  note := keeps_note
  retained _ := keeps_record _
  timed _ := keeps_record _
  clock := keeps_clock
  loader := keeps_loader
  desk := keeps_desk
  timers := keeps_timers
  exchange _ := keeps_exchange
  post := keeps_post
  send _ := keeps_send
  resign := keeps_flag

/-- All but a few requests are plain. -/
theorem keeps_serve_of_not_staffs {q : Request} (hq : q.staffs = false) :
    Keeps (plain me) (serve finish me q) :=
  (errands me).keeps_serve hq

/-! ## What a mute worker has posted -/

/-- The worker stays mute, and the messages in its outbox stay there. -/
def stays (c : WorkerId) : Guarantee (World κ) where
  inv w := w.Mute c
  rel w w' := (w'.link c).outbox.items = (w.link c).outbox.items
  broken _ w w' := w'.Mute c ∧ (w'.link c).outbox.items = (w.link c).outbox.items
  refl _ := rfl
  trans _ _ h h' := h'.trans h
  after _ _ h h' := ⟨h'.1, h'.2.trans h⟩

/-- Plain changes, of whomever, leave the outbox of a mute worker alone. -/
theorem stays_of_plain (me : WorkerId) {y : Run (World κ) α} (h : Keeps (plain me) y) :
    Keeps (stays c) y := by
  refine fun w ↦ (h w).mono (fun _ ↦ trivial) (fun w' hm _ hp ↦ ?_) fun _ _ _ hb ↦ hb.elim
  refine ⟨⟨?_, hp.terminated c hm.terminated, hp.closed c hm.closed⟩, hp.items c (.inr hm.closed)⟩
  rw [hp.owner?]
  exact hm.known

theorem stays_of_link {y : Run (World κ) α} {a : α} (hy : y w = .ok a w')
    (ho : w'.owner? c = w.owner? c) (hl : w'.link c = w.link c) : KeepsAt (stays c) y w := by
  intro hm
  rw [hy]
  exact ⟨hm.congr ho hl, congrArg (fun l : Link ↦ l.outbox.items) hl⟩

theorem keeps_kids (f : List WorkerId → List WorkerId) :
    Keeps (stays c) ((kidsPlace me).update f : Run (World κ) Unit) :=
  fun _ ↦ stays_of_link rfl (owner?_setScope _) (link_setScope _)

/-- A new worker is another one. -/
theorem keepsAt_of_gains {y : Run (World κ) α} {a : α} (hy : y w = .ok a w') (h : Gains me w w') :
    KeepsAt (stays c) y w := by
  intro hm
  obtain ⟨p, hp⟩ := Option.isSome_iff_exists.1 hm.known
  exact stays_of_link hy ((h.owner? c p hp).trans hp.symm) (h.link c p hp) hm

theorem keeps_spawn (script : String) :
    Keeps (stays c) (spawn me script : Run (World κ) (Except CreationError WorkerId)) := by
  intro w
  by_cases h : w.loader.contains script = true
  · exact keepsAt_of_gains ((run_spawn w me script).trans (if_pos h)) gains_spawned
  · exact stays_of_link ((run_spawn w me script).trans (if_neg h)) rfl rfl

theorem staffing (me : WorkerId) : (stays c : Guarantee (World κ)).Staffing me where
  note e := stays_of_plain me (keeps_note e)
  retained _ := stays_of_plain me (keeps_record _)
  timed _ := stays_of_plain me (keeps_record _)
  clock f := stays_of_plain me (keeps_clock f)
  loader f := stays_of_plain me (keeps_loader f)
  desk f := stays_of_plain me (keeps_desk f)
  timers f := stays_of_plain me (keeps_timers f)
  exchange _ side callback := stays_of_plain me (keeps_exchange side callback)
  post m := stays_of_plain me (keeps_post m)
  send _ m := stays_of_plain me (keeps_send m)
  resign := stays_of_plain me keeps_flag
  kids := keeps_kids
  flag _ := stays_of_plain me keeps_flag
  spawn := keeps_spawn
  retired _ := stays_of_plain me (keeps_record _)

/-! ## Drains -/

section Core

variable {k : Callee (World κ)} (hk : k.KeepsAll (stays c))
include hk

theorem noting_keeps (cause : Cause) : (noting k me cause).KeepsAll (stays c) :=
  noting_keeps_of_parts hk (fun _ _ _ ↦ stays_of_plain me (keeps_record _))
    fun _ ↦ stays_of_plain me (keeps_record _)

/-- A drain leaves the outbox alone, if what it removes comes from elsewhere. -/
theorem keeps_drainBox {side : Side}
    (hsettle : ∀ n, Keeps (stays c) ((boxPlace id side).update (·.settle n) : Run (World κ) Unit)) :
    Keeps (stays c) (drainBox k me id side) := by
  have hn : (noting k me (.mail id side)).KeepsAll (stays c) := noting_keeps hk _
  exact keeps_drainBox_of_drain (stays_of_plain me (keeps_record _))
    (keeps_drain hn.log (fun w slot args _ ↦ hn.call slot args w) hsettle)
    fun _ ↦ stays_of_plain me (keeps_record _)

/-- A mute worker is passed over, and to drain the outbox of another one does not touch its own. -/
theorem keeps_pumpOne : Keeps (stays c) (pumpOne k me id) := by
  intro w hm
  refine keepsAt_read_bind (keepsAt_ite (fun _ ↦ keepsAt_pure _ _ w) fun hid ↦ ?_) hm
  have hne : c ≠ id := by
    rintro rfl
    exact hid hm.terminated
  refine keeps_drainBox hk (fun n w₁ ↦ ?_) w
  exact stays_of_link rfl (owner?_setLink _) (link_setLink_ne hne)

theorem keeps_tickTimers : Keeps (stays c) (tickTimers k me) :=
  keeps_tickTimers_of_noting (noting_keeps hk .timer) fun f ↦ stays_of_plain me (keeps_timers f)

end Core

theorem throughout (engine : Engine κ) (c : WorkerId) :
    (stays c).Throughout engine fun _ ↦ True where
  asks := (Order.lawful engine).asks
  broken := Iff.rfl
  note me e := stays_of_plain me (keeps_note e)
  context me f := stays_of_plain me (keeps_context f)
  timers me f := stays_of_plain me (keeps_timers f)
  kids _ := keeps_kids
  flag id := stays_of_plain id keeps_flag
  phase me p := stays_of_plain me (keeps_setPhase p)
  crashed me := stays_of_plain me keeps_crashed
  serve hfin me q _ := (staffing me).keeps_serve hfin q
  tick _ := keeps_tickTimers
  inbox {_ me} _ hk := keeps_drainBox hk fun _ ↦ stays_of_plain me (keeps_inbox _)
  pump _ hk := keeps_pump_of_pumpOne fun _ ↦ keeps_pumpOne hk

/-- **Whoever makes a step, a mute worker stays mute and its messages stay where they are.** -/
theorem keeps_step (engine : Engine κ) (c : WorkerId) (n : Nat) (id : WorkerId) :
    Keeps (stays c) (step engine n id) :=
  (throughout engine c).keeps_step n id

end Mute

end ScriptWorkers
