import ScriptWorkers.Proofs.Books.Entries

/-!
# Workers come and go

A context that creates a worker enters it in its books, and the new worker begins with books of its
own that are empty.  The host may also spawn a worker for the root, but keeps the handle itself, so
that the books of the root do not mention it.

A context that retires a worker lets go of it, terminates it and waits for it, and only then takes
back the slot by which it listened to it.  While it waits its books are not in order; but nobody
looks at them, and nothing in them changes.

* `hired` is the world with the new worker, `kept_hired` the books of its owner and
  `kept_hired_next` its own.
* `lettingGo` is the world in which a worker has been let go of, and `kept_lettingGo` says what is
  in hand then; `Working.dismissed` and `keepsAt_retire` follow it to the end.
-/

namespace ScriptWorkers

open World

variable {κ : Type}

namespace Books

variable {w w' : World κ} {c id me x : WorkerId} {engine : Engine κ} {n : Nat}

/-! ## New workers -/

section Hire

variable {script : String} {held : Bool}

/-- The scope of `me` with a new worker, which it holds or of which the host has the handle. -/
def hiring (w : World κ) (me : WorkerId) (held : Bool) : Scope κ :=
  { w.scope me with
    kids := (w.scope me).kids ++ [w.workers.length + 1]
    desk := if held then (w.scope me).desk.hold (w.workers.length + 1) else (w.scope me).desk }

/-- The world after `me` has been given a new worker. -/
def hired (w : World κ) (me : WorkerId) (script : String) (held : Bool) : World κ :=
  { (w.grow me script).setScope me (hiring w me held) with
    handles := if held then w.handles else w.handles ++ [w.workers.length + 1] }

/-- A context that creates a worker holds it. -/
theorem hired_true :
    hired w me script true = (w.grow me script).setScope me (hiring w me true) := by
  cases me <;> rfl

theorem worker?_hired : (hired w me script held).worker? c =
    ((w.grow me script).setScope me (hiring w me held)).worker? c :=
  worker?_congr rfl

theorem scope_hired : (hired w me script held).scope x =
    ((w.grow me script).setScope me (hiring w me held)).scope x := by
  cases x with
  | zero => rfl
  | succ n => exact scope_congr (by simp) worker?_hired

theorem scope_hired_self (ha : w.Awake me) :
    (hired w me script held).scope me = hiring w me held := by
  rw [scope_hired, scope_setScope_self (awake_grow ha).hasScope]

theorem scope_hired_ne (hx : x ≠ me) : (hired w me script held).scope x = w.scope x := by
  rw [scope_hired, scope_setScope_ne hx, scope_grow]

theorem link_hired (hx : x ≠ w.workers.length + 1) :
    (hired w me script held).link x = w.link x := by
  rw [link_congr worker?_hired, link_setScope]
  refine link_congr ?_
  rw [worker?_grow, if_neg hx]

theorem link_hired_next : (hired w me script held).link (w.workers.length + 1) =
    { id := w.workers.length + 1 } := by
  rw [link_congr worker?_hired, link_setScope, link, worker?_grow, if_pos rfl]
  rfl

/-- The new worker belongs to `me`, and nobody else changes owners. -/
theorem owner?_hired (c : WorkerId) : (hired w me script held).owner? c =
    if c = w.workers.length + 1 then some me else w.owner? c := by
  rw [owner?_congr worker?_hired, owner?_setScope, owner?, worker?_grow]
  split <;> rfl

theorem journal_hired : (hired w me script held).journal = w.journal := journal_setScope _

theorem passage_hired (ha : w.Awake me) : w.Passage (hired w me script held) := by
  have hgrow : Frame me w (w.grow me script) := .grow ha
  have hset : Frame me (w.grow me script) ((w.grow me script).setScope me (hiring w me held)) :=
    .setScope (awake_grow ha)
  have hp := hgrow.toPassage.trans hset.toPassage
  refine ⟨fun c k hk ↦ ?_, hp.events⟩
  rw [worker?_hired]
  exact hp.kept c k hk

theorem awake_of_hired (hn : x ≠ w.workers.length + 1) (ha : (hired w me script held).Awake x) :
    w.Awake x := by
  have ha' : ((w.grow me script).setScope me (hiring w me held)).Awake x := by
    rwa [Awake, worker?_hired] at ha
  rw [awake_setScope, Awake, worker?_grow, if_neg hn] at ha'
  exact ha'

theorem owner_ne_next (hs : w.Shape) : w.owner? c ≠ some (w.workers.length + 1) := by
  intro hc
  rcases hs.owner_exists hc with h | h
  · cases h
  · simp [worker?_next] at h

theorem ne_next_of_owner (hc : w.owner? c = some x) : c ≠ w.workers.length + 1 := by
  rintro rfl
  rw [owner?, worker?_next] at hc
  cases hc

/-- As before, those workers are scripted that are registered and of which the host has no
handle. -/
theorem filter_hired (hs : w.Shape) :
    (w.scope x).kids.filter (· ∉ (hired w me script held).handles) = w.scripted x := by
  refine List.filter_congr fun c hc ↦ ?_
  have hne : c ≠ w.workers.length + 1 := ne_next_of_owner ((hs.fits x).kids c hc)
  cases held <;> simp [hired, hne]

/-- A new worker does not concern the others. -/
theorem untouched_hired (hs : w.Shape) (hx : x ≠ me) (hn : x ≠ w.workers.length + 1) :
    Untouched x w (hired w me script held) := by
  have hscope : (hired w me script held).scope x = w.scope x := scope_hired_ne hx
  refine ⟨awake_of_hired hn, ?_, by rw [hscope], by rw [hscope], by rw [hscope],
    by rw [link_hired hn], fun c hc ↦ ?_, fun c hc ↦ ?_, ?_, ?_⟩
  · rw [scripted, hscope, filter_hired hs]
  · rw [owner?_hired] at hc
    split at hc
    · exact absurd (Option.some_inj.1 hc).symm hx
    · exact hc
  · rw [link_hired]
    rintro rfl
    rcases hc with hc | hc
    · rw [owner?_hired, if_pos rfl] at hc
      exact hx (Option.some_inj.1 hc).symm
    · exact ne_next_of_owner ((hs.fits x).held _ hc) rfl
  · rw [slotsGiven, slotsGiven, journal_hired]
  · rw [intervalsGiven, intervalsGiven, journal_hired]

/-- The books of a new worker are empty. -/
theorem kept_hired_next (hs : w.Shape) (hsound : Sound w) (hme : me ≠ w.workers.length + 1) :
    Kept [] [] (w.workers.length + 1) (hired w me script held) := by
  have hscope : (hired w me script held).scope (w.workers.length + 1) = {} := by
    rw [scope_hired_ne (Ne.symm hme), scope, worker?_next]
    rfl
  have hunmentioned (d : Deed) (hd : d ∈ w.journal.toList) : d.about ≠ w.workers.length + 1 := by
    intro he
    have hknown := hsound.known d hd
    rw [he, worker?_next] at hknown
    simp at hknown
  have hslots : (hired w me script held).slotsGiven (w.workers.length + 1) = 0 := by
    rw [slotsGiven, journal_hired, List.countP_eq_zero]
    intro d hd hg
    cases d <;> simp [Deed.givesSlot] at hg
    exact hunmentioned _ hd hg
  have hintervals : (hired w me script held).intervalsGiven (w.workers.length + 1) = 0 := by
    rw [intervalsGiven, journal_hired, List.countP_eq_zero]
    intro d hd hg
    cases d <;> simp [Deed.givesInterval] at hg
    exact hunmentioned _ hd hg
  refine ⟨?_, fun c hc _ _ ↦ ?_, ?_, ?_, fun _ ↦ ?_⟩
  · rw [scripted, hscope]
    rfl
  · rw [owner?_hired] at hc
    split at hc
    · exact absurd (Option.some_inj.1 hc) hme
    · exact absurd hc (owner_ne_next hs)
  · rw [hscope, hslots]
    rfl
  · rw [hscope, hintervals]
    rfl
  · rw [World.listening, hscope, link_hired_next]
    exact ⟨.refl _, List.nodup_nil, by simp [Desk.slots], List.nodup_nil, by simp [Timers.pairs]⟩

/-- The desk goes on holding exactly the workers that scripts have created. -/
theorem workers_hiring (hs : w.Shape) (h : (w.scope me).desk.workers = w.scripted me) :
    (hiring w me held).desk.workers =
      (hiring w me held).kids.filter (· ∉ (hired w me script held).handles) := by
  show _ = ((w.scope me).kids ++ [w.workers.length + 1]).filter _
  rw [List.filter_append, filter_hired hs, ← h]
  cases held with
  | true =>
    have hnew : w.workers.length + 1 ∉ w.handles := fun hm ↦ ne_next_of_owner (hs.handles _ hm) rfl
    rw [List.filter_cons_of_pos (by simpa [hired] using hnew)]
    rfl
  | false =>
    rw [List.filter_cons_of_neg (by simp [hired])]
    exact (List.append_nil _).symm

/-- A new worker has no callback yet, so the books stay kept. -/
theorem kept_hired (hs : w.Shape) (ha : w.Awake me) (h : Kept [] [] me w) :
    Kept [] [] me (hired w me script held) := by
  have hscope : (hired w me script held).scope me = hiring w me held := scope_hired_self ha
  have hslots : (hired w me script held).slotsGiven me = w.slotsGiven me := by
    rw [slotsGiven, slotsGiven, journal_hired]
  have hintervals : (hired w me script held).intervalsGiven me = w.intervalsGiven me := by
    rw [intervalsGiven, intervalsGiven, journal_hired]
  have hsilent (c : WorkerId) (hc : c = w.workers.length + 1) :
      ((hired w me script held).link c).outbox.callback = none := by
    rw [hc, link_hired_next]
  refine ⟨?_, fun c hc hn _ ↦ ?_, ?_, ?_, fun hr ↦ ?_⟩
  · rw [scripted, hscope]
    exact workers_hiring hs h.held
  · by_cases hc' : c = w.workers.length + 1
    · exact hsilent c hc'
    · rw [owner?_hired, if_neg hc'] at hc
      rw [link_hired hc']
      refine h.unheld c hc (fun hm ↦ hn ?_) (by simp)
      rw [hscope]
      cases held with
      | true => exact List.mem_append_left _ hm
      | false => exact hm
  · rw [hscope, hslots, ← h.nextSlot]
    cases held <;> rfl
  · rw [hscope, hintervals]
    exact h.nextInterval
  · rw [InRange, hslots, hintervals] at hr
    have hworkers : (w.scope me).desk.workers.filterMap
        (fun c ↦ ((hired w me script held).link c).outbox.callback) =
        (w.scope me).desk.workers.filterMap fun c ↦ (w.link c).outbox.callback := by
      refine List.filterMap_congr fun c hc ↦ ?_
      rw [link_hired (ne_next_of_owner ((hs.fits me).held c hc))]
    have hlistening : (hired w me script held).listening me = w.listening me := by
      rw [World.listening, World.listening, hscope, link_hired (Nat.ne_of_lt ha.lt_next),
        ← hworkers]
      cases held with
      | true =>
        show _ ++ ((w.scope me).desk.workers ++ [_]).filterMap _ = _
        rw [List.filterMap_append]
        simp [hsilent]
      | false => rfl
    have he := h.exact hr
    rw [hscope, hlistening, hslots, hintervals]
    cases held <;> exact ⟨he.slots, he.nodup, he.issued, he.distinct, he.started⟩

theorem others_hired (hs : w.Shape) (ha : w.Awake me) (h : books.Others me w) :
    books.Others me (hired w me script held) := by
  have hp : w.Passage (hired w me script held) := passage_hired ha
  have hj : (hired w me script held).journal.toList = w.journal.toList ++ [] := by
    simp [journal_hired]
  refine ⟨h.1.extend hj (fun c ↦ hp.isSome) (by simp) (by simp), fun x hx hne hax ↦ ?_⟩
  by_cases hn : x = w.workers.length + 1
  · exact hn ▸ kept_hired_next hs h.1 (Nat.ne_of_lt ha.lt_next)
  · have hu : Untouched x w (hired w me script held) := untouched_hired hs hne hn
    have hx' := hp.under_back hs x (hu.awake hax).known hx
    exact (h.2 x hx' hne (hu.awake hax)).untouched hu

theorem setScope_setScope (w : World κ) (me : WorkerId) (s t : Scope κ) :
    (w.setScope me s).setScope me t = w.setScope me t := by
  cases me with
  | zero => simp [setScope, Function.comp_def]
  | succ n => simp [setScope, updateWorker, List.modify_modify_eq, Function.comp_def]

/-- Creating a worker takes one step, and does nothing if the script cannot be loaded. -/
theorem run_create (finish : WorkerId → Run (World κ) Unit) (ha : w.Awake me) :
    serveDesk finish me (.create script) w = if w.loader.contains script then
      .ok (.ok (w.workers.length + 1)) (hired w me script true)
    else .ok (.error (.scriptNotFound script)) w := by
  rw [serveDesk]
  by_cases h : w.loader.contains script = true
  · have hrun : spawn me script w = .ok (.ok (w.workers.length + 1)) (w.spawned me script) := by
      rw [run_spawn, if_pos h]
    rw [run_bind_ok hrun, if_pos h]
    show EStateM.Result.ok _ ((deskPlace me).modify _ (w.spawned me script)) = _
    rw [deskPlace_modify, spawned, setScope_setScope, scope_setScope_self (awake_grow ha).hasScope,
      hired_true]
    rfl
  · have hrun : spawn me script w = .ok (.error (.scriptNotFound script)) w := by
      rw [run_spawn, if_neg h]
    rw [run_bind_ok hrun, if_neg h]
    rfl

theorem Working.create {finish : WorkerId → Run (World κ) Unit} {r : Except CreationError WorkerId}
    (h : Working [] [] me w) (hx : serveDesk finish me (.create script) w = .ok r w') :
    Working [] [] me w' ∧ Own me w w' := by
  have horder := ((Order.keeps_create script w).ok h.order hx).1
  rw [run_create finish h.order.2] at hx
  split at hx
  · cases hx
    refine ⟨⟨horder, others_hired h.order.1 h.order.2 h.others,
      kept_hired h.order.1 h.order.2 h.kept⟩, ?_, fun _ p hp ↦ .inl ?_⟩
    · simp only [intervalsGiven, journal_hired, Nat.le_refl]
    · rwa [scope_hired_self h.order.2] at hp
  · cases hx
    exact ⟨h, .refl me w⟩

end Hire

/-! ## Workers that are retired -/

section Retire

/-- One element of a list may be looked at first. -/
theorem perm_filterMap {α β : Type} [DecidableEq α] {f : α → Option β} {a : α} {l : List α}
    (hn : l.Nodup) (ha : a ∈ l) :
    (l.filterMap f).Perm ((f a).toList ++ (l.filter (· != a)).filterMap f) := by
  have hperm := (List.perm_cons_erase ha).filterMap f
  rw [hn.erase_eq_filter] at hperm
  refine hperm.trans (.of_eq ?_)
  rw [List.filterMap_cons]
  cases f a <;> rfl

/-- The world in which `me` has let go of a worker. -/
def lettingGo (w : World κ) (me id : WorkerId) : World κ := (deskPlace me).modify (·.letGo id) w

theorem link_lettingGo (c : WorkerId) :
    ((lettingGo w me id).unregister me [id]).link c = w.link c := by
  rw [unregister, link_setScope, lettingGo, deskPlace_modify, link_setScope]

theorem owner?_lettingGo (c : WorkerId) :
    ((lettingGo w me id).unregister me [id]).owner? c = w.owner? c := by
  rw [unregister, owner?_setScope, lettingGo, deskPlace_modify, owner?_setScope]

theorem journal_lettingGo : ((lettingGo w me id).unregister me [id]).journal = w.journal := by
  rw [unregister, journal_setScope, lettingGo, deskPlace_modify, journal_setScope]

theorem handles_lettingGo : ((lettingGo w me id).unregister me [id]).handles = w.handles := by
  rw [unregister, handles_setScope, lettingGo, deskPlace_modify, handles_setScope]

/-- A worker that is let go of is neither on the desk nor registered. -/
theorem scope_lettingGo (ha : w.Awake me) :
    ((lettingGo w me id).unregister me [id]).scope me = { w.scope me with
      kids := (w.scope me).kids.filter (· ∉ [id])
      desk := (w.scope me).desk.letGo id } := by
  rw [unregister, lettingGo, deskPlace_modify, setScope_setScope, scope_setScope_self ha.hasScope,
    scope_setScope_self ha.hasScope]

/-- The books after a worker has been let go of and struck off the register. -/
theorem kept_lettingGo (hs : w.Shape) (ha : w.Awake me) (h : Kept [] [] me w)
    (hid : id ∈ (w.scope me).desk.workers) :
    Kept (w.link id).outbox.callback.toList [id] me ((lettingGo w me id).unregister me [id]) := by
  have hscope : ((lettingGo w me id).unregister me [id]).scope me = _ := scope_lettingGo ha
  have hslots : ((lettingGo w me id).unregister me [id]).slotsGiven me = w.slotsGiven me := by
    rw [slotsGiven, slotsGiven, journal_lettingGo]
  have hintervals : ((lettingGo w me id).unregister me [id]).intervalsGiven me =
      w.intervalsGiven me := by
    rw [intervalsGiven, intervalsGiven, journal_lettingGo]
  refine ⟨?_, fun c hc hn hf ↦ ?_, ?_, ?_, fun hr ↦ ?_⟩
  · rw [scripted, hscope, handles_lettingGo]
    show (w.scope me).desk.workers.filter (· != id) = _
    rw [h.held, scripted, List.filter_filter, List.filter_filter]
    refine List.filter_congr fun c _ ↦ ?_
    by_cases hc : c = id <;> simp [hc]
  · rw [owner?_lettingGo] at hc
    rw [hscope] at hn
    rw [link_lettingGo]
    refine h.unheld c hc (fun hm ↦ hn (List.mem_filter.2 ⟨hm, ?_⟩)) (by simp)
    simpa using hf
  · rw [hscope, hslots]
    exact h.nextSlot
  · rw [hscope, hintervals]
    exact h.nextInterval
  · rw [InRange, hslots, hintervals] at hr
    have hnodup : (w.scope me).desk.workers.Nodup := by
      rw [h.held]
      exact (hs.fits me).nodup.filter _
    rw [World.listening, hscope, hslots, hintervals]
    simp only [link_lettingGo]
    have he : Exact (w.link id).outbox.callback.toList ((w.link me).inbox.callback.toList ++
        ((w.scope me).desk.workers.filter (· != id)).filterMap fun c ↦ (w.link c).outbox.callback)
        (w.scope me).desk (w.scope me).timers (w.slotsGiven me) (w.intervalsGiven me) := by
      refine (h.exact hr).move (List.Perm.trans ?_ (List.perm_append_comm_assoc _ _ _))
      exact (perm_filterMap (f := fun c ↦ (w.link c).outbox.callback) hnodup hid).append_left _
    exact ⟨he.slots, he.nodup, he.issued, he.distinct, he.started⟩

/-- While a context waits nothing in its books changes. -/
theorem untouched_of_frames {ids : List WorkerId} (hown : ∀ id ∈ ids, w.owner? id = some me)
    (hf : Frames ids w w') : Untouched me w w' := by
  induction hf with
  | refl => exact untouched_of_alike (alike_of_same ⟨rfl, rfl, rfl⟩ rfl)
  | tail hp hf ih =>
    obtain ⟨hs₁, -, id, hid, hf⟩ := hf
    have ho := (Frames.passage hp).owner? (hown id hid)
    exact ih.trans (untouched_of_apart (Upkeep.apart_of_owner hs₁ ho hf))

/-- To dismiss a registered worker is to strike it off and bring it to its end. -/
theorem run_dismiss {finish : WorkerId → Run (World κ) Unit} (hs : w.Shape)
    (hid : id ∈ (w.scope me).kids) :
    dismiss finish me id w = Order.bring finish me [id] (w.unregister me [id]) := by
  have hrun : terminateKid finish me id w =
      (Order.bring finish me [id] >>= fun _ ↦ pure true) (w.unregister me [id]) := by
    rw [Order.run_terminateKid hs, if_pos (by simpa using hid)]
  rw [dismiss]
  cases hb : Order.bring finish me [id] (w.unregister me [id]) with
  | ok a w' =>
    rw [run_bind_ok hb] at hrun
    rw [run_bind_ok hrun]
    rfl
  | error e w' =>
    rw [run_bind_error hb] at hrun
    rw [run_bind_error hrun]

section Dismissed

theorem spent_lettingGo (h : Working [] [] me w) : (books.spent me).inv (lettingGo w me id) := by
  have hdesk : Keeps (Order.quiet me) ((deskPlace me).update (·.letGo id) : Run (World κ) Unit) :=
    Order.keeps_desk fun d c hc ↦ (List.mem_filter.1 hc).1
  exact ⟨((hdesk w).ok h.order rfl).1, h.others.besides (besides_setScope _)⟩

variable (hfin : books.regime.Brings (step engine n)) (h : Working [] [] me w)
  (hid : id ∈ (w.scope me).desk.workers)
include h hid

theorem run_dismiss_lettingGo {finish : WorkerId → Run (World κ) Unit} :
    dismiss finish me id (lettingGo w me id) =
      Order.bring finish me [id] ((lettingGo w me id).unregister me [id]) := by
  refine run_dismiss (spent_lettingGo h).1.1 ?_
  rw [lettingGo, deskPlace_modify, scope_setScope_self h.order.2.hasScope]
  rw [h.kept.held] at hid
  exact (List.mem_filter.1 hid).1

theorem owned_lettingGo : ∀ c ∈ [id], (lettingGo w me id).owner? c = some me := by
  intro c hc
  rw [List.mem_singleton.1 hc, lettingGo, deskPlace_modify, owner?_setScope]
  exact (h.order.1.fits me).held id hid

include hfin

/-- A worker has been let go of, terminated and waited for, and its callback is still registered. -/
theorem Working.dismissed {u : Unit}
    (hx : dismiss (step engine n) me id (lettingGo w me id) = .ok u w') :
    (Working (w.link id).outbox.callback.toList [id] me w' ∧ Own me w w') ∧
      w'.owner? id = some me ∧ id ∉ (w'.scope me).desk.workers ∧
      (w'.link id).outbox.callback = (w.link id).outbox.callback := by
  rw [run_dismiss_lettingGo h hid] at hx
  have hspent : (books.spent me).inv (lettingGo w me id) := spent_lettingGo h
  have hown := owned_lettingGo h hid
  have hb := Upkeep.allows_bring hfin hspent hown
  rw [hx] at hb
  have hi₁ := Order.waiting_inv_unregister hspent.1 hown
  have hfr := ((Order.keeps_bring_waiting ((Order.lawful engine).brings_step n) _).ok hi₁ hx).2.1
  have hu := untouched_of_frames hi₁.2 hfr
  have howner : w'.owner? id = some me := hfr.passage.owner? (hi₁.2 id (by simp))
  have hown₁ : Own me w ((lettingGo w me id).unregister me [id]) := by
    refine ⟨?_, fun _ p hp ↦ .inl ?_⟩
    · simp only [intervalsGiven, journal_lettingGo, Nat.le_refl]
    · rwa [scope_lettingGo h.order.2] at hp
  refine ⟨⟨⟨hb.1.1, hb.1.2, ?_⟩, hown₁.trans hu.own⟩, howner, ?_, ?_⟩
  · exact (kept_lettingGo h.order.1 h.order.2 h.kept hid).untouched hu
  · rw [hu.desk, scope_lettingGo h.order.2]
    simp [Desk.letGo]
  · rw [hu.outbox id (.inl howner), link_lettingGo]

/-- Retiring a worker keeps the books: the slot in hand is returned at the end. -/
theorem keepsAt_retire :
    KeepsAt (books.quiet me) (do
      (deskPlace me).update (·.letGo id)
      dismiss (step engine n) me id
      let old ← exchange (boxPlace id .outbox) none
      (deskPlace me).update (·.forget old)) w := by
  have howner := (h.order.1.fits me).held id hid
  have horder := Order.keepsAt_retire ((Order.lawful engine).brings_step n) howner
  refine horder.both (fun _ _ _ w' hx _ _ ↦ ?_) fun _ _ e w' hx hb ↦ ?_
  · obtain ⟨_, w₁, h₁, hx⟩ := of_run_bind_ok hx
    cases h₁
    obtain ⟨_, w₂, h₂, hx⟩ := of_run_bind_ok hx
    obtain ⟨⟨hk₂, ho₂⟩, howner₂, hlet, hcb⟩ := Working.dismissed hfin h hid h₂
    obtain ⟨old, w₃, h₃, hx⟩ := of_run_bind_ok hx
    obtain ⟨⟨hk₃, ho₃⟩, hold⟩ := hk₂.silence howner₂ hlet h₃
    rw [← hcb, ← hold, ← List.append_nil old.toList] at hk₃
    obtain ⟨hk₄, ho₄⟩ := hk₃.forget hx
    exact ⟨⟨hk₄.others, fun _ ↦ hk₄.kept⟩, (ho₂.trans ho₃).trans ho₄⟩
  · cases e with
    | panic => exact hb.elim
    | exhausted => trivial
    | endless p =>
      -- only the worker that is waited for can go on for ever
      have hspent : (books.spent me).inv (lettingGo w me id) := spent_lettingGo h
      have hbring := Upkeep.allows_bring hfin hspent (owned_lettingGo h hid)
      rw [← run_dismiss_lettingGo h hid] at hbring
      change (dismiss (step engine n) me id >>= _) (lettingGo w me id) = _ at hx
      cases h₂ : dismiss (step engine n) me id (lettingGo w me id) with
      | ok u w₂ =>
        rw [run_bind_ok h₂] at hx
        cases hx
      | error e₂ w₂ =>
        rw [run_bind_error h₂] at hx
        cases hx
        rw [h₂] at hbring
        exact hbring.2

end Dismissed

end Retire

end Books

end ScriptWorkers
