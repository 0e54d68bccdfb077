import ScriptWorkers.Proofs.Handover
import ScriptWorkers.Proofs.Register.Turnover
import ScriptWorkers.Proofs.Termination

/-!
# Pumps

A pump goes over the workers that are registered when it starts.  The callbacks that it invokes may
terminate some of them, spawn others and change every handler, so what a pump does depends on what
has become of each worker when its turn comes.

* `Drained` is what a drain of the outbox of a worker does, message by message.
* `Visits` is one `Visit` after the other: who has been told to end is passed over, the
  others are drained.
* Whatever the callbacks do, a pump that comes to its end is such a series of visits
  (`visits_of_pumpAll`), and the callbacks change the register only by what they ask for
  (`Visits.turnover`).
-/

namespace ScriptWorkers

open World Mailbox

variable {κ : Type}

/-! ## Visits -/

/-- What a drain of the outbox of the worker `id` into the context `me` does.  Without a callback it
does nothing; otherwise messages are handed over for as long as a callback is registered.  It does
not matter whether the worker is told to end meanwhile. -/
inductive Drained (c : Callee (World κ)) (me id : WorkerId) (w : World κ) :
    List (Handover (World κ)) → World κ → Prop where
  | unheard (callback : (w.link id).outbox.callback = none) :
    Drained c me id w [] ((w.noted (.began me id .outbox)).noted (.ended me id .outbox []))
  | heard {given : List (Handover (World κ))} {w₁ : World κ}
    (callback : (w.link id).outbox.callback ≠ none)
    (handed : Handed (boxPlace id .outbox) (noting c me (.mail id .outbox))
      (w.noted (.began me id .outbox)) given w₁)
    (messages : given.map (·.message) = (w.link id).outbox.items.take given.length)
    (stopped : given.length < (w.link id).outbox.items.length →
    (w₁.link id).outbox.callback = none) :
    Drained c me id w given (((boxPlace id .outbox).modify (·.settle given.length) w₁).noted
      (.ended me id .outbox ((w.link id).outbox.items.take given.length)))

/-- The turn of a worker in a pump. -/
structure Visit (κ : Type) where
  id : WorkerId
  /-- The world when its turn comes. -/
  world : World κ
  /-- What is handed over. -/
  given : List (Handover (World κ))

/-- A worker that has been told to end is passed over; the messages of any other are drained. -/
inductive Visits (c : Callee (World κ)) (me : WorkerId) : World κ → List (Visit κ) → World κ →
    Prop where
  | done (w : World κ) : Visits c me w [] w
  | passed {w w' : World κ} {id : WorkerId} {rest : List (Visit κ)}
    (terminated : (w.link id).terminated = true) (next : Visits c me w rest w') :
    Visits c me w (⟨id, w, []⟩ :: rest) w'
  | served {w w₁ w' : World κ} {id : WorkerId} {given : List (Handover (World κ))}
      {rest : List (Visit κ)}
    (terminated : (w.link id).terminated = false) (drained : Drained c me id w given w₁)
    (next : Visits c me w₁ rest w') : Visits c me w (⟨id, w, given⟩ :: rest) w'

/-- How many messages have been handed over. -/
def handedOver : List (Visit κ) → Nat
  | [] => 0
  | v :: rest => v.given.length + handedOver rest

section Runs

variable {c : Callee (World κ)} {w w' : World κ} {id me : WorkerId} {n : Nat}

/-- A drain of an outbox that comes to its end. -/
theorem drained_of_drainBox (h : drainBox c me id .outbox w = .ok n w') :
    ∃ given, Drained c me id w given w' ∧ given.length = n := by
  change (drain (boxPlace id .outbox) (noting c me (.mail id .outbox)) >>= fun n ↦
    record (.ended me id .outbox ((w.link id).outbox.items.take n)) >>= fun _ ↦ pure n)
      (w.noted (.began me id .outbox)) = .ok n w' at h
  cases hcb : (w.link id).outbox.callback with
  | none =>
    rw [run_bind_ok (run_drain_none hcb)] at h
    cases h
    exact ⟨[], .unheard hcb, rfl⟩
  | some slot =>
    obtain ⟨k, w₂, hdrain, h⟩ := of_run_bind_ok h
    rw [run_drain_some hcb] at hdrain
    obtain ⟨k', w₁, hwalk, hsettle⟩ := of_run_bind_ok hdrain
    obtain ⟨given, hgiven, rfl, hmessages, hstop⟩ := handed_of_walk hwalk
    cases hsettle
    cases h
    exact ⟨given, .heard (by rw [hcb]; simp) hgiven hmessages hstop, rfl⟩

/-- **A pump is a series of visits.**  By induction on the workers. -/
theorem visits_of_pumpAll : ∀ {ids : List WorkerId} {w : World κ} {n : Nat},
    pumpAll c me ids w = .ok n w' →
    ∃ visits, Visits c me w visits w' ∧ visits.map (·.id) = ids ∧ handedOver visits = n
  | [], w, n, h => by
    cases h
    exact ⟨[], .done _, rfl, rfl⟩
  | id :: rest, w, n, h => by
    rw [pumpAll] at h
    obtain ⟨k, w₁, hone, h⟩ := of_run_bind_ok h
    obtain ⟨m, w₂, hrest, h⟩ := of_run_bind_ok h
    cases h
    obtain ⟨visits, hvisits, hids, rfl⟩ := visits_of_pumpAll hrest
    rw [pumpOne, run_read_bind] at hone
    have hlink : (linkPlace id).get w = w.link id := rfl
    cases ht : (w.link id).terminated with
    | true =>
      rw [hlink, ht, if_pos rfl] at hone
      cases hone
      exact ⟨⟨id, w, []⟩ :: visits, .passed ht hvisits, by rw [List.map_cons, hids], rfl⟩
    | false =>
      rw [hlink, ht, if_neg Bool.false_ne_true] at hone
      obtain ⟨given, hgiven, rfl⟩ := drained_of_drainBox hone
      exact ⟨⟨id, w, given⟩ :: visits, .served ht hgiven hvisits, by rw [List.map_cons, hids], rfl⟩

/-- The visits up to a turn, and those from then on. -/
theorem Visits.split {v : Visit κ} {after : List (Visit κ)} :
    ∀ {before : List (Visit κ)} {w : World κ}, Visits c me w (before ++ v :: after) w' →
    Visits c me w before v.world ∧ Visits c me v.world (v :: after) w'
  | [], w, h => by
    have hw : v.world = w := by cases h <;> rfl
    rw [hw]
    exact ⟨.done w, h⟩
  | u :: before, w, h => by
    cases h with
    | passed ht next =>
      obtain ⟨h₁, h₂⟩ := Visits.split next
      exact ⟨.passed ht h₁, h₂⟩
    | served ht hd next =>
      obtain ⟨h₁, h₂⟩ := Visits.split next
      exact ⟨.served ht hd h₁, h₂⟩

end Runs

/-! ## Turnover in a pump -/

/-- What is asked for by the callback of the context `me` that gets a message of the worker `id`;
nobody gets a message that cannot be read. -/
def Mailbox.Handover.requests (engine : Engine κ) (finish : WorkerId → Run (World κ) Unit)
    (me id : WorkerId) (h : Handover (World κ)) : List (World κ × Request) :=
  match h.message.decode with
  | .ok v => (h.state.noted (.called me (.mail id .outbox) h.slot
      ((h.state.scope me).desk.function? h.slot) [.obj [("data", v)]])).requests engine finish me
      h.slot [.obj [("data", v)]]
  | .error _ => []

/-- What the callbacks of the context `me` ask for during visits. -/
def asked (engine : Engine κ) (finish : WorkerId → Run (World κ) Unit) (me : WorkerId)
    (visits : List (Visit κ)) : List (World κ × Request) :=
  visits.flatMap fun v ↦ v.given.flatMap (·.requests engine finish me v.id)

section Turnovers

variable {engine : Engine κ} {n : Nat} {w w' : World κ} {id me : WorkerId}

theorem Turnover.noted {d : Deed} (hi : (Order.quiet me).inv w) (hd : d.about = me) :
    Turnover me [] [] [] w (w.noted d) :=
  .of_keeps hi (Order.quiet_of_still (Order.keepsAt_record (hd ▸ .refl w _)))
    (Mute.keeps_record d w) rfl

theorem Turnover.log {cause : Cause} {line : LogLine} {u : Unit} (hi : (Order.quiet me).inv w)
    (h : (noting (callee engine (step engine n) me) me cause).log line w = .ok u w') :
    Turnover me [] [] [] w w' := by
  have hnoted : Turnover me [] [] [] w (w.noted (.logged me cause line)) := .noted hi rfl
  exact hnoted.trans (.of_keeps hnoted.inv (Order.keeps_note _ _) (Mute.keeps_note _ _) h)

/-- An invocation changes the register by what its callback asks for. -/
theorem Turnover.call {cause : Cause} {slot : Slot} {args : List Json} {r : Except ScriptError Unit}
    (hi : (Order.quiet me).inv w)
    (h : (noting (callee engine (step engine n) me) me cause).call slot args w = .ok r w') :
    let w₀ := w.noted (.called me cause slot ((w.scope me).desk.function? slot) args)
    Turnover me [] (dismissals me (w₀.requests engine (step engine n) me slot args))
      (recruits (w₀.requests engine (step engine n) me slot args)) w w' := by
  have hnoted : Turnover me [] [] [] w
      (w.noted (.called me cause slot ((w.scope me).desk.function? slot) args)) := .noted hi rfl
  exact hnoted.trans (turnover_call hnoted.inv h)

/-- What changes about the register while messages are handed over. -/
theorem turnover_handed {given : List (Handover (World κ))}
    (h : Handed (boxPlace id .outbox)
      (noting (callee engine (step engine n) me) me (.mail id .outbox)) w given w')
    (hi : (Order.quiet me).inv w) :
    Turnover me [] (dismissals me (given.flatMap (·.requests engine (step engine n) me id)))
      (recruits (given.flatMap (·.requests engine (step engine n) me id))) w w' := by
  induction h with
  | done w => exact .refl hi
  | @delivered w w₁ _ slot m v rest _ hm hinvoked _ ih =>
    have hfirst : Turnover me []
        (dismissals me (Handover.requests engine (step engine n) me id ⟨w, slot, m⟩))
        (recruits (Handover.requests engine (step engine n) me id ⟨w, slot, m⟩)) w w₁ := by
      rw [Handover.requests, hm]
      cases hinvoked with
      | returned hcall => exact .call hi hcall
      | failed hcall hlog =>
        have ht := Turnover.call hi hcall
        simpa using ht.trans (.log ht.inv hlog)
    rw [List.flatMap_cons, dismissals, recruits, List.flatMap_append, List.flatMap_append]
    exact hfirst.trans (ih hfirst.inv)
  | @dropped w w₁ _ slot m e rest _ hm hlogged _ ih =>
    have hfirst : Turnover me [] [] [] w w₁ := .log hi hlogged
    rw [List.flatMap_cons, Handover.requests, hm]
    exact hfirst.trans (ih hfirst.inv)

/-- Removing what was handed over drains the outbox and changes nothing else. -/
theorem Turnover.settle (hi : (Order.quiet me).inv w) (hid : w.owner? id = some me) (k : Nat) :
    Turnover me [id] [] [] w ((boxPlace id .outbox).modify (·.settle k) w) := by
  obtain ⟨hi', hr⟩ := (Order.keepsAt_settle (.inr ⟨hid, rfl⟩) k).ok hi rfl
  refine ⟨hi'.1, hi'.2, hr.1.toPassage, ?_, by simp, by simp, fun c _ hc ↦ ?_⟩
  · rw [boxPlace_modify, scope_setLink, Turnover.filter_not_mem_nil, List.filter_nil,
      List.append_nil]
  · rw [boxPlace_modify,
      link_setLink_ne fun heq ↦ hc (by rw [heq]; exact List.mem_singleton_self id)]

/-- The first `k` messages are gone. -/
theorem items_settle (hs : w.Shape) (hid : w.owner? id = some me) (k : Nat) :
    ((((boxPlace id .outbox).modify (·.settle k) w)).link id).outbox.items =
      (w.link id).outbox.items.drop k := by
  obtain ⟨x, hx, -⟩ := owner?_eq_some_iff.1 hid
  have hwaiting : (w.link id).outbox.waiting = [] := by
    rw [link_of_worker? hx]
    exact (hs.workers id x hx).waiting .outbox
  rw [boxPlace_modify, link_setLink_self hx]
  change (w.link id).outbox.items.drop k ++ (w.link id).outbox.waiting = _
  rw [hwaiting, List.append_nil]

/-- What changes about the register during a drain.  The messages that have been handed over are
gone from the outbox, and the others are still there. -/
theorem Drained.turnover {given : List (Handover (World κ))}
    (h : Drained (callee engine (step engine n) me) me id w given w') (hi : (Order.quiet me).inv w)
    (hid : w.owner? id = some me) :
    Turnover me [id] (dismissals me (given.flatMap (·.requests engine (step engine n) me id)))
      (recruits (given.flatMap (·.requests engine (step engine n) me id))) w w' ∧
    (w'.link id).outbox.items = (w.link id).outbox.items.drop given.length := by
  have hbegan : Turnover me [] [] [] w (w.noted (.began me id .outbox)) := .noted hi rfl
  cases h with
  | unheard callback =>
    have hended := hbegan.trans (.noted (d := .ended me id .outbox []) hbegan.inv rfl)
    exact ⟨{ hended with items := fun c hc _ ↦ hended.items c hc (by simp) }, rfl⟩
  | @heard _ w₁ callback handed messages stopped =>
    have hgiven := hbegan.trans (turnover_handed handed hbegan.inv)
    have hid₁ := hgiven.passage.owner? hid
    have hsettled := hgiven.trans (.settle hgiven.inv hid₁ given.length)
    have hended := hsettled.trans (.noted (d := .ended me id .outbox
      ((w.link id).outbox.items.take given.length)) hsettled.inv rfl)
    refine ⟨by simpa using hended, ?_⟩
    have hitems := items_settle hgiven.shape hid₁ given.length
    rw [hgiven.items id hid (by simp)] at hitems
    exact hitems

/-- **What changes about the register during visits.** -/
theorem Visits.turnover {visits : List (Visit κ)}
    (h : Visits (callee engine (step engine n) me) me w visits w') (hi : (Order.quiet me).inv w)
    (hown : ∀ v ∈ visits, w.owner? v.id = some me) :
    Turnover me (visits.map (·.id)) (dismissals me (asked engine (step engine n) me visits))
      (recruits (asked engine (step engine n) me visits)) w w' := by
  induction h with
  | done w => exact .refl hi
  | @passed w w' id rest ht next ih =>
    have hrest := ih hi fun v hv ↦ hown v (List.mem_cons_of_mem _ hv)
    exact { hrest with items := fun c hc hnot ↦ hrest.items c hc fun hmem ↦ hnot (by simp [hmem]) }
  | @served w w₁ w' id given rest ht hd next ih =>
    have hfirst := (hd.turnover hi (hown _ List.mem_cons_self)).1
    have hrest := ih hfirst.inv fun v hv ↦
      hfirst.passage.owner? (hown v (List.mem_cons_of_mem _ hv))
    rw [asked, List.flatMap_cons, dismissals, recruits, List.flatMap_append, List.flatMap_append]
    exact hfirst.trans hrest

/-- Each worker has lost the messages that have been handed over at its turn, and no other. -/
theorem Visits.items {visits : List (Visit κ)}
    (h : Visits (callee engine (step engine n) me) me w visits w') (hi : (Order.quiet me).inv w)
    (hown : ∀ v ∈ visits, w.owner? v.id = some me) (hnodup : (visits.map (·.id)).Nodup) :
    ∀ v ∈ visits, (w'.link v.id).outbox.items = (w.link v.id).outbox.items.drop v.given.length := by
  induction h with
  | done w => simp
  | @passed w w' id rest ht next ih =>
    rw [List.map_cons, List.nodup_cons] at hnodup
    have hown' (v : Visit κ) (hv : v ∈ rest) := hown v (List.mem_cons_of_mem _ hv)
    rw [List.forall_mem_cons]
    refine ⟨?_, ih hi hown' hnodup.2⟩
    exact (next.turnover hi hown').items id (hown _ List.mem_cons_self) hnodup.1
  | @served w w₁ w' id given rest ht hd next ih =>
    rw [List.map_cons, List.nodup_cons] at hnodup
    have hid := hown _ List.mem_cons_self
    obtain ⟨hfirst, hitems⟩ := hd.turnover hi hid
    have hown' (v : Visit κ) (hv : v ∈ rest) : w₁.owner? v.id = some me :=
      hfirst.passage.owner? (hown v (List.mem_cons_of_mem _ hv))
    rw [List.forall_mem_cons]
    constructor
    · have hrest := next.turnover hfirst.inv hown'
      rw [hrest.items id (hfirst.passage.owner? hid) hnodup.1, hitems]
    · intro v hv
      have hne : v.id ≠ id := fun heq ↦ hnodup.1 (List.mem_map.2 ⟨v, hv, heq⟩)
      rw [ih hfirst.inv hown' hnodup.2 v hv,
        hfirst.items v.id (hown v (List.mem_cons_of_mem _ hv)) (by simpa using hne)]

/-- Who has been terminated by an earlier callback is passed over. -/
theorem Visits.passed_of_dismissed {visits before after : List (Visit κ)} {v : Visit κ}
    (h : Visits (callee engine (step engine n) me) me w visits w') (hi : (Order.quiet me).inv w)
    (hown : ∀ v ∈ visits, w.owner? v.id = some me) (heq : visits = before ++ v :: after)
    (hv : v.id ∈ dismissals me (asked engine (step engine n) me before)) :
    (v.world.link v.id).terminated = true ∧ v.given = [] := by
  subst heq
  obtain ⟨hbefore, hrest⟩ := h.split
  have ht := hbefore.turnover hi fun u hu ↦ hown u (List.mem_append_left _ hu)
  obtain ⟨k, hk, hterminated⟩ := ht.flagged v.id hv
  have hlink : (v.world.link v.id).terminated = true := by rw [link_of_worker? hk, hterminated]
  refine ⟨hlink, ?_⟩
  obtain ⟨id, world, given⟩ := v
  cases hrest with
  | passed => rfl
  | served hserved =>
    rw [hlink] at hserved
    cases hserved

end Turnovers

/-! ## Pumps that are broken off -/

/-- A computation can only be broken off by a call of the context. -/
def unlessCall (c : Callee (World κ)) : Guarantee (World κ) where
  inv _ := True
  rel _ _ := True
  broken e _ w' := ∃ slot args w₁, c.call slot args w₁ = .error e w'
  refl _ := trivial
  trans _ _ _ _ := trivial
  after _ _ _ h := h

section Broken

variable {engine : Engine κ} {finish : WorkerId → Run (World κ) Unit} {me : WorkerId}

theorem unlessCall_of_ok {c : Callee (World κ)} {α : Type} {y : Run (World κ) α}
    (h : ∀ w, ∃ a w', y w = .ok a w') : Keeps (unlessCall c) y := by
  intro w _
  obtain ⟨a, w', hw⟩ := h w
  rw [hw]
  exact ⟨trivial, trivial⟩

/-- Reporting and putting down are never broken off. -/
theorem noting_unlessCall (engine : Engine κ) (finish : WorkerId → Run (World κ) Unit)
    (me : WorkerId) (cause : Cause) :
    (noting (callee engine finish me) me cause).KeepsAll
      (unlessCall (callee engine finish me)) where
  call slot args _ := keepsAt_iff.2 fun _ ↦
    ⟨fun _ _ _ ↦ ⟨trivial, trivial⟩, fun _ _ h ↦ ⟨slot, args, _, h⟩⟩
  log _ := unlessCall_of_ok fun _ ↦ ⟨_, _, rfl⟩

theorem keeps_drainBox_unlessCall (id : WorkerId) : Keeps (unlessCall (callee engine finish me))
    (drainBox (callee engine finish me) me id .outbox) := by
  have hn := noting_unlessCall engine finish me (.mail id .outbox)
  have hrecord (d : Deed) : Keeps (unlessCall (callee engine finish me)) (record d) :=
    unlessCall_of_ok fun _ ↦ ⟨_, _, rfl⟩
  refine keeps_drainBox_of_drain (hrecord _) ?_ fun _ ↦ hrecord _
  exact keeps_drain hn.log (fun w slot args _ ↦ hn.call slot args w) fun _ ↦
    unlessCall_of_ok fun _ ↦ ⟨_, _, rfl⟩

theorem keeps_pumpAll_unlessCall : ∀ ids, Keeps (unlessCall (callee engine finish me))
    (pumpAll (callee engine finish me) me ids) :=
  keeps_pumpAll_of_pumpOne fun id ↦ keeps_pumpOne_of_drainBox (keeps_drainBox_unlessCall id)

end Broken

/-! ## Whom a pump serves -/

/-- **A pump serves the workers that are registered when it starts.**  Take any context in any world
in shape, with callbacks that may ask for whatever they like: terminate workers, also the one that
is being drained, spawn workers, change handlers.  Unless the context is broken off in a callback,
the pump visits the registered workers one after the other.  It passes over those who have been told
to end and drains the others.  It returns the number of messages that have been handed over.  Then

* from each outbox the messages that were handed over are gone, and nothing else has happened to it;
* who has been terminated by an earlier callback has been passed over;
* nobody is visited who has been spawned meanwhile;
* the register holds those who were there at the start, without those who have been terminated, and
  then those who have been spawned and not terminated. -/
theorem pump_serves_registered_workers (engine : Engine κ) (n : Nat) (me : WorkerId) (w : World κ)
    (hs : w.Shape) :
    (∃ visits w',
      Visits (callee engine (step engine n) me) me w visits w' ∧
      visits.map (·.id) = (w.scope me).kids ∧
      pump (callee engine (step engine n) me) me w = .ok (handedOver visits) w' ∧
      (∀ v ∈ visits,
        (w'.link v.id).outbox.items = (w.link v.id).outbox.items.drop v.given.length) ∧
      (∀ before v after, visits = before ++ v :: after →
        v.id ∈ dismissals me (asked engine (step engine n) me before) →
        (v.world.link v.id).terminated = true ∧ v.given = []) ∧
      (∀ id ∈ recruits (asked engine (step engine n) me visits), id ∉ visits.map (·.id)) ∧
      (w'.scope me).kids =
        (w.scope me).kids.filter (· ∉ dismissals me (asked engine (step engine n) me visits)) ++
        (recruits (asked engine (step engine n) me visits)).filter
          (· ∉ dismissals me (asked engine (step engine n) me visits))) ∨
    ∃ e w' slot args w₁, pump (callee engine (step engine n) me) me w = .error e w' ∧
      (callee engine (step engine n) me).call slot args w₁ = .error e w' := by
  have hkids := (hs.fits me).kids
  have hrun : pump (callee engine (step engine n) me) me w =
      pumpAll (callee engine (step engine n) me) me (w.scope me).kids w := rfl
  rw [hrun]
  cases hpump : pumpAll (callee engine (step engine n) me) me (w.scope me).kids w with
  | error e w' =>
    obtain ⟨slot, args, w₁, hcall⟩ :=
      (keeps_pumpAll_unlessCall (w.scope me).kids w).error trivial hpump
    exact .inr ⟨e, w', slot, args, w₁, rfl, hcall⟩
  | ok count w' =>
    obtain ⟨visits, hvisits, hids, rfl⟩ := visits_of_pumpAll hpump
    refine .inl ⟨visits, w', hvisits, hids, rfl, ?_⟩
    cases hnil : (w.scope me).kids with
    | nil =>
      rw [hnil, List.map_eq_nil_iff] at hids
      subst hids
      cases hvisits
      exact ⟨by simp, by simp, by simp [asked, recruits], by simpa [asked, recruits] using hnil⟩
    | cons first others =>
      rw [← hnil]
      have hi : (Order.quiet me).inv w :=
        ⟨hs, awake_of_kid hs (by rw [hnil]; exact List.mem_cons_self)⟩
      have hown (v : Visit κ) (hv : v ∈ visits) : w.owner? v.id = some me :=
        hkids v.id (hids ▸ List.mem_map_of_mem hv)
      have hturnover := hvisits.turnover hi hown
      refine ⟨hvisits.items hi hown (hids ▸ (hs.fits me).nodup),
        fun _ _ _ ↦ hvisits.passed_of_dismissed hi hown, fun id hid hmem ↦ ?_, hturnover.kids⟩
      obtain ⟨k, hk, -⟩ := owner?_eq_some_iff.1 (hkids id (hids ▸ hmem))
      rw [hturnover.fresh id hid] at hk
      cases hk

/-! ## A kitchen -/

/-- A context that terminates its second worker, spawns another one and changes a handler for the
first message of its first worker, and terminates the first worker for the next ones. -/
def chef : Engine Unit where
  create _ := .ok ()
  execute _ _ _ := .done ((), .done)
  call _ slot _ :=
    if slot = 1 then .ask (.terminate 2) fun _ ↦ .ask (.spawn "dish") fun _ ↦
      .ask (.listenTo 1 (some 2)) fun _ ↦ .done ((), .done)
    else if slot = 2 then .ask (.terminate 1) fun _ ↦ .done ((), .done)
    else .done ((), .done)
  depth := 4

/-- A worker of the root that has posted messages. -/
def cook (id : WorkerId) (items : List Message) (callback : Slot) : Worker Unit :=
  { owner := 0, script := "dish", link := { id, outbox := { items, callback := some callback } } }

/-- Three workers, and a script for more of them. -/
def kitchen : World Unit where
  root := some { context := some (), kids := [1, 2, 3] }
  workers := [cook 1 [⟨"1"⟩, ⟨"2"⟩, ⟨"3"⟩] 1, cook 2 [⟨"4"⟩] 3, cook 3 [⟨"5"⟩] 3]
  loader := .shelf ⟨[("dish", .text "")]⟩

theorem fits_cook (w : World Unit) {c id : WorkerId} (hc : 0 < c) (items : List Message)
    (callback : Slot) : (cook id items callback).Fits w c where
  owner := hc
  scope := ⟨by simp [cook], List.nodup_nil, by simp [cook]⟩
  rest h := by cases h
  closed side := by cases side <;> rfl
  waiting side := by cases side <;> rfl

theorem shape_kitchen : kitchen.Shape where
  root := ⟨by decide, by decide, by decide⟩
  workers c k hk := by
    match c with
    | 0 => cases hk
    | 1 | 2 | 3 =>
      cases hk
      exact fits_cook _ (by decide) _ _
    | n + 4 => cases hk
  handles := by decide

/-- All messages of the first worker are handed over, also after it has been terminated, the second
one is passed over, and the new one is not visited. -/
theorem kitchen_pumped : kitchen.Shape ∧ ∃ visits w',
    Visits (callee chef (step chef 4) 0) 0 kitchen visits w' ∧
    visits.map (·.id) = [1, 2, 3] ∧
    pump (callee chef (step chef 4) 0) 0 kitchen = .ok 4 w' ∧
    (w'.link 1).outbox.items = [] ∧ (w'.link 2).outbox.items = [⟨"4"⟩] ∧
    (w'.scope 0).kids = [3, 4] := by
  obtain ⟨w₁, hpump, hkids, hfirst, hsecond⟩ : ∃ w₁,
      pump (callee chef (step chef 4) 0) 0 kitchen = .ok 4 w₁ ∧ (w₁.scope 0).kids = [3, 4] ∧
      (w₁.link 1).outbox.items = [] ∧ (w₁.link 2).outbox.items = [⟨"4"⟩] := ⟨_, rfl, rfl, rfl, rfl⟩
  refine ⟨shape_kitchen, ?_⟩
  rcases pump_serves_registered_workers chef 4 0 kitchen shape_kitchen with
    ⟨visits, w', hvisits, hids, hrun, -⟩ | ⟨e, w', _, _, _, hrun, -⟩
  · obtain ⟨-, rfl⟩ := EStateM.Result.ok.inj (hrun.symm.trans hpump)
    exact ⟨visits, w', hvisits, hids, hpump, hfirst, hsecond, hkids⟩
  · rw [hpump] at hrun
    cases hrun

end ScriptWorkers
