import ScriptWorkers.Proofs.Register.Mute
import ScriptWorkers.Proofs.Silence.Runs

/-!
# Turnover

Who is registered with a context changes only at the request of the context itself.  A `Turnover`
says who has left the register meanwhile, who has joined it, and whose outboxes have been drained:

* those who are registered in the end are those who were and have not left, in their order, and then
  those who have joined and not left, in the order in which they were spawned;
* who has left has been told to end;
* the messages in the other outboxes are still there.

One turnover after the other is a turnover (`Turnover.trans`), and so is everything that a context
does while it has control: a single request (`turnover_serve`), a whole plan (`turnover_run`), and
the call of a callback (`turnover_call`).
-/

namespace ScriptWorkers

/-! ## What is asked for -/

/-- The requests of a plan, each with the state in which it is served. -/
def Plan.requests {Q : Type} {R : Q → Type} {α σ : Type} (serve : (q : Q) → Run σ (R q)) :
    Plan R α → σ → List (σ × Q)
  | .done _, _ => []
  | .ask q next, s => (s, q) ::
    match serve q s with
    | .ok r s' => (next r).requests serve s'
    | .error _ _ => []

variable {κ : Type}

namespace World

/-- Whom `me` terminates by a request. -/
def dismissed (w : World κ) (me : WorkerId) : Request → List WorkerId
  | .terminate id => if w.owner? id = some me then [id] else []
  | .desk (.retire id) => if (w.scope me).desk.holds id then [id] else []
  | .terminateAll => (w.scope me).kids
  | _ => []

/-- Whom `me` spawns by a request. -/
def recruited (w : World κ) : Request → List WorkerId
  | .spawn script | .desk (.create script) =>
    if w.loader.contains script then [w.workers.length + 1] else []
  | _ => []

/-- Who neither spawns nor terminates leaves the register as it is. -/
theorem dismissed_of_not_staffs (w : World κ) (me : WorkerId) {q : Request} (h : q.staffs = false) :
    w.dismissed me q = [] ∧ w.recruited q = [] := by
  cases q with
  | desk q =>
    cases q with
    | create | retire => cases h
    | _ => exact ⟨rfl, rfl⟩
  | spawn | terminate | terminateAll => cases h
  | _ => exact ⟨rfl, rfl⟩

/-- Whom `me` terminates by requests. -/
def dismissals (me : WorkerId) (qs : List (World κ × Request)) : List WorkerId :=
  qs.flatMap fun x ↦ x.1.dismissed me x.2

/-- Who is spawned by requests. -/
def recruits (qs : List (World κ × Request)) : List WorkerId := qs.flatMap fun x ↦ x.1.recruited x.2

/-- What the context `me` asks for when one of its callbacks is invoked. -/
def requests (engine : Engine κ) (finish : WorkerId → Run (World κ) Unit) (me : WorkerId)
    (slot : Slot) (args : List Json) (w : World κ) : List (World κ × Request) :=
  match (w.scope me).context with
  | none => []
  | some c => (engine.call c slot args).requests (serve finish me) w

end World

open World

/-! ## Changes of the register -/

/-- From one world to another some workers of `me` have been drained, some have left its register,
and some have joined it. -/
structure Turnover (me : WorkerId) (drained gone new : List WorkerId) (w w' : World κ) : Prop where
  shape : w'.Shape
  awake : w'.Awake me
  passage : w.Passage w'
  kids : (w'.scope me).kids = (w.scope me).kids.filter (· ∉ gone) ++ new.filter (· ∉ gone)
  flagged : ∀ id ∈ gone, w'.Flagged id
  fresh : ∀ id ∈ new, w.worker? id = none
  items : ∀ c, w.owner? c = some me → c ∉ drained →
    (w'.link c).outbox.items = (w.link c).outbox.items

namespace Turnover

variable {w w' w'' : World κ} {c id me : WorkerId} {α : Type}
  {drained gone new drained' gone' new' ids : List WorkerId} {engine : Engine κ} {n : Nat}

theorem inv (h : Turnover me drained gone new w w') : (Order.quiet me).inv w' := ⟨h.shape, h.awake⟩

theorem filter_not_mem_nil (xs : List WorkerId) : xs.filter (· ∉ []) = xs :=
  List.filter_eq_self.2 fun _ _ ↦ by simp

theorem refl (hi : (Order.quiet me).inv w) : Turnover me [] [] [] w w where
  shape := hi.1
  awake := hi.2
  passage := .refl w
  kids := by rw [filter_not_mem_nil, List.filter_nil, List.append_nil]
  flagged := by simp
  fresh := by simp
  items _ _ _ := rfl

/-- Who has left before has been there then, so it is none of those who join later. -/
theorem filter_fresh (hgone : ∀ id ∈ gone, w.Flagged id) (hnew : ∀ id ∈ new, w.worker? id = none) :
    new.filter (· ∉ gone) = new := by
  rw [List.filter_eq_self]
  intro id hid
  rw [decide_eq_true_eq]
  intro hmem
  obtain ⟨k, hk, -⟩ := hgone id hmem
  rw [hnew id hid] at hk
  cases hk

theorem filter_not_mem_append (xs : List WorkerId) :
    xs.filter (· ∉ gone ++ gone') = (xs.filter (· ∉ gone)).filter (· ∉ gone') := by
  rw [List.filter_filter]
  refine List.filter_congr fun c _ ↦ ?_
  by_cases h : c ∈ gone <;> by_cases h' : c ∈ gone' <;> simp [h, h']

/-- **One turnover after the other.** -/
theorem trans (h : Turnover me drained gone new w w')
    (h' : Turnover me drained' gone' new' w' w'') :
    Turnover me (drained ++ drained') (gone ++ gone') (new ++ new') w w'' where
  shape := h'.shape
  awake := h'.awake
  passage := h.passage.trans h'.passage
  kids := by
    rw [h'.kids, h.kids, List.filter_append, List.filter_append, filter_not_mem_append,
      filter_not_mem_append, filter_not_mem_append, filter_fresh h.flagged h'.fresh,
      List.append_assoc]
  flagged id hid := by
    rcases List.mem_append.1 hid with hid | hid
    · exact h'.passage.flagged (h.flagged id hid)
    · exact h'.flagged id hid
  fresh id hid := by
    rcases List.mem_append.1 hid with hid | hid
    · exact h.fresh id hid
    · cases hk : w.worker? id with
      | none => rfl
      | some k =>
        have hsome := h.passage.isSome (by rw [hk]; rfl)
        rw [h'.fresh id hid] at hsome
        cases hsome
  items c hc hnot := by
    rw [List.mem_append, not_or] at hnot
    rw [h'.items c (h.passage.owner? hc) hnot.2, h.items c hc hnot.1]

/-- A plain change is a turnover in which nothing turns over. -/
theorem of_plain (hi : (Order.quiet me).inv w) (hi' : (Order.quiet me).inv w') (hp : w.Passage w')
    (h : Plain me w w') : Turnover me [] [] [] w w' where
  shape := hi'.1
  awake := hi'.2
  passage := hp
  kids := by rw [h.kids, filter_not_mem_nil, List.filter_nil, List.append_nil]
  flagged := by simp
  fresh := by simp
  items c hc _ := h.items c (.inl (Nat.ne_of_gt (hi.1.owner_lt hc)))

/-- What is plain and kept in order changes nothing about the register. -/
theorem of_keeps {y : Run (World κ) α} {a : α} (hi : (Order.quiet me).inv w)
    (horder : KeepsAt (Order.quiet me) y w) (hplain : KeepsAt (Mute.plain me) y w)
    (h : y w = .ok a w') : Turnover me [] [] [] w w' := by
  obtain ⟨hi', hr⟩ := horder.ok hi h
  exact .of_plain hi hi' hr.1.toPassage (hplain.ok trivial h).2

/-! ## Terminating workers -/

/-- Siblings are not under each other. -/
theorem not_under_sibling (hs : w.Shape) (hc : w.owner? c = some me) (hid : w.owner? id = some me)
    (hne : c ≠ id) : ¬ w.Under id c := fun hu ↦
  Nat.not_le_of_gt (hs.owner_lt hid) (hs.le_of_under (hu.owner_under hne hc))

/-- Whom `me` has told to end is mute while it is waited for. -/
theorem items_of_bring {u : Unit} (hi : (Order.waiting me ids).inv w)
    (h : Order.bring (step engine n) me ids w = .ok u w') (hc : w.owner? c = some me) :
    (w'.link c).outbox.items = (w.link c).outbox.items := by
  have hfin := (Order.lawful engine).brings_step n
  by_cases hmem : c ∈ ids
  · obtain ⟨_, w₁, h₁, h₂⟩ := of_run_bind_ok h
    have hflag : Keeps (Order.waiting me ids) (flagAll ids : Run (World κ) Unit) :=
      Order.keeps_flagAll fun _ ↦ Order.keeps_flag_waiting
    have hplain : Keeps (Mute.plain me) (flagAll ids : Run (World κ) Unit) :=
      Order.keeps_flagAll fun _ _ ↦ Mute.keeps_flag
    have hmute : w₁.Mute c :=
      (Order.flagged_of_flagAll hi (fun _ h ↦ h) h₁ c hmem).mute ((hflag w).ok hi h₁).1.1.1
    have hjoin : Keeps (Mute.stays c) (joinAll (step engine n) me ids) :=
      Order.keeps_joinAll (fun id _ ↦ keeps_await_of_finish (Mute.keeps_step engine c n id))
        fun _ _ ↦ keeps_logCrash_of_note fun e ↦ Mute.stays_of_plain me (Mute.keeps_note e)
    have hne : c ≠ me := Nat.ne_of_gt (hi.1.1.owner_lt hc)
    exact ((hjoin w₁).ok hmute h₂).2.trans (((hplain w).ok trivial h₁).2.items c (.inl hne))
  · obtain ⟨k, hk, -⟩ := owner?_eq_some_iff.1 hc
    have hframes := ((Order.keeps_bring_waiting hfin w).ok hi h).2.1
    have hk' := hframes.apart hi.1.1 hk fun id hid ↦
      not_under_sibling hi.1.1 hc (hi.2 id hid) fun heq ↦ hmem (heq ▸ hid)
    rw [link_of_worker? hk, link_of_worker? hk']

/-- Workers that are struck off and brought to their ends have left. -/
theorem bring {u : Unit} (hi : (Order.quiet me).inv w) (hown : ∀ id ∈ ids, w.owner? id = some me)
    (h : Order.bring (step engine n) me ids (w.unregister me ids) = .ok u w') :
    Turnover me [] ids [] w w' := by
  have hfin := (Order.lawful engine).brings_step n
  have hi₁ := Order.waiting_inv_unregister hi hown
  obtain ⟨hi', hr⟩ := (Order.keeps_bring_waiting hfin _).ok hi₁ h
  refine ⟨hi'.1.1, hi'.1.2, ?_, ?_, fun id hid ↦ ?_, by simp, fun c hc _ ↦ ?_⟩
  · exact (Frame.setScope hi.2).toPassage.trans hr.1.passage
  · have hscope : (w.unregister me ids).scope me =
        { w.scope me with kids := (w.scope me).kids.filter (· ∉ ids) } :=
      scope_setScope_self hi.2.hasScope
    rw [hr.1.scope_owner hi₁.1.1 hi₁.2, hscope]
    simp
  · obtain ⟨k, hk, -, ht⟩ := Order.dead_of_bring hfin hi₁ h id hid
    exact ⟨k, hk, ht⟩
  · have hc₁ : (w.unregister me ids).owner? c = some me := (owner?_setScope _).trans hc
    rw [items_of_bring hi₁ h hc₁, World.unregister, link_setScope]

/-- One worker leaves. -/
theorem dismiss {u : Unit} (hi : (Order.quiet me).inv w) (hid : w.owner? id = some me)
    (h : World.dismiss (step engine n) me id w = .ok u w') : Turnover me [] [id] [] w w' := by
  rw [World.dismiss] at h
  obtain ⟨b, w₁, h₁, h₂⟩ := of_run_bind_ok h
  rw [Order.run_terminateKid hi.1] at h₁
  split at h₁
  · obtain ⟨_, w₂, hbring, h₁⟩ := of_run_bind_ok h₁
    cases h₁
    cases h₂
    exact .bring hi (by simpa using hid) hbring
  · -- it is not registered any more, so it is told to end, and that is all
    rename_i hnot
    cases h₁
    have hflag : KeepsAt (Order.quiet me) (flag id >>= fun _ ↦ pure () : Run (World κ) Unit) w :=
      (Order.quiet_of_still (Order.keepsAt_flag (.inr hid))).bind fun _ w₂ _ _ _ ↦
        keepsAt_pure _ _ w₂
    have hplain := of_keeps hi hflag ((Mute.keeps_flag.bind fun _ ↦ keeps_pure _ _) w) h₂
    have hnone : (w.scope me).kids.filter (· ∉ [id]) = (w.scope me).kids := by
      rw [List.filter_eq_self]
      intro c hc
      rw [decide_eq_true_eq, List.mem_singleton]
      rintro rfl
      exact hnot (by simpa using hc)
    refine ⟨hplain.shape, hplain.awake, hplain.passage, ?_, ?_, by simp, hplain.items⟩
    · rw [hplain.kids, hnone]
      simp
    · obtain ⟨_, w₂, hflagged, h₂⟩ := of_run_bind_ok h₂
      cases h₂
      simpa using Order.flagged_of_flag hflagged (worker?_isSome_of_owner? hid)

/-- All workers leave. -/
theorem terminateKids {u : Unit} (hi : (Order.quiet me).inv w)
    (h : World.terminateKids (step engine n) me w = .ok u w') :
    Turnover me [] (w.scope me).kids [] w w' := by
  rw [Order.run_terminateKids] at h
  exact .bring hi (hi.1.fits me).kids h

/-- A worker leaves that was also on the desk. -/
theorem layOff {u : Unit} (hi : (Order.quiet me).inv w) (hid : w.owner? id = some me)
    (h : World.layOff (step engine n) me id w = .ok u w') : Turnover me [] [id] [] w w' := by
  rw [World.layOff] at h
  obtain ⟨_, w₁, h₁, h⟩ := of_run_bind_ok h
  obtain ⟨_, w₂, h₂, h⟩ := of_run_bind_ok h
  obtain ⟨old, w₃, h₃, h₄⟩ := of_run_bind_ok h
  have hletGo (d : Desk) (c : WorkerId) (hc : c ∈ (d.letGo id).workers) : c ∈ d.workers :=
    (List.mem_filter.1 hc).1
  have ht₁ := of_keeps hi (Order.keeps_desk hletGo w) (Mute.keeps_desk _ w) h₁
  have hid₁ := ht₁.passage.owner? hid
  have ht₂ := dismiss ht₁.inv hid₁ h₂
  have hid₂ := ht₂.passage.owner? hid₁
  have ht₃ := of_keeps ht₂.inv (Order.keepsAt_exchange_kid hid₂ none)
    (Mute.keeps_exchange .outbox none w₂) h₃
  have ht₄ := of_keeps ht₃.inv (Order.keeps_forget old w₃) (Mute.keeps_desk _ w₃) h₄
  exact ((ht₁.trans ht₂).trans ht₃).trans ht₄

/-! ## Spawning workers -/

/-- A new worker joins. -/
theorem spawned (hi : (Order.quiet me).inv w) (script : String) :
    Turnover me [] [] [w.workers.length + 1] w (w.spawned me script) := by
  obtain ⟨hi', hr⟩ := Order.spawned_changed hi
  refine ⟨hi'.1, hi'.2, hr.1.toPassage, ?_, by simp, by simpa using worker?_next w, fun c hc _ ↦ ?_⟩
  · have hscope : (w.spawned me script).scope me =
        { w.scope me with kids := (w.scope me).kids ++ [w.workers.length + 1] } :=
      scope_setScope_self (awake_grow hi.2).hasScope
    rw [hscope, filter_not_mem_nil, filter_not_mem_nil]
  · rw [gains_spawned.link c me hc]

theorem created (hi : (Order.quiet me).inv w) (script : String) :
    Turnover me [] [] [w.workers.length + 1] w (w.created me script) := by
  have hspawned := spawned hi script
  have hhold := of_keeps hspawned.inv (Order.keepsAt_hold owner?_spawned) (Mute.keeps_desk _ _) rfl
  exact hspawned.trans hhold

end Turnover

/-! ## What a context does -/

section Contexts

variable {w w' : World κ} {id me : WorkerId} {α : Type} {engine : Engine κ} {n : Nat}

/-- **What a request changes about the register.** -/
theorem turnover_serve {q : Request} {r : q.Reply} (hi : (Order.quiet me).inv w)
    (h : serve (step engine n) me q w = .ok r w') :
    Turnover me [] (w.dismissed me q) (w.recruited q) w w' := by
  have hfin := (Order.lawful engine).brings_step n
  cases hq : q.staffs with
  | false =>
    obtain ⟨hgone, hnew⟩ := dismissed_of_not_staffs w me hq
    rw [hgone, hnew]
    exact .of_keeps hi (Order.keeps_serve hfin q w) (Mute.keeps_serve_of_not_staffs hq w) h
  | true =>
    cases q with
    | spawn script =>
      rw [serve, run_spawn] at h
      change Turnover me [] [] (if w.loader.contains script then [w.workers.length + 1]
        else []) w w'
      split at h
      · rw [if_pos (by assumption)]
        cases h
        exact .spawned hi script
      · rw [if_neg (by assumption)]
        cases h
        exact .refl hi
    | terminate id =>
      change (if w.owner? id = some me then World.dismiss (step engine n) me id else pure ()) w =
        _ at h
      change Turnover me [] (if w.owner? id = some me then [id] else []) [] w w'
      split at h
      · rename_i hid
        rw [if_pos hid]
        exact .dismiss hi hid h
      · rw [if_neg (by assumption)]
        cases h
        exact .refl hi
    | terminateAll => exact .terminateKids hi h
    | desk q =>
      cases q with
      | create script =>
        rw [serve, Silence.run_create] at h
        change Turnover me [] [] (if w.loader.contains script then [w.workers.length + 1]
          else []) w w'
        split at h
        · rw [if_pos (by assumption)]
          cases h
          exact .created hi script
        · rw [if_neg (by assumption)]
          cases h
          exact .refl hi
      | retire id =>
        change (if (w.scope me).desk.holds id then layOff (step engine n) me id >>= fun _ ↦
          record (.retired me id) else pure ()) w = _ at h
        change Turnover me [] (if (w.scope me).desk.holds id then [id] else []) [] w w'
        split at h
        · rename_i hid
          rw [if_pos hid]
          obtain ⟨_, w₁, h₁, h₂⟩ := of_run_bind_ok h
          have ht₁ := Turnover.layOff hi (Order.owner?_of_holds hi hid) h₁
          have hrecord : KeepsAt (Order.quiet me) (record (.retired me id)) w₁ :=
            Order.quiet_of_still (Order.keepsAt_record (.refl w₁ me))
          exact ht₁.trans (.of_keeps ht₁.inv hrecord (Mute.keeps_record _ w₁) h₂)
        · rw [if_neg (by assumption)]
          cases h
          exact .refl hi
      | _ => cases hq
    | _ => cases hq

/-- What the requests of a plan change about the register. -/
theorem turnover_run {a : α} : ∀ {p : FreePlan α} {w : World κ}, (Order.quiet me).inv w →
    p.run (serve (step engine n) me) w = .ok a w' →
    Turnover me [] (dismissals me (p.requests (serve (step engine n) me) w))
      (recruits (p.requests (serve (step engine n) me) w)) w w'
  | .done _, w, hi, h => by
    cases h
    exact .refl hi
  | .ask q next, w, hi, h => by
    rw [Plan.run] at h
    obtain ⟨r, w₁, hq, hrest⟩ := of_run_bind_ok h
    have ht := turnover_serve hi hq
    rw [Plan.requests, hq]
    exact ht.trans (turnover_run ht.inv hrest)

/-- What the call of a callback changes about the register. -/
theorem turnover_call {slot : Slot} {args : List Json} {r : Except ScriptError Unit}
    (hi : (Order.quiet me).inv w)
    (h : (callee engine (step engine n) me).call slot args w = .ok r w') :
    Turnover me [] (dismissals me (w.requests engine (step engine n) me slot args))
      (recruits (w.requests engine (step engine n) me slot args)) w w' := by
  change enter (step engine n) me (engine.call · slot args) w = .ok r w' at h
  rw [enter, run_read_bind] at h
  have hcontext : (contextPlace me).get w = (w.scope me).context := rfl
  rw [World.requests]
  cases hc : (w.scope me).context with
  | none =>
    simp only [hcontext, hc] at h
    cases h
    exact .refl hi
  | some c =>
    simp only [hcontext, hc] at h
    obtain ⟨⟨c', ending⟩, w₁, hrun, h⟩ := of_run_bind_ok h
    obtain ⟨_, w₂, hset, h⟩ := of_run_bind_ok h
    have ht := turnover_run hi hrun
    have hset' := Turnover.of_keeps ht.inv (Order.keeps_context _ w₁) (Mute.keeps_context _ w₁) hset
    have hw : w' = w₂ := by cases ending <;> cases h <;> rfl
    rw [hw]
    simpa using ht.trans hset'

end Contexts

end ScriptWorkers
