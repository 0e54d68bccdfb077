import ScriptWorkers.Proofs.Numbering
import ScriptWorkers.Proofs.Order.Host

/-!
# Termination cascades

When a worker is terminated, everything that it has spawned goes with it, and nothing else is
touched.

* `registered_of_awake`: there are no orphans.  A thread that has not exited is found by going down
  the registers from the root.
* `Subsided` says what it means that workers have been terminated: everybody under them is `Gone`,
  never to be heard of again (`Onward` is any way in which the world may go on), and the rest of the
  world is as it was, except that they have been struck off the register of their owner.
* `termination_cascades` puts it together: for the worker that is terminated by its number or by its
  handle, for all workers of a context at once, and for the end of the root.

The dead are silent because of `Onward.silent`, which goes by the ways in which a world may go on,
and the cascade is `subsided_of_bring`: whoever is brought to an end takes those below along.
-/

namespace ScriptWorkers

open World

variable {κ : Type} {w w' w'' : World κ} {id me p x : WorkerId} {engine : Engine κ}

/-! ## No orphans -/

/-- The context is found by going down the registers from the root. -/
def World.Registered (w : World κ) (x : WorkerId) : Prop :=
  Relation.ReflTransGen (fun p c ↦ c ∈ (w.scope p).kids) 0 x

/-- Who has a registered worker has not exited. -/
theorem awake_of_kid (hs : w.Shape) (h : x ∈ (w.scope p).kids) : w.Awake p := by
  cases p with
  | zero =>
    rw [Awake, if_pos rfl]
    cases hr : w.root with
    | some s => rfl
    | none => simp [scope, hr] at h
  | succ n =>
    rw [Awake, if_neg (by simp)]
    cases hk : w.worker? (n + 1) with
    | none => simp [scope, hk] at h
    | some k =>
      refine ⟨k, rfl, fun hx ↦ ?_⟩
      rw [scope_of_worker? hk, ((hs.workers _ k hk).rest hx).1] at h
      cases h

/-- **There are no orphans.** -/
theorem registered_of_awake (hs : w.Shape) (ht : Tended [] 0 w) :
    ∀ x, w.Awake x → w.Registered x := by
  intro x
  induction x using Nat.strongRecOn with
  | ind x ih =>
    intro ha
    rcases Nat.eq_zero_or_pos x with rfl | hx
    · exact Relation.ReflTransGen.refl
    · rw [Awake, if_neg (Nat.ne_of_gt hx)] at ha
      obtain ⟨k, hk, hne⟩ := ha
      have ho := owner?_of_worker? hk
      have hu : w.Under 0 k.owner := hs.under_root_of_known (hs.owner_exists ho)
      rcases ht _ hu x ho with hm | ⟨k', hk', hx', -⟩ | hm
      · exact (ih k.owner (hs.owner_lt ho) (awake_of_kid hs hm)).tail hm
      · rw [hk, Option.some_inj] at hk'
        exact absurd (hk' ▸ hx') hne
      · cases hm

/-! ## The dead are silent -/

/-- The events on the thread of a worker. -/
def World.eventsOf (w : World κ) (x : WorkerId) : List Event :=
  (w.events.toList.filter (·.1 = x)).map (·.2)

/-- The ways in which a world goes on: a request of a context is served, a worker makes a step, the
host does something, the events that there were have been taken note of. -/
inductive Onward (engine : Engine κ) : World κ → World κ → Prop
  | refl (w : World κ) : Onward engine w w
  | served {w w' w'' : World κ} {n : Nat} {p : WorkerId} {q : Request} {a : q.Reply} :
    Onward engine w w' → w'.Awake p → serve (step engine n) p q w' = .ok a w'' → Onward engine w w''
  | stepped {w w' w'' : World κ} {n : Nat} {p : WorkerId} {u : Unit} :
    Onward engine w w' → step engine n p w' = .ok u w'' → Onward engine w w''
  | performed {w w' w'' : World κ} {unlimited : Bool} {fuel : Nat} {op : HostOp} {a : Answer} :
    Onward engine w w' → perform engine unlimited fuel op w' = .ok a w'' → Onward engine w w''
  | panicked {w w' w'' : World κ} {unlimited : Bool} {fuel : Nat} {op : HostOp} :
    Onward engine w w' → perform engine unlimited fuel op w' = .error .panic w'' →
    Onward engine w w''
  | noted {w w' : World κ} : Onward engine w w' → Onward engine w { w' with events := #[] }

theorem eventsOf_eq (h : w.Passage w') (hd : w.Dead x) : w'.eventsOf x = w.eventsOf x := by
  obtain ⟨es, he, hes⟩ := h.events
  obtain ⟨k, hk, hx, -⟩ := hd
  have hnone : es.filter (·.1 = x) = [] := by
    rw [List.filter_eq_nil_iff]
    intro e hm hex
    simp only [decide_eq_true_eq] at hex
    exact hes e hm k (hex ▸ hk) hx
  rw [eventsOf, eventsOf, he, List.filter_append, hnone, List.append_nil]

/-- However the world goes on, nothing more happens on a thread that has exited. -/
theorem Onward.silent (h : Onward engine w w') (hs : w.Shape) (hd : w.Dead x) :
    w'.Shape ∧ w'.Dead x ∧ w'.eventsOf x <+: w.eventsOf x := by
  induction h with
  | refl => exact ⟨hs, hd, List.prefix_refl _⟩
  | served _ ha hr ih =>
    obtain ⟨hs', hd', he⟩ := ih
    obtain ⟨hi, hf⟩ :=
      (Order.keeps_serve ((Order.lawful engine).brings_step _) _ _).ok ⟨hs', ha⟩ hr
    exact ⟨hi.1, hf.1.dead hd', eventsOf_eq hf.1.toPassage hd' ▸ he⟩
  | stepped _ hr ih =>
    obtain ⟨hs', hd', he⟩ := ih
    obtain ⟨hi, hf⟩ := (((Order.lawful engine).brings_step _).keeps _ _).ok hs' hr
    exact ⟨hi, hf.1.dead hd', eventsOf_eq hf.1.toPassage hd' ▸ he⟩
  | performed _ hr ih =>
    obtain ⟨hs', hd', he⟩ := ih
    obtain ⟨hi, hf⟩ := (Order.keeps_perform engine _ _ _ _).ok hs' hr
    exact ⟨hi, hf.1.dead hd', eventsOf_eq hf.1 hd' ▸ he⟩
  | panicked _ hr ih =>
    obtain ⟨hs', hd', he⟩ := ih
    obtain ⟨hi, hf⟩ := (Order.keeps_perform engine _ _ _ _).error hs' hr
    exact ⟨hi, hf.1.dead hd', eventsOf_eq hf.1 hd' ▸ he⟩
  | noted _ ih =>
    obtain ⟨hs', hd', -⟩ := ih
    refine ⟨Same.shape ?_ hs', hd', by simp [eventsOf]⟩
    exact ⟨rfl, rfl, rfl⟩

/-! ## What termination does -/

/-- The thread has exited, its link is terminated and closed both ways, it has no intervals and no
context, and it is in no register. -/
structure World.Gone (w : World κ) (x : WorkerId) : Prop where
  ended : ∃ k, w.worker? x = some k ∧ k.phase = .exited ∧ k.link.terminated = true ∧
    (∀ side, (k.link.box side).closed = true) ∧ k.scope.timers.entries = [] ∧ k.scope.context = none
  struck : ∀ p, x ∉ (w.scope p).kids

/-- Workers of `me` have been terminated between `w` and `w'`, with everybody under them. -/
structure Subsided (engine : Engine κ) (me : WorkerId) (ids : List WorkerId) (w w' : World κ) :
    Prop where
  gone : ∀ id ∈ ids, ∀ x, w'.Under id x → w'.Gone x
  silent : ∀ id ∈ ids, ∀ x, w'.Under id x →
    ∀ w'', Onward engine w' w'' → w''.eventsOf x <+: w'.eventsOf x
  /-- Who is new is under them as well. -/
  fresh : ∀ x, w.worker? x = none → (w'.worker? x).isSome → ∃ id ∈ ids, w'.Under id x
  apart : ∀ x, (∀ id ∈ ids, ¬ w.Under id x) → (w.worker? x).isSome →
    w'.worker? x = (w.unregister me ids).worker? x
  root : w'.root = (w.unregister me ids).root
  handles : w'.handles = w.handles

/-- An exited thread that is on no register is gone. -/
theorem gone_of_dead (hs : w.Shape) (hd : w.Dead x) (hstruck : ∀ p, x ∉ (w.scope p).kids) :
    w.Gone x := by
  obtain ⟨k, hk, hx, ht⟩ := hd
  have hfit := hs.workers x k hk
  obtain ⟨-, htimers, hcontext⟩ := hfit.rest hx
  exact ⟨⟨k, hk, hx, ht, fun side ↦ (hfit.closed side).trans ht, htimers, hcontext⟩, hstruck⟩

/-- Under a dead worker that is in no register everybody is gone. -/
theorem gone_of_under (hs : w.Shape) (ht : Tended [] id w) (hd : w.Dead id)
    (hstruck : ∀ p, id ∉ (w.scope p).kids) (hx : w.Under id x) : w.Gone x := by
  refine gone_of_dead hs (ht.under_dead hs hd hx) fun p hp ↦ ?_
  by_cases hne : x = id
  · exact hstruck p (hne ▸ hp)
  · -- whoever has spawned it is dead as well, and has nobody in its register
    have ho := (hs.fits p).kids x hp
    obtain ⟨k, hk, hxp, -⟩ := ht.under_dead hs hd (hx.owner_under hne ho)
    exact absurd hxp ((awake_of_kid hs hp).phase_ne hk)

theorem under_setScope {s : Scope κ} : (w.setScope me s).Under p x ↔ w.Under p x := by
  simp only [Under, owner?_setScope]

/-- Workers that have been struck off the register are brought to their ends. -/
theorem subsided_of_bring {n : Nat} {ids : List WorkerId} {u : Unit} (hi : (Order.quiet me).inv w)
    (ht : Tended [] me w) (hids : ∀ id ∈ ids, id ∈ (w.scope me).kids)
    (h : Order.bring (step engine n) me ids (w.unregister me ids) = .ok u w') :
    Subsided engine me ids w w' := by
  have hfin := (Order.lawful engine).brings_step n
  have hown (id : WorkerId) (hid : id ∈ ids) := (hi.1.fits me).kids id (hids id hid)
  have hi₁ := Order.waiting_inv_unregister hi hown
  obtain ⟨⟨⟨hs', -⟩, hown'⟩, hf, ht'⟩ := (Order.keeps_bring_waiting hfin _).ok hi₁ h
  have hdead := Order.dead_of_bring hfin hi₁ h
  replace ht' := ht' (ht.unregister hi.1 hi.2)
  have hstruck (id : WorkerId) (hid : id ∈ ids) (p : WorkerId) : id ∉ (w'.scope p).kids := by
    intro hp
    have hme := (hs'.fits p).kids id hp
    rw [hown' id hid, Option.some_inj] at hme
    subst hme
    rw [hf.scope_owner hi₁.1.1 hi₁.2, unregister, scope_setScope_self hi.2.hasScope] at hp
    simp [hid] at hp
  refine ⟨fun id hid x hx ↦ ?_, fun id hid x hx w'' hw ↦ ?_, fun x hn hx ↦ hf.fresh ?_ hx,
    fun x hn hx ↦ ?_, hf.root ?_, ?_⟩
  · exact gone_of_under hs' (ht'.kid hs' hown' (hown' id hid)) (hdead id hid) (hstruck id hid) hx
  · have hd := (ht'.kid hs' hown' (hown' id hid)).under_dead hs' (hdead id hid) hx
    exact (hw.silent hs' hd).2.2
  · rw [unregister, worker?_setScope, hn]
    split <;> rfl
  · cases hk : (w.unregister me ids).worker? x with
    | some k => exact hf.apart hi₁.1.1 hk fun id hid hu ↦ hn id hid (under_setScope.1 hu)
    | none =>
      rw [unregister, worker?_setScope] at hk
      obtain ⟨k, hx⟩ := Option.isSome_iff_exists.1 hx
      split at hk <;> simp [hx] at hk
  · intro h0
    have := hown 0 h0
    simp at this
  · rw [hf.handles, unregister, handles_setScope]

/-- A worker is terminated by its number. -/
theorem subsided_of_terminateKid {n : Nat} {b : Bool} (hi : (Order.quiet me).inv w)
    (ht : Tended [] me w) (hid : id ∈ (w.scope me).kids)
    (h : terminateKid (step engine n) me id w = .ok b w') :
    b = true ∧ Subsided engine me [id] w w' := by
  rw [Order.run_terminateKid hi.1, if_pos (by simpa using hid)] at h
  obtain ⟨_, w₁, h₁, h₂⟩ := of_run_bind_ok h
  cases h₂
  exact ⟨rfl, subsided_of_bring hi ht (by simpa using hid) h₁⟩

/-- A worker is terminated by its handle. -/
theorem subsided_of_dismiss {n : Nat} {u : Unit} (hi : (Order.quiet me).inv w) (ht : Tended [] me w)
    (hid : id ∈ (w.scope me).kids) (h : dismiss (step engine n) me id w = .ok u w') :
    Subsided engine me [id] w w' := by
  rw [dismiss] at h
  obtain ⟨b, w₁, h₁, h₂⟩ := of_run_bind_ok h
  obtain ⟨rfl, hsub⟩ := subsided_of_terminateKid hi ht hid h₁
  cases h₂
  exact hsub

/-- All workers of a context are terminated at once. -/
theorem subsided_of_terminateKids {n : Nat} {u : Unit} (hi : (Order.quiet me).inv w)
    (ht : Tended [] me w) (h : terminateKids (step engine n) me w = .ok u w') :
    Subsided engine me (w.scope me).kids w w' := by
  rw [Order.run_terminateKids] at h
  exact subsided_of_bring hi ht (fun _ hid ↦ hid) h

/-- Without a root everybody is gone. -/
theorem gone_of_dropped (hs : w.Shape) (ht : Tended [] 0 w) (hw : w.root = none)
    (hx : (w.worker? x).isSome) : w.Dead x ∧ w.Gone x := by
  have hasleep (p : WorkerId) : ¬ w.Awake p := by
    intro ha
    have hreg := registered_of_awake hs ht p ha
    rcases Relation.ReflTransGen.cases_head hreg with rfl | ⟨c, hc, -⟩
    · simp [Awake, hw] at ha
    · simp [scope, hw] at hc
  have hdead : ∀ x, (w.worker? x).isSome → w.Dead x := by
    intro x hx
    obtain ⟨k, hk⟩ := Option.isSome_iff_exists.1 hx
    have ho := owner?_of_worker? hk
    have hu : w.Under 0 k.owner := hs.under_root_of_known (hs.owner_exists ho)
    rcases ht _ hu x ho with hm | hm | hm
    · exact absurd (awake_of_kid hs hm) (hasleep _)
    · exact hm
    · cases hm
  exact ⟨hdead x hx, gone_of_dead hs (hdead x hx) fun p hp ↦ hasleep p (awake_of_kid hs hp)⟩

theorem root_of_drop {u : Unit} (h : drop engine w = .ok u w') : w'.root = none := by
  rw [drop] at h
  obtain ⟨_, w₁, -, h₂⟩ := of_run_bind_ok h
  cases h₂
  rfl

/-- A register finds each of its workers under its number. -/
theorem World.Shape.find?_kids {me : WorkerId} (hs : w.Shape) (hn : w.Numbered) (earlier : Nat)
    (hx : x ∈ (w.scope me).kids) :
    (w.scope me).kids.find? (·.number earlier == x.number earlier) = some x := by
  refine hn.find?_number (fun c hc ↦ ?_) hx
  exact worker?_isSome_of_owner? ((hs.fits me).kids c hc)

/-- **Termination cascades over the whole tree of workers and touches nothing else**, as long as
less than 2³² workers have been made.  Between the operations of a host every thread that has not
exited is registered.  A context that is awake, or that has control in the middle of an operation,
finds each of its workers under its number; and when it terminates a worker by its number or by
its handle, or all its workers at once, then they have `Subsided`.  When the root is given up,
everybody is gone. -/
theorem termination_cascades (engine : Engine κ) (loader : Loader) :
    (∀ w, Reachable engine loader (fun _ ↦ True) w → w.Numbered → ∀ x, w.isLive x = true →
      w.Registered x) ∧
    (∀ me w, Reachable engine loader (fun _ ↦ True) w ∧ w.Awake me ∨
        Moment engine loader (fun _ ↦ True) me w → w.Numbered →
      (∀ id ∈ (w.scope me).kids, ∀ earlier,
        (w.scope me).kids.find? (·.number earlier == id.number earlier) = some id) ∧
      ∀ n w', w'.Numbered →
        (∀ id b, id ∈ (w.scope me).kids → terminateKid (step engine n) me id w = .ok b w' →
          b = true ∧ Subsided engine me [id] w w') ∧
        (∀ id u, id ∈ (w.scope me).kids → dismiss (step engine n) me id w = .ok u w' →
          Subsided engine me [id] w w') ∧
        (∀ u, terminateKids (step engine n) me w = .ok u w' →
          Subsided engine me (w.scope me).kids w w')) ∧
    (∀ w, Reachable engine loader (fun _ ↦ True) w → ∀ u w', drop engine w = .ok u w' →
      w'.Numbered → w'.root = none ∧ ∀ x, (w'.worker? x).isSome →
        w'.Gone x ∧ ∀ w'', Onward engine w' w'' → w''.eventsOf x <+: w'.eventsOf x) := by
  refine ⟨fun w hw _ x hx ↦ ?_, fun me w hw hn ↦ ?_, fun w hw u w' h _ ↦ ?_⟩
  · obtain ⟨hs, ht⟩ := Order.shape_tended_of_reachable hw
    exact registered_of_awake hs ht x (awake_of_isLive hx)
  · have hme : (Order.quiet me).inv w ∧ Tended [] me w := by
      rcases hw with ⟨hw, ha⟩ | hw
      · obtain ⟨hs, ht⟩ := Order.shape_tended_of_reachable hw
        exact ⟨⟨hs, ha⟩, fun p hp ↦ ht p ((hs.under_root_of_known ha.known).trans hp)⟩
      · exact Order.inv_tended_of_moment hw
    refine ⟨fun id hid earlier ↦ hme.1.1.find?_kids hn earlier hid, fun n w' _ ↦ ?_⟩
    exact ⟨fun id b ↦ subsided_of_terminateKid hme.1 hme.2,
      fun id u ↦ subsided_of_dismiss hme.1 hme.2, fun u ↦ subsided_of_terminateKids hme.1 hme.2⟩
  · obtain ⟨hs, ht⟩ := Order.shape_tended_of_reachable hw
    obtain ⟨hs', hr⟩ := (Order.keeps_drop w).ok hs h
    have hroot := root_of_drop h
    refine ⟨hroot, fun x hx ↦ ?_⟩
    obtain ⟨hd, hg⟩ := gone_of_dropped hs' (hr.2 ht) hroot hx
    exact ⟨hg, fun w'' hw'' ↦ (hw''.silent hs' hd).2.2⟩

/-! ## A family -/

/-- An engine whose scripts of the name `parent` create a worker, and all others do nothing. -/
def nursery : Engine Unit where
  create _ := .ok ()
  execute _ _ name :=
    if name = "parent" then .ask (.spawn "child") fun _ ↦ .done ((), .done) else .done ((), .done)
  call _ _ _ := .done ((), .done)
  depth := 4

/-- The scripts of the nursery. -/
def nurseryShelf : Loader := .shelf ⟨[("parent", .text ""), ("child", .text "")]⟩

/-- The root with a worker that has a worker of its own. -/
def family : World Unit :=
  let new : World Unit := { root := some { context := some () }, loader := nurseryShelf }
  (performOn nursery true 0 (.step 1 1) (performOn nursery true 0 (.spawn "parent") new).2).2

theorem reachable_family : Reachable nursery nurseryShelf (fun _ ↦ True) family := by
  have hnew : Reachable nursery nurseryShelf (fun _ ↦ True)
      { root := some { context := some () }, loader := nurseryShelf } := .created rfl
  have hspawned := hnew.performed trivial
    (show perform nursery true 0 (.spawn "parent") _ = .ok _ _ from rfl)
  exact hspawned.performed trivial (show perform nursery true 0 (.step 1 1) _ = .ok _ _ from rfl)

/-- When the root terminates its worker, the worker of the worker is gone as well. -/
theorem family_terminated : family.Numbered ∧ ∃ w', w'.Numbered ∧
    terminateKid (step nursery 4) 0 1 family = .ok true w' ∧
    Subsided nursery 0 [1] family w' ∧ w'.owner? 2 = some 1 ∧ w'.Gone 2 := by
  have hn : family.Numbered := by decide
  obtain ⟨w', hn', hw', ho⟩ : ∃ w', w'.Numbered ∧
      terminateKid (step nursery 4) 0 1 family = .ok true w' ∧ w'.owner? 2 = some 1 :=
    ⟨_, by decide, rfl, rfl⟩
  obtain ⟨-, hterminated⟩ := (termination_cascades nursery nurseryShelf).2.1 0 family
    (.inl ⟨reachable_family, rfl⟩) hn
  obtain ⟨-, hsub⟩ := (hterminated 4 w' hn').1 1 true (by decide) hw'
  exact ⟨hn, w', hn', hw', hsub, ho, hsub.gone 1 (by simp) 2 (.single ho)⟩

end ScriptWorkers
