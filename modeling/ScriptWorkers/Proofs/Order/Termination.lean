import ScriptWorkers.Proofs.Order.Basic

/-!
# Termination of workers

A worker that is terminated is struck off the register of its owner, told to end, and waited for.
Waiting is to let it make its last step, in which it brings its own workers to their ends.  Here
that step is any computation that keeps the guarantee of a step and ends a worker that has been
told to end.  Then those who were terminated are dead afterwards, nobody else is touched, and
nobody is lost.

All ways to terminate workers come down to `bring`, which tells the workers of a list to end and
waits for them in turn: `run_terminateKid` and `run_terminateKids` say so.  While it goes on the
guarantee is `waiting`; `dead_of_bring` is what has been achieved at the end, and `allows_bring`
leads back to the guarantee of the owner.
-/

namespace ScriptWorkers

open World

variable {κ : Type}

namespace Order

variable {w w' : World κ} {c id me p : WorkerId} {finish : WorkerId → Run (World κ) Unit}

/-! ## Workers of a list -/

/-- Tells all workers of a list to end, then waits for them. -/
def bring (finish : WorkerId → Run (World κ) Unit) (me : WorkerId) (ids : List WorkerId) :
    Run (World κ) Unit := do
  flagAll ids
  joinAll finish me ids

section Lists

variable {g : Guarantee (World κ)}

theorem keeps_flagAll : ∀ {ids : List WorkerId}, (∀ id ∈ ids, Keeps g (flag id)) →
    Keeps g (flagAll ids)
  | [], _ => keeps_pure _ _
  | id :: _, h => (h id (by simp)).bind fun _ ↦ keeps_flagAll fun c hc ↦ h c (by simp [hc])

theorem keeps_joinAll : ∀ {ids : List WorkerId}, (∀ id ∈ ids, Keeps g (await finish id)) →
    (∀ id ∈ ids, Keeps g (logCrash me id)) → Keeps g (joinAll finish me ids)
  | [], _, _ => keeps_pure _ _
  | id :: _, ha, hl => ((ha id (by simp)).bind fun _ ↦ hl id (by simp)).bind fun _ ↦
    keeps_joinAll (fun c hc ↦ ha c (by simp [hc])) fun c hc ↦ hl c (by simp [hc])

/-- What flags, waits and log lines keep, bringing workers to their ends keeps. -/
theorem keeps_bring {ids : List WorkerId} (hf : ∀ id ∈ ids, Keeps g (flag id))
    (ha : ∀ id ∈ ids, Keeps g (await finish id)) (hl : ∀ id ∈ ids, Keeps g (logCrash me id)) :
    Keeps g (bring finish me ids) :=
  (keeps_flagAll hf).bind fun _ ↦ keeps_joinAll ha hl

end Lists

/-! ## While they are waited for -/

section Waiting

variable {ids : List WorkerId}

/-- What is done on behalf of one of those who are waited for leaves the others alone. -/
theorem waiting_changed (hi : (waiting me ids).inv w) (hid : id ∈ ids) (hs' : w'.Shape)
    (hf : Frame id w w') (ht : Tended [] id w → Tended [] id w') :
    (waiting me ids).inv w' ∧ (waiting me ids).rel w w' := by
  obtain ⟨⟨hs, ha⟩, hown⟩ := hi
  have hlt : me < id := hs.owner_lt (hown id hid)
  have ha' : w'.Awake me := by
    rw [Awake] at ha ⊢
    rwa [hf.root (Nat.ne_of_gt (Nat.zero_lt_of_lt hlt)), hf.above hs' hlt]
  refine ⟨⟨⟨hs', ha'⟩, fun c hc ↦ hf.owner? (hown c hc)⟩, .single hs hs' hid hf, fun h ↦ ?_⟩
  exact h.nested hs (worker?_isSome_of_owner? (hown id hid)) hf
    (ht (h.kid hs hown (hown id hid)))

theorem keeps_flag_waiting (hid : id ∈ ids) :
    Keeps (waiting me ids) (flag id : Run (World κ) Bool) := by
  intro w
  rw [flag]
  refine keepsAt_read_bind (KeepsAt.bind (keepsAt_update fun hi ↦ ?_) fun _ w' _ _ _ ↦
    keepsAt_pure _ _ w')
  have hf : Frame id w (w.setLink id (w.link id).terminate) :=
    .setLink (.refl w id) (fun _ ↦ rfl) fun _ ↦ rfl
  refine waiting_changed hi hid (hi.1.1.setLink fun _ side ↦ ?_) hf fun h ↦ ?_
  · cases side <;> exact ⟨rfl, rfl⟩
  · exact h.updateWorker hi.1.1 hf fun _ ↦ rfl

/-- If the last step of a worker is broken off, so is the wait for it. -/
theorem BrokenOff.lift {e : Abort} (hi : (waiting me ids).inv w) (hid : id ∈ ids)
    (h : BrokenOff [] id e w w') : BrokenOff ids me e w w' := by
  cases e with
  | panic => exact h
  | exhausted => trivial
  | endless p =>
    have ho := hi.2 id hid
    exact ⟨h.shape, h.awake, (under_of_owner? (h.passage.owner? ho)).trans h.under, h.passage,
      fun ht ↦ h.tended (ht.kid hi.1.1 hi.2 ho)⟩

/-- To wait for a worker is to let it make its last step. -/
theorem keeps_await (hfin : regime.Brings finish) (hid : id ∈ ids) :
    Keeps (waiting me ids) (await finish id) := by
  intro w
  rw [await]
  refine keepsAt_get_bind (keepsAt_ite (fun _ ↦ ?_) fun _ ↦ keepsAt_pure _ _ w)
  refine (hfin.keeps id w).mono (fun hi ↦ hi.1.1) (fun w' hi hs' hr ↦ ?_) fun e w' hi hb ↦ ?_
  · exact waiting_changed hi hid hs' hr.1 hr.2
  · exact BrokenOff.lift hi hid hb

theorem keeps_note_waiting (hid : id ∈ ids) (e : Event) :
    Keeps (waiting me ids) (note me e : Run (World κ) Unit) := by
  refine fun w ↦ keepsAt_modify fun hi ↦ ?_
  have hsame : Same w { w with events := w.events.push (me, e) } := ⟨rfl, rfl, rfl⟩
  have hf : Frame id w { w with events := w.events.push (me, e) } :=
    hsame.frame ⟨[(me, e)], by simp, by simpa using fun k hk ↦ hi.1.2.phase_ne hk⟩
      ⟨[], by simp, by simp⟩
  exact waiting_changed hi hid (hsame.shape hi.1.1) hf (hsame.tended hi.1.1 hf)

theorem keeps_logCrash (hid : id ∈ ids) :
    Keeps (waiting me ids) (logCrash me id : Run (World κ) Unit) := by
  intro w
  rw [logCrash]
  refine keepsAt_get_bind ?_
  split
  · exact keepsAt_ite (fun _ ↦ keeps_note_waiting hid _ w) fun _ ↦ keepsAt_pure _ _ w
  · exact keepsAt_pure _ _ w

theorem keeps_bring_waiting (hfin : regime.Brings finish) :
    Keeps (waiting me ids) (bring finish me ids) :=
  keeps_bring (fun _ ↦ keeps_flag_waiting) (fun _ ↦ keeps_await hfin) fun _ ↦ keeps_logCrash

theorem flagged_of_flag {b : Bool} (h : flag id w = .ok b w') (hex : (w.worker? id).isSome) :
    w'.Flagged id := by
  cases h
  obtain ⟨k, hk⟩ := Option.isSome_iff_exists.1 hex
  exact ⟨_, worker?_updateWorker_self _ hk, rfl⟩

theorem flagged_of_flagAll : ∀ {rest : List WorkerId} {w : World κ}, (waiting me ids).inv w →
    (∀ id ∈ rest, id ∈ ids) → ∀ {u : Unit}, flagAll rest w = .ok u w' → ∀ id ∈ rest, w'.Flagged id
  | [], _, _, _, _, _ => by simp
  | id :: rest, w, hi, hsub, u, h => by
    rw [flagAll] at h
    obtain ⟨b, w₁, h₁, h₂⟩ := of_run_bind_ok h
    have hid := hsub id (by simp)
    have hsub' : ∀ c ∈ rest, c ∈ ids := fun c hc ↦ hsub c (by simp [hc])
    have hflag := flagged_of_flag h₁ (worker?_isSome_of_owner? (hi.2 id hid))
    have hi₁ := ((keeps_flag_waiting hid w).ok hi h₁).1
    intro c hc
    rcases List.mem_cons.1 hc with rfl | hc
    · have hkeeps : Keeps (waiting me ids) (flagAll rest : Run (World κ) Unit) :=
        keeps_flagAll fun d hd ↦ keeps_flag_waiting (hsub' d hd)
      exact ((hkeeps w₁).ok hi₁ h₂).2.1.passage.flagged hflag
    · exact flagged_of_flagAll hi₁ hsub' h₂ c hc

/-- Who has been told to end is dead once it has been waited for. -/
theorem dead_of_await {u : Unit} (hfin : regime.Brings finish) (hs : w.Shape) (hf : w.Flagged id)
    (h : await finish id w = .ok u w') : w'.Dead id := by
  change (if w.isLive id then finish id else pure ()) w = _ at h
  split at h
  · exact hfin.ends hs hf h
  · rename_i hl
    cases h
    obtain ⟨k, hk, ht⟩ := hf
    rw [isLive_iff] at hl
    exact ⟨k, hk, Classical.not_not.1 fun hne ↦ hl ⟨k, hk, hne⟩, ht⟩

/-- By induction on the list: nobody comes back to life while the others are waited for. -/
theorem dead_of_joinAll (hfin : regime.Brings finish) : ∀ {rest : List WorkerId} {w : World κ},
    (waiting me ids).inv w → (∀ id ∈ rest, id ∈ ids) → (∀ id ∈ rest, w.Flagged id) →
    ∀ {u : Unit}, joinAll finish me rest w = .ok u w' → ∀ id ∈ rest, w'.Dead id
  | [], _, _, _, _, _, _ => by simp
  | id :: rest, w, hi, hsub, hflag, u, h => by
    rw [joinAll, join] at h
    obtain ⟨_, w₂, h₂, h₃⟩ := of_run_bind_ok h
    obtain ⟨_, w₁, h₁, h₂⟩ := of_run_bind_ok h₂
    have hid := hsub id (by simp)
    have hsub' : ∀ c ∈ rest, c ∈ ids := fun c hc ↦ hsub c (by simp [hc])
    obtain ⟨hi₁, hr₁⟩ := (keeps_await hfin hid w).ok hi h₁
    obtain ⟨hi₂, hr₂⟩ := (keeps_logCrash hid w₁).ok hi₁ h₂
    have hkeeps : Keeps (waiting me ids) (joinAll finish me rest) :=
      keeps_joinAll (fun d hd ↦ keeps_await hfin (hsub' d hd)) fun d hd ↦
        keeps_logCrash (hsub' d hd)
    have hr₃ := ((hkeeps w₂).ok hi₂ h₃).2
    intro c hc
    rcases List.mem_cons.1 hc with rfl | hc
    · exact (hr₂.1.trans hr₃.1).passage.dead (dead_of_await hfin hi.1.1 (hflag c (by simp)) h₁)
    · refine dead_of_joinAll hfin hi₂ hsub' (fun d hd ↦ ?_) h₃ c hc
      exact (hr₁.1.trans hr₂.1).passage.flagged (hflag d (by simp [hd]))

/-- Who has been brought to its end is dead. -/
theorem dead_of_bring {u : Unit} (hfin : regime.Brings finish) (hi : (waiting me ids).inv w)
    (h : bring finish me ids w = .ok u w') : ∀ id ∈ ids, w'.Dead id := by
  obtain ⟨_, w₁, h₁, h₂⟩ := of_run_bind_ok h
  have hflag : Keeps (waiting me ids) (flagAll ids : Run (World κ) Unit) :=
    keeps_flagAll fun _ ↦ keeps_flag_waiting
  have hi₁ := ((hflag w).ok hi h₁).1
  exact dead_of_joinAll hfin hi₁ (fun _ h ↦ h) (flagged_of_flagAll hi (fun _ h ↦ h) h₁) h₂

end Waiting

/-! ## Termination -/

section Termination

/-- Terminating a worker does nothing unless it is registered. -/
theorem run_terminateKid (hs : w.Shape) :
    terminateKid finish me id w = if (w.scope me).kids.contains id then
      (bring finish me [id] >>= fun _ ↦ pure true) (w.unregister me [id]) else .ok false w := by
  have hfilter : (w.scope me).kids.filter (· ∉ [id]) = (w.scope me).kids.erase id := by
    rw [(hs.fits me).nodup.erase_eq_filter]
    refine List.filter_congr fun c _ ↦ ?_
    by_cases hc : c = id <;> simp [hc]
  rw [unregister, hfilter]
  change (if (w.scope me).kids.contains id then _ else _ : Run (World κ) Bool) w = _
  split
  · simp only [bring, flagAll, joinAll, bind_assoc, pure_bind]
    rfl
  · rfl

theorem run_terminateKids :
    terminateKids finish me w =
      bring finish me (w.scope me).kids (w.unregister me (w.scope me).kids) := by
  have hfilter : (w.scope me).kids.filter (· ∉ (w.scope me).kids) = [] := by
    simp [List.filter_eq_nil_iff]
  rw [unregister, hfilter]
  rfl

variable {ids : List WorkerId}

/-- Who is struck off the register is waited for, so nobody is lost. -/
theorem waiting_inv_unregister (hi : (quiet me).inv w) (hown : ∀ id ∈ ids, w.owner? id = some me) :
    (waiting me ids).inv (w.unregister me ids) := by
  obtain ⟨hs, ha⟩ := hi
  refine ⟨⟨hs.unregister ha, awake_setScope.2 ha⟩, fun id hid ↦ ?_⟩
  rw [unregister, owner?_setScope]
  exact hown id hid

/-- Workers of `me` are brought to their ends after they have been struck off the register. -/
theorem allows_bring (hfin : regime.Brings finish) (hi : (quiet me).inv w)
    (hown : ∀ id ∈ ids, w.owner? id = some me) :
    (quiet me).Allows w (bring finish me ids (w.unregister me ids)) := by
  have hi₁ := waiting_inv_unregister hi hown
  have hf₁ : Frame me w (w.unregister me ids) := .setScope hi.2
  have ht₁ (h : Tended [] me w) : Tended ids me (w.unregister me ids) := h.unregister hi.1 hi.2
  cases hb : bring finish me ids (w.unregister me ids) with
  | ok u w' =>
    obtain ⟨hi', hr⟩ := (keeps_bring_waiting hfin _).ok hi₁ hb
    have hdead := dead_of_bring hfin hi₁ hb
    exact ⟨hi'.1, hf₁.trans hi.1 (hr.1.frame hi₁.1.1 hi₁.2), fun h ↦ (hr.2 (ht₁ h)).dead hdead⟩
  | error e w' => exact ((keeps_bring_waiting hfin _).error hi₁ hb).after hf₁.toPassage ht₁

theorem keeps_terminateKid (hfin : regime.Brings finish) :
    Keeps (quiet me) (terminateKid finish me id) := by
  intro w hi
  rw [run_terminateKid hi.1]
  by_cases hid : (w.scope me).kids.contains id
  · rw [if_pos hid]
    have hown := (hi.1.fits me).kids id (by simpa using hid)
    have hb := allows_bring hfin hi (show ∀ c ∈ [id], w.owner? c = some me by simpa using hown)
    cases h : bring finish me [id] (w.unregister me [id]) with
    | ok u w' =>
      rw [run_bind_ok h]
      rwa [h] at hb
    | error e w' =>
      rw [run_bind_error h]
      rwa [h] at hb
  · rw [if_neg hid]
    exact ⟨hi, (quiet me).refl w⟩

theorem keeps_terminateKids (hfin : regime.Brings finish) :
    Keeps (quiet me) (terminateKids finish me) := by
  intro w hi
  rw [run_terminateKids]
  exact allows_bring hfin hi (hi.1.fits me).kids

/-- After all workers have been terminated the register is empty. -/
theorem kids_of_terminateKids {u : Unit} (hfin : regime.Brings finish) (hi : (quiet me).inv w)
    (h : terminateKids finish me w = .ok u w') : (w'.scope me).kids = [] := by
  rw [run_terminateKids] at h
  have hi₁ := waiting_inv_unregister hi (hi.1.fits me).kids
  obtain ⟨hi', hr⟩ := (keeps_bring_waiting hfin _).ok hi₁ h
  have hscope : w'.scope me = (w.unregister me (w.scope me).kids).scope me :=
    hr.1.scope_owner hi₁.1.1 hi₁.2
  rw [hscope, unregister, scope_setScope_self hi.2.hasScope]
  simp [List.filter_eq_nil_iff]

theorem keepsAt_dismiss (hfin : regime.Brings finish) (hid : w.owner? id = some me) :
    KeepsAt (quiet me) (dismiss finish me id) w := by
  rw [dismiss]
  refine (keeps_terminateKid hfin w).bind fun b w' _ _ hr ↦ keepsAt_ite (fun _ ↦ ?_) fun _ ↦ ?_
  · exact keepsAt_pure _ _ w'
  · exact (quiet_of_still (keepsAt_flag (.inr (hr.1.owner? hid)))).bind fun _ w'' _ _ _ ↦
      keepsAt_pure _ _ w''

end Termination

end Order

end ScriptWorkers
