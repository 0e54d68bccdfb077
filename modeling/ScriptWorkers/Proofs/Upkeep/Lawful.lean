import ScriptWorkers.Proofs.Upkeep.Basic

/-!
# Upkeep is kept by every step

To show that all steps of all workers keep an upkeep, it is enough to look at what contexts ask for,
at ticks and at drains (`Upkeep.lawful`).  The rest is the same for every upkeep, and is done here:
how workers are brought to their ends while their owner waits, and how a step ends.

What is done on behalf of a worker is `Apart` from its owner (`apart_of_owner`), so the affairs of
the owner stay as they are (`rest_of_nested`), and the worker's own are at rest when it has come to
its end (`allows_bring`).
-/

namespace ScriptWorkers

open World

variable {κ : Type}

namespace Upkeep

variable {u : Upkeep κ} {w w' : World κ} {id me x : WorkerId} {ids : List WorkerId} {n : Nat}
  {engine : Engine κ}

/-! ## What is done for others -/

theorem known_of_under (h : w.Under me x) (hme : me = 0 ∨ (w.worker? me).isSome) :
    x = 0 ∨ (w.worker? x).isSome := by
  rcases h.eq_or_owner with rfl | ⟨p, hp, -⟩
  · exact hme
  · exact .inr (worker?_isSome_of_owner? hp)

/-- What is done on behalf of a worker leaves at rest who is at rest. -/
theorem rest_of_nested (hs : w.Shape) (hid : (w.worker? id).isSome) (hf : Frame id w w')
    (hall : u.All id w') (hx : x = 0 ∨ (w'.worker? x).isSome)
    (hrest : ¬ w.Under id x → x = 0 ∨ (w.worker? x).isSome → u.rest x w) : u.rest x w' := by
  by_cases hu : w'.Under id x
  · exact hall.2 x hu
  · have hn : ¬ w.Under id x := fun h ↦ hu (hf.under h)
    have hknown : x = 0 ∨ (w.worker? x).isSome := by
      refine hx.imp_right fun hx ↦ ?_
      cases hk : w.worker? x with
      | some k => rfl
      | none => exact absurd (hf.fresh x hk hx) hu
    exact u.apart_rest ⟨hs, hf, hid, hknown, hn⟩ (hrest hn hknown)

/-- What is done for a worker leaves those at rest who are not under it. -/
theorem Others.nested (hs : w.Shape) (hid : w.owner? id = some me) (hf : Frame id w w')
    (h : u.Others me w) (hall : u.All id w') : u.Others me w' := by
  have hex : (w.worker? id).isSome := by
    obtain ⟨k, hk, -⟩ := owner?_eq_some_iff.1 hid
    rw [hk]
    rfl
  have hme := hs.owner_exists hid
  refine ⟨hall.1, fun x hx hne ↦ ?_⟩
  refine rest_of_nested hs hex hf hall (known_of_under hx (hme.imp_right hf.isSome)) fun _ hk ↦ ?_
  exact h.2 x (hf.under_back hs x hk hx) hne

theorem All.nested (hs : w.Shape) (hid : (w.worker? id).isSome) (hf : Frame id w w')
    (h : u.All 0 w) (hall : u.All id w') : u.All 0 w' := by
  refine ⟨hall.1, fun x hx ↦ ?_⟩
  refine rest_of_nested hs hid hf hall (known_of_under hx (.inl rfl)) fun _ hk ↦ ?_
  exact h.2 x (hf.under_back hs x hk hx)

/-- Who is under a worker of `me` is somebody else than `me`. -/
theorem All.kid (hs : w.Shape) (hid : w.owner? id = some me) (h : u.Others me w) : u.All id w := by
  refine ⟨h.1, fun x hx ↦ h.2 x ((under_of_owner? hid).trans hx) ?_⟩
  exact Nat.ne_of_gt (Nat.lt_of_lt_of_le (hs.owner_lt hid) (hs.le_of_under hx))

/-- What is done on behalf of a worker is none of its owner's affairs. -/
theorem apart_of_owner (hs : w.Shape) (hid : w.owner? id = some me) (hf : Frame id w w') :
    Apart id me w w' where
  shape := hs
  frame := hf
  worker := by
    obtain ⟨k, hk, -⟩ := owner?_eq_some_iff.1 hid
    rw [hk]
    rfl
  known := hs.owner_exists hid
  apart hu := Nat.not_lt_of_le (hs.le_of_under hu) (hs.owner_lt hid)

/-! ## Waiting for workers -/

theorem keeps_await (hfin : u.regime.Brings (step engine n)) (hid : id ∈ ids) :
    Keeps (u.waiting me ids) (await (step engine n) id) := by
  intro w
  rw [await]
  refine keepsAt_get_bind (keepsAt_ite (fun _ ↦ ?_) fun _ ↦ keepsAt_pure _ _ w)
  refine (hfin.keeps id w).mono (fun hi ↦ ?_) (fun w' hi hi' hr ↦ ?_) fun e w' hi hb ↦ ?_
  · exact ⟨hi.1.1.1, All.kid hi.1.1.1 (hi.1.2 id hid) hi.2⟩
  · obtain ⟨ho, hr'⟩ := Order.waiting_changed hi.1 hid hi'.1 hr.1.1 hr.1.2
    have hown := hi.1.2 id hid
    exact ⟨⟨ho, hi.2.nested hi.1.1.1 hown hr.1.1 hi'.2⟩, hr',
      (apart_of_owner hi.1.1.1 hown hr.1.1).unmentioned⟩
  · refine ⟨Order.BrokenOff.lift hi.1 hid hb.1, ?_⟩
    cases e with
    | panic => exact hb.1.elim
    | exhausted => trivial
    | endless p => exact hb.2

/-- While workers are brought to their ends, everybody else stays at rest. -/
theorem keeps_bring (hfin : u.regime.Brings (step engine n)) :
    Keeps (u.waiting me ids) (Order.bring (step engine n) me ids) :=
  Order.keeps_bring (fun _ hid w ↦ leaving_of_mild (Order.keeps_flag_waiting hid w) mild_flag)
    (fun _ ↦ keeps_await hfin)
    fun _ hid w ↦ leaving_of_mild (Order.keeps_logCrash hid w) mild_logCrash

theorem waiting_unregistered (hi : (u.spent me).inv w) (hown : ∀ id ∈ ids, w.owner? id = some me) :
    (u.waiting me ids).inv (w.unregister me ids) :=
  ⟨Order.waiting_inv_unregister hi.1 hown, hi.2.besides (besides_setScope _)⟩

/-- Workers of `me` are brought to their ends after they have been struck off the register. -/
theorem allows_bring (hfin : u.regime.Brings (step engine n)) (hi : (u.spent me).inv w)
    (hown : ∀ id ∈ ids, w.owner? id = some me) :
    (u.spent me).Allows w (Order.bring (step engine n) me ids (w.unregister me ids)) := by
  have horder := Order.allows_bring ((Order.lawful engine).brings_step n) hi.1 hown
  have hkeeps := keeps_bring hfin (w.unregister me ids) (waiting_unregistered hi hown)
  have hjournal : Unmentioned me w (w.unregister me ids) := adds_of_eq (journal_setScope _)
  cases hb : Order.bring (step engine n) me ids (w.unregister me ids) with
  | ok a w' =>
    rw [hb] at horder hkeeps
    exact ⟨⟨horder.1, hkeeps.1.2⟩, horder.2, hjournal.trans hkeeps.2.2⟩
  | error e w' =>
    rw [hb] at horder hkeeps
    refine ⟨horder, ?_⟩
    cases e with
    | panic => exact horder.elim
    | exhausted => trivial
    | endless p => exact hkeeps.2

theorem keeps_terminateKids (hfin : u.regime.Brings (step engine n)) :
    Keeps (u.spent me) (terminateKids (step engine n) me) := by
  intro w hi
  rw [Order.run_terminateKids]
  exact allows_bring hfin hi (hi.1.1.fits me).kids

/-- The owner's affairs do not change while it waits. -/
theorem busy_own_of_frames (hown : ∀ id ∈ ids, w.owner? id = some me)
    (hf : Frames ids w w') : (u.busy me w → u.busy me w') ∧ u.own me w w' := by
  induction hf with
  | refl => exact ⟨fun h ↦ h, u.own_refl me w⟩
  | tail hp hf ih =>
    obtain ⟨hs₁, -, id, hid, hf⟩ := hf
    have happart := apart_of_owner hs₁ ((Frames.passage hp).owner? (hown id hid)) hf
    exact ⟨fun h ↦ u.apart_busy happart (ih.1 h), u.own_trans ih.2 (u.apart_own happart)⟩

/-- The same while the affairs of `me` are seen to, if they do not mind the register. -/
theorem allows_bring_quiet (hfin : u.regime.Brings (step engine n)) (hi : (u.quiet me).inv w)
    (hown : ∀ id ∈ ids, w.owner? id = some me) (hbusy : u.busy me (w.unregister me ids))
    (hleft : u.own me w (w.unregister me ids)) :
    (u.quiet me).Allows w (Order.bring (step engine n) me ids (w.unregister me ids)) := by
  have hspent : (u.spent me).inv w := ⟨hi.1, hi.2.1⟩
  have hbring := allows_bring hfin hspent hown
  cases hb : Order.bring (step engine n) me ids (w.unregister me ids) with
  | ok a w' =>
    rw [hb] at hbring
    have hi₁ := Order.waiting_inv_unregister hi.1 hown
    have hfr := ((Order.keeps_bring_waiting ((Order.lawful engine).brings_step n) _).ok hi₁ hb).2.1
    obtain ⟨hbusy', hown'⟩ := busy_own_of_frames (u := u) hi₁.2 hfr
    exact ⟨⟨hbring.1.1, hbring.1.2, hbusy' hbusy⟩, hbring.2.1, u.own_trans hleft hown'⟩
  | error e w' =>
    rw [hb] at hbring
    refine ⟨hbring.1, ?_⟩
    cases e with
    | panic => exact hbring.1.elim
    | exhausted => trivial
    | endless p => exact hbring.2

section Dismiss

variable (hfin : u.regime.Brings (step engine n))
  (hbusy : (u.quiet me).inv w → u.busy me (w.unregister me [id]))
  (hleft : (u.quiet me).inv w → u.own me w (w.unregister me [id]))
include hfin hbusy hleft

theorem keepsAt_terminateKid : KeepsAt (u.quiet me) (terminateKid (step engine n) me id) w := by
  intro hi
  rw [Order.run_terminateKid hi.1.1]
  by_cases hid : (w.scope me).kids.contains id
  · rw [if_pos hid]
    have hown : ∀ c ∈ [id], w.owner? c = some me := by
      simpa using (hi.1.1.fits me).kids id (by simpa using hid)
    have hb := allows_bring_quiet hfin hi hown (hbusy hi) (hleft hi)
    cases h : Order.bring (step engine n) me [id] (w.unregister me [id]) with
    | ok a w' =>
      rw [run_bind_ok h]
      rwa [h] at hb
    | error e w' =>
      rw [run_bind_error h]
      rwa [h] at hb
  · rw [if_neg hid]
    exact ⟨hi, (u.quiet me).refl w⟩

theorem keepsAt_dismiss (hid : w.owner? id = some me) :
    KeepsAt (u.quiet me) (dismiss (step engine n) me id) w := by
  rw [dismiss]
  refine (keepsAt_terminateKid hfin hbusy hleft).bind fun b w' _ _ hr ↦
    keepsAt_ite (fun _ ↦ keepsAt_pure _ _ w') fun _ ↦ ?_
  have hflag := Order.quiet_of_still (Order.keepsAt_flag (.inr (hr.1.1.owner? hid)))
  exact (controlled_of_mild hflag mild_flag).bind fun _ w'' _ _ _ ↦ keepsAt_pure _ _ w''

end Dismiss

/-! ## How steps end -/

theorem not_awake_of_not_isLive (hme : me ≠ 0) (h : w.isLive me = false) : ¬ w.Awake me := by
  rw [Awake, if_neg hme, ← isLive_iff, h]
  exact Bool.false_ne_true

/-- Whose step ends for good has no affairs any more. -/
theorem keepsAt_tearDown (hfin : u.regime.Brings (step engine n)) (ha : w.Awake me) (hme : me ≠ 0) :
    KeepsAt (u.whole me) (tearDown (step engine n) me) w := by
  refine (Order.keepsAt_tearDown ((Order.lawful engine).brings_step n) ha).both ?_ ?_
  · intro hs hall _ w' h _ _
    have hlive := not_isLive_of_tearDown h
    rw [tearDown] at h
    obtain ⟨_, w₁, h₁, h⟩ := of_run_bind_ok h
    obtain ⟨hi₁, hr₁⟩ := (keeps_terminateKids hfin w).ok ⟨⟨hs, ha⟩, All.others hall⟩ h₁
    obtain ⟨_, w₂, h₂, h⟩ := of_run_bind_ok h
    obtain ⟨_, w₃, h₃, h₄⟩ := of_run_bind_ok h
    have hb₂ : Besides me w₁ w₂ := by
      cases h₂
      exact besides_setScope _
    have hb₃ : Besides me w₂ w₃ := by
      cases h₃
      exact besides_setScope _
    have ha₄ : Alike w₃ w' := by
      obtain ⟨_, _, hrun, halike⟩ : Mild (setPhase me .exited) w₃ := mild_setPhase (by simp)
      rw [hrun] at h₄
      cases h₄
      exact halike
    have hjournal : w'.journal = w₁.journal := by rw [ha₄.journal, hb₃.journal, hb₂.journal]
    refine ⟨All.of_rest (((hi₁.2.besides hb₂).besides hb₃).alike ha₄) ?_, trivial⟩
    exact u.ended (hall.2 me (.refl w me)) (hr₁.2.trans (adds_of_eq hjournal))
      (not_awake_of_not_isLive hme hlive)
  · intro hs hall e w' h hb
    cases e with
    | panic => exact hb.elim
    | exhausted => trivial
    | endless p =>
      cases h₁ : terminateKids (step engine n) me w with
      | ok a w₁ =>
        rw [tearDown, run_bind_ok h₁] at h
        cases h
      | error e w₁ =>
        rw [tearDown, run_bind_error h₁] at h
        cases h
        exact ((keeps_terminateKids hfin w).error ⟨⟨hs, ha⟩, All.others hall⟩ h₁).2

/-! ## The rules -/

theorem call_of_quiet {α : Type} {y : Run (World κ) α} (h : KeepsAt (u.quiet me) y w) :
    KeepsAt (u.call me) y w :=
  h.mono (fun hi ↦ hi) (fun _ _ hi' hr ↦ ⟨hi', hr⟩) fun _ _ _ hb ↦ ⟨.inr hb.1, hb.2⟩

/-- What a callback leaves in hand is in hand for the core. -/
theorem act_of_call (hi : (u.act me).inv w) (hi' : (u.call me).inv w') (hr : (u.call me).rel w w') :
    (u.act me).inv w' ∧ (u.act me).rel w w' := by
  have hrest := u.rest_of_own (hi.2.2 me (.refl w me)) hi'.2.2 hr.2
  exact ⟨⟨hi'.1, All.of_rest hi'.2.1 hrest⟩, hr.1, trivial⟩

theorem act_of_call_broken {e : Abort} (hi : (u.act me).inv w) (hb : (u.call me).broken e w w') :
    (u.act me).broken e w w' := by
  refine ⟨hb.1, ?_⟩
  cases e with
  | panic =>
    rcases hb.1 with ⟨-, hi', hr⟩ | h
    · exact ⟨trivial, (act_of_call hi ⟨hi', hb.2.2.1⟩ ⟨hr, hb.2.2.2⟩).1.2, trivial⟩
    · exact h.elim
  | exhausted => trivial
  | endless p => exact hb.2

theorem call_of_act (hi : (u.act me).inv w) : (u.call me).inv w :=
  ⟨hi.1, hi.2.others, u.busy_of_rest (hi.2.2 me (.refl w me))⟩

theorem keepsAt_act_of_call {α : Type} {y : Run (World κ) α} (h : KeepsAt (u.call me) y w) :
    KeepsAt (u.act me) y w :=
  h.mono call_of_act (fun _ hi hi' hr ↦ act_of_call hi hi' hr) fun _ _ hi hb ↦
    act_of_call_broken hi hb

/-- **Upkeep is kept by every step** if it is kept by what contexts ask for, by ticks and by
drains. -/
theorem lawful (u : Upkeep κ) {allowed : Request → Prop} (hasks : engine.Asks allowed)
    (hpanics : ∀ c slot args, (engine.call c slot args).Ends fun r ↦ r.2 = .panicked → u.panics)
    (hserve : ∀ {n me q}, allowed q → u.regime.Brings (step engine n) →
      Keeps (u.quiet me) (serve (step engine n) me q))
    (htick : ∀ {c me}, c.KeepsAll (u.call me) → Keeps (u.act me) (tickTimers c me))
    (hdrain : ∀ {c me id side w}, c.KeepsAll (u.call me) → Order.Drains me id side w →
      KeepsAt (u.act me) (drainBox c me id side) w) : u.regime.Lawful engine allowed where
  asks := hasks
  serve hq hfin := fun w ↦ call_of_quiet (hserve hq hfin w)
  context _ _ := fun w ↦ controlled_of_mild ((Order.lawful engine).context _ _ w) (mild_context _)
  note _ e := fun w ↦ controlled_of_mild ((Order.lawful engine).note _ e w) (mild_note e)
  panicked c slot args := (hpanics c slot args).mono fun _ h hp me w hi ↦
    ⟨.inl ⟨rfl, hi.1, (Order.quiet me).refl w⟩, h hp, hi.2, u.own_refl me w⟩
  endless hi := ⟨(Order.lawful engine).endless hi.1, hi.2.1.1, hi.2.2⟩
  act_call hi := call_of_act hi
  call_act hi hi' hr := act_of_call hi hi' hr
  call_act_broken hi hb := act_of_call_broken hi hb
  act_panicked hi := ⟨(Order.lawful engine).act_panicked hi.1, trivial, hi.2, trivial⟩
  tick := htick
  inbox hk := fun w ↦ hdrain hk (.inl ⟨rfl, rfl⟩)
  pump hk := Order.keeps_pump_of_drains (fun hr ↦ hr.1.1.toPassage) (hdrain hk) (·.1.1)
  resign _ := fun w ↦ resting_of_mild ((Order.lawful engine).resign _ w) mild_flag
  looping _ hme := fun w hi ↦ resting_of_mild ((Order.lawful engine).looping _ hme w)
    (mild_setPhase fun _ ↦ hi.1.2) hi
  entered hi ha _ := ⟨⟨hi.1, ha⟩, hi.2⟩
  left _ hi' hr := ⟨⟨hi'.1.1, hi'.2⟩, hr.1, trivial⟩
  unwound _ hb := by
    rcases hb.1 with ⟨-, hi', hr⟩ | h
    · exact ⟨⟨⟨hi'.1, hb.2.2.1⟩, hr, trivial⟩, hi'.2⟩
    · exact h.elim
  flagged _ hr hf := hr.1.1.flagged hf
  left_broken {me e w w'} he hi hb := by
    refine ⟨(Order.lawful engine).left_broken he hi.1 hb.1, ?_⟩
    cases e with
    | panic => exact absurd rfl he
    | exhausted => trivial
    | endless p => exact hb.2
  calm hb := hb.1
  exhausted _ := ⟨trivial, trivial⟩
  tearDown hfin ha hme := keepsAt_tearDown hfin ha hme
  crashed _ := fun w ↦ resting_of_mild (Order.keeps_crashed w) mild_crashed

end Upkeep

end ScriptWorkers
