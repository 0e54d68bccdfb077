import ScriptWorkers.Proofs.Host
import ScriptWorkers.Proofs.Order.Lawful

/-!
# Order in all runs

Whatever the host does, in any order, the tree of workers stays in shape and nobody is lost:
`Order.shape_tended_of_reachable` for the worlds between operations, `Order.inv_tended_of_moment`
for those in the middle of one.

The guarantees of the host are `host` and, for operations that may give up the root, `anyHost`.
What is done for the root or for a worker keeps them (`host_of_quiet`, `host_of_whole`); what the
host does by itself, such as posting, employing and dismissing workers, is shown one by one, and
`keeps_perform` puts everything together.
-/

namespace ScriptWorkers

open World

variable {κ : Type}

namespace Order

variable {w w' : World κ} {id me p : WorkerId} {engine : Engine κ} {α : Type}

/-- What all operations of the host do to the world: workers go on, and nobody is lost. -/
def Goes (w w' : World κ) : Prop := w.Passage w' ∧ (Tended [] 0 w → Tended [] 0 w')

theorem Goes.refl (w : World κ) : Goes w w := ⟨.refl w, fun h ↦ h⟩

theorem Goes.trans {w'' : World κ} (h : Goes w w') (h' : Goes w' w'') : Goes w w'' :=
  ⟨h.1.trans h'.1, fun ht ↦ h'.2 (h.2 ht)⟩

/-- How an operation of the host may be broken off. -/
def HostBroken (rel : World κ → World κ → Prop) : Abort → World κ → World κ → Prop
  | .panic, w, w' => w'.Shape ∧ rel w w'
  | .exhausted, _, _ => True
  | .endless p, w, w' => w'.Shape ∧ w'.Awake p ∧ w.Passage w' ∧ (Tended [] 0 w → Tended [] p w')

theorem HostBroken.after {rel : World κ → World κ → Prop} {e : Abort} {w'' : World κ}
    (hrel : rel w' w'' → rel w w'') (hgoes : Goes w w') (h : HostBroken rel e w' w'') :
    HostBroken rel e w w'' := by
  cases e with
  | panic => exact ⟨h.1, hrel h.2⟩
  | exhausted => trivial
  | endless p => exact ⟨h.1, h.2.1, hgoes.1.trans h.2.2.1, fun ht ↦ h.2.2.2 (hgoes.2 ht)⟩

/-- The guarantee of all operations of the host. -/
def anyHost : Guarantee (World κ) where
  inv w := w.Shape
  rel := Goes
  broken := HostBroken Goes
  refl := .refl
  trans _ _ := .trans
  after _ _ h h' := h'.after h.trans h

/-- The guarantee of the operations of the host that do not give up the root. -/
def host : Guarantee (World κ) where
  inv w := w.Shape
  rel w w' := Goes w w' ∧ w'.root.isSome = w.root.isSome
  broken := HostBroken fun w w' ↦ Goes w w' ∧ w'.root.isSome = w.root.isSome
  refl w := ⟨.refl w, rfl⟩
  trans _ _ h h' := ⟨h.1.trans h'.1, h'.2.trans h.2⟩
  after _ _ h h' := h'.after (fun h'' ↦ ⟨h.1.trans h''.1, h''.2.trans h.2⟩) h.1

theorem BrokenOff.host {e : Abort} (h : BrokenOff [] 0 e w w') : Order.host.broken e w w' := by
  cases e with
  | panic => exact h.elim
  | exhausted => trivial
  | endless p => exact ⟨h.shape, h.awake, h.passage, h.tended⟩

theorem tended_kid (hs : w.Shape) (hid : (w.worker? id).isSome) (h : Tended [] 0 w) :
    Tended [] id w :=
  fun p hp ↦ h p ((hs.under_root id hid).trans hp)

theorem host_rel_of_whole (hs : w.Shape) (hid : (w.worker? id).isSome) (hr : (whole id).rel w w') :
    Order.host.rel w w' := by
  refine ⟨⟨hr.1.toPassage, fun ht ↦ ?_⟩, hr.1.rooted⟩
  exact ht.nested hs hid hr.1 (hr.2 (tended_kid hs hid ht))

theorem host_broken_of_whole {e : Abort} (hs : w.Shape) (hid : (w.worker? id).isSome)
    (hb : (whole id).broken e w w') : Order.host.broken e w w' := by
  cases e with
  | panic => exact hb.elim
  | exhausted => trivial
  | endless p => exact ⟨hb.shape, hb.awake, hb.passage, fun ht ↦ hb.tended (tended_kid hs hid ht)⟩

/-- What a worker does in a step is all right for the host. -/
theorem host_of_whole {x : Run (World κ) α} (hid : (w.worker? id).isSome)
    (hx : KeepsAt (whole id) x w) : KeepsAt host x w :=
  hx.mono (fun hs ↦ hs) (fun _ hs hs' hr ↦ ⟨hs', host_rel_of_whole hs hid hr⟩) fun _ _ hs hb ↦
    host_broken_of_whole hs hid hb

theorem host_of_still {x : Run (World κ) α} (hx : KeepsAt (still 0) x w) : KeepsAt host x w :=
  hx.mono (fun hs ↦ hs) (fun _ _ hs' hr ↦ ⟨hs', ⟨hr.1.1.toPassage, hr.1.2⟩, hr.1.1.rooted⟩)
    fun _ _ _ hb ↦ hb.host

/-- What is done for the root is all right for the host, as long as there is a root. -/
theorem host_of_quiet {x : Run (World κ) α} (hw : w.root.isSome) (hx : KeepsAt (quiet 0) x w) :
    KeepsAt host x w :=
  hx.mono (⟨·, hw⟩) (fun _ _ hi' hr ↦ ⟨hi'.1, ⟨hr.1.toPassage, hr.2⟩, hr.1.rooted⟩)
    fun _ _ _ hb ↦ hb.host

theorem hosts : (regime : Regime κ).Hosts host where
  act_inv hs hw := ⟨hs, hw⟩
  act_rel _ hi' hr := ⟨hi'.1, ⟨hr.1.toPassage, hr.2⟩, hr.1.rooted⟩
  act_broken _ hb := by
    rcases hb with ⟨rfl, hi', hr⟩ | hb
    · exact ⟨hi'.1, ⟨hr.1.toPassage, hr.2⟩, hr.1.rooted⟩
    · exact hb.host
  whole_inv hs _ := hs
  whole_rel hs hid hs' hr := ⟨hs', host_rel_of_whole hs hid hr⟩
  whole_broken hs hid hb := host_broken_of_whole hs hid hb
  rooted _ hr hw := hr.2.trans hw
  flag hid := host_of_whole hid (whole_of_still (keepsAt_flag (.inl rfl)))
  clock f w := host_of_still (keeps_clock f w)
  loader f w := host_of_still (keeps_loader f w)

/-! ## What the host itself does -/

theorem run_postAt_ok {side : Side} {q : Payload} {m : Message} (hq : Message.encode q = .ok m) :
    postAt id side q w = .ok .done (w.deposited id side m) := by
  rw [postAt, hq]
  rfl

/-- A payload that cannot be written is refused and changes nothing. -/
theorem run_postAt_error {side : Side} {q : Payload} {e : SerializationError}
    (hq : Message.encode q = .error e) : postAt id side q w = .ok (.unserializable e) w := by
  rw [postAt, hq]
  rfl

/-- The host gets a handle of a worker if the script can be loaded. -/
theorem run_employ (w : World κ) (script : String) :
    employ script w = if w.loader.contains script then
      .ok (.worker (some (w.workers.length + 1)))
        { w.spawned 0 script with
          handles := (w.spawned 0 script).handles ++ [w.workers.length + 1] }
    else .ok (.uncreatable (.scriptNotFound script)) w := by
  have hrun := run_spawn w 0 script
  rw [employ]
  by_cases h : w.loader.contains script = true
  · rw [if_pos h] at hrun
    rw [run_bind_ok hrun, if_pos h]
    rfl
  · rw [if_neg h] at hrun
    rw [run_bind_ok hrun, if_neg h]
    rfl

theorem keepsAt_postAt {side : Side} (q : Payload) (hid : (w.worker? id).isSome) :
    KeepsAt host (postAt id side q) w := by
  rw [postAt]
  split
  · exact (host_of_whole hid (whole_of_still (keepsAt_deposit (.inl rfl) _))).bind
      fun _ w₁ _ _ _ ↦ keepsAt_pure _ _ w₁
  · exact keepsAt_pure _ _ w

/-- Without a root nobody is registered, and a worker is only told to end. -/
theorem run_dismiss_of_dropped {finish : WorkerId → Run (World κ) Unit} (hs : w.Shape)
    (hw : ¬ w.root.isSome) :
    dismiss finish 0 id w = (flag id >>= fun _ ↦ pure () : Run (World κ) Unit) w := by
  have hkids : (w.scope 0).kids.contains id = false := by
    rw [Option.not_isSome_iff_eq_none] at hw
    simp [scope, hw]
  have hrun : terminateKid finish 0 id w = .ok false w := by
    rw [run_terminateKid hs, hkids]
    rfl
  rw [dismiss, run_bind_ok hrun]
  rfl

theorem keepsAt_dismiss_handle (hid : w.owner? id = some 0) :
    KeepsAt host (dismiss (stepFully engine) 0 id) w := by
  by_cases hw : w.root.isSome
  · exact host_of_quiet hw (keepsAt_dismiss (lawful engine).brings_stepFully hid)
  · intro hs
    rw [run_dismiss_of_dropped hs hw]
    exact (host_of_still (keepsAt_flag (.inr hid))).bind
      (fun _ w₁ _ _ _ ↦ keepsAt_pure _ () w₁) hs

theorem keepsAt_employ (script : String) (hw : w.root.isSome) : KeepsAt host (employ script) w := by
  refine (host_of_quiet hw (keeps_spawn script w)).bind fun r w₁ h _ _ ↦ ?_
  cases r with
  | error e => exact keepsAt_pure _ _ w₁
  | ok id =>
    have hid : w₁.owner? id = some 0 := owner?_of_spawn h
    refine KeepsAt.bind (keepsAt_modify fun hi ↦ ?_) fun _ w₂ _ _ _ ↦ keepsAt_pure _ _ w₂
    have hshape : ({ w₁ with handles := w₁.handles ++ [id] } : World κ).Shape := by
      refine ⟨hi.root.mono fun _ _ h ↦ h, fun c k hk ↦ (hi.workers c k hk).mono fun _ _ h ↦ h,
        fun c hc ↦ ?_⟩
      rcases List.mem_append.1 hc with hc | hc
      · exact hi.handles c hc
      · exact List.mem_singleton.1 hc ▸ hid
    exact ⟨hshape, ⟨⟨fun c k hk ↦ ⟨k, hk, .refl k⟩, [], by simp, by simp⟩, fun h ↦ h⟩, rfl⟩

/-- The root may be given up once it has no workers. -/
theorem dropped_changed (hs : w.Shape) (hkids : (w.scope 0).kids = []) :
    anyHost.inv { w with root := none } ∧ anyHost.rel w { w with root := none } := by
  refine ⟨⟨?_, fun c k hk ↦ (hs.workers c k hk).mono fun _ _ h ↦ h, hs.handles⟩,
    ⟨fun c k hk ↦ ⟨k, hk, .refl k⟩, [], by simp, by simp⟩, fun ht p hp c hc ↦ ?_⟩
  · exact ⟨by simp [scope], by simp [scope], by simp [scope]⟩
  · rcases ht p hp c hc with hk | hd | ha
    · cases p with
      | zero =>
        rw [hkids] at hk
        cases hk
      | succ n => exact .inl hk
    · exact .inr (.inl hd)
    · cases ha

theorem terminateKids_of_dropped {finish : WorkerId → Run (World κ) Unit} (hw : w.root = none) :
    terminateKids finish 0 w = .ok () w := by
  have hkids : (w.scope 0).kids = [] := by simp [scope, hw]
  have hsame : w.unregister 0 [] = w := by
    cases w
    cases hw
    rfl
  rw [run_terminateKids, hkids, hsame]
  rfl

theorem any_of_host {x : Run (World κ) α} (hx : KeepsAt host x w) : KeepsAt anyHost x w := by
  refine hx.mono (fun hs ↦ hs) (fun _ _ hs' hr ↦ ⟨hs', hr.1⟩) fun e w' _ hb ↦ ?_
  cases e with
  | panic => exact ⟨hb.1, hb.2.1⟩
  | exhausted => trivial
  | endless p => exact hb

/-- The root is given up after its workers have been brought to their ends. -/
theorem keeps_drop : Keeps anyHost (drop engine) := by
  intro w hs
  have hfin := (lawful engine).brings_stepFully
  rw [drop]
  by_cases hw : w.root.isSome
  · refine KeepsAt.bind (any_of_host (host_of_quiet hw (keeps_terminateKids hfin w)))
      (fun _ w₁ h _ _ ↦ keepsAt_modify fun hs₁ ↦ ?_) hs
    exact dropped_changed hs₁ (kids_of_terminateKids hfin ⟨hs, hw⟩ h)
  · rw [Option.not_isSome_iff_eq_none] at hw
    rw [run_bind_ok (terminateKids_of_dropped hw)]
    exact dropped_changed hs (by simp [scope, hw])

/-- **Order is kept by everything that a host does.** -/
theorem keeps_perform (engine : Engine κ) (unlimited : Bool) (fuel : Nat) (op : HostOp) :
    Keeps anyHost (perform engine unlimited fuel op) := by
  intro w hs
  have hl := lawful engine
  have hfin := hl.brings_stepFully
  by_cases hop : op.direct = true
  · cases op with
    | spawn script =>
      exact any_of_host (Regime.Hosts.keepsAt_withRoot fun hw ↦ keepsAt_employ script hw) hs
    | post id q =>
      refine any_of_host (Regime.Hosts.keepsAt_withHandle fun hid ↦ keepsAt_postAt q ?_) hs
      exact worker?_isSome_of_owner? (hs.handles id hid)
    | listen id cb =>
      refine any_of_host (Regime.Hosts.keepsAt_withHandle fun hid ↦ ?_) hs
      have hown := hs.handles id hid
      have hne : id ≠ 0 := Nat.ne_of_gt (hs.owner_lt hown)
      exact (host_of_still (keepsAt_exchange (.inr hown) (fun _ ↦ hne) cb)).bind
        fun _ w₁ _ _ _ ↦ keepsAt_pure _ _ w₁
    | terminate id =>
      refine any_of_host (Regime.Hosts.keepsAt_withHandle fun hid ↦ ?_) hs
      exact (keepsAt_dismiss_handle (hs.handles id hid)).bind fun _ w₁ _ _ _ ↦ keepsAt_pure _ _ w₁
    | linkPost id side q =>
      exact any_of_host (Regime.Hosts.keepsAt_withWorker fun hid ↦ keepsAt_postAt q hid) hs
    | kidTerminate id =>
      refine any_of_host (Regime.Hosts.keepsAt_withRoot fun hw ↦
        Regime.Hosts.keepsAt_withWorker fun _ ↦ ?_) hs
      exact (host_of_quiet hw (keeps_terminateKid hfin w)).bind fun _ w₁ _ _ _ ↦ keepsAt_pure _ _ w₁
    | terminateAll =>
      refine any_of_host (Regime.Hosts.keepsAt_withRoot fun hw ↦ ?_) hs
      exact (host_of_quiet hw (keeps_terminateKids hfin w)).bind fun _ w₁ _ _ _ ↦
        keepsAt_pure _ _ w₁
    | timerAdd cb period =>
      refine any_of_host (Regime.Hosts.keepsAt_withRoot fun hw ↦ ?_) hs
      exact (host_of_quiet hw (keeps_addTimer cb period w)).bind fun _ w₁ _ _ _ ↦
        keepsAt_pure _ _ w₁
    | timerRemove id =>
      refine any_of_host (Regime.Hosts.keepsAt_withRoot fun hw ↦ ?_) hs
      exact (host_of_quiet hw (keeps_removeTimer id w)).bind fun _ w₁ _ _ _ ↦ keepsAt_pure _ _ w₁
    | timerClear =>
      refine any_of_host (Regime.Hosts.keepsAt_withRoot fun hw ↦ keepsAt_read_bind ?_) hs
      exact (host_of_quiet hw (keeps_timers _ w)).bind fun _ w₁ _ _ _ ↦ keepsAt_pure _ _ w₁
    | drop => exact (keeps_drop w).bind (fun _ w₁ _ _ _ ↦ keepsAt_pure _ _ w₁) hs
    | _ => cases hop
  · exact any_of_host (hosts.keeps_perform hl unlimited fuel (Bool.eq_false_iff.2 hop) w) hs

/-! ## All runs -/

/-- A new world is in shape. -/
theorem shape_tended_of_created {loader : Loader} (h : create engine loader = .ok w) :
    w.Shape ∧ Tended [] 0 w := by
  rw [create] at h
  cases hc : engine.create 0 with
  | error e =>
    rw [hc] at h
    cases h
  | ok c =>
    rw [hc] at h
    cases h
    refine ⟨⟨⟨by simp [scope], by simp [scope], by simp [scope]⟩, fun c k hk ↦ ?_, by simp⟩,
      fun p _ c hc ↦ ?_⟩
    · cases c <;> cases hk
    · obtain ⟨k, hk, -⟩ := owner?_eq_some_iff.1 hc
      cases c <;> cases hk

/-- What holds of a world holds of it when its events have been taken note of. -/
theorem shape_tended_cleared (h : w.Shape ∧ Tended [] 0 w) :
    ({ w with events := #[] } : World κ).Shape ∧ Tended [] 0 { w with events := #[] } := by
  have hsame : Same w { w with events := #[] } := ⟨rfl, rfl, rfl⟩
  exact ⟨hsame.shape h.1, h.2⟩

variable {loader : Loader} {allowed : HostOp → Prop} {unlimited : Bool} {fuel : Nat} {op : HostOp}

/-- An operation that comes back leaves order. -/
theorem shape_tended_of_performed {a : Answer} (hw : w.Shape ∧ Tended [] 0 w)
    (h : perform engine unlimited fuel op { w with events := #[] } = .ok a w') :
    w'.Shape ∧ Tended [] 0 w' := by
  obtain ⟨hs, hr⟩ := (keeps_perform _ _ _ _ _).ok (shape_tended_cleared hw).1 h
  exact ⟨hs, hr.2 (shape_tended_cleared hw).2⟩

/-- So does one that panics. -/
theorem shape_tended_of_panicked (hw : w.Shape ∧ Tended [] 0 w)
    (h : perform engine unlimited fuel op { w with events := #[] } = .error .panic w') :
    w'.Shape ∧ Tended [] 0 w' := by
  obtain ⟨hs, hr⟩ := (keeps_perform _ _ _ _ _).error (shape_tended_cleared hw).1 h
  exact ⟨hs, hr.2 (shape_tended_cleared hw).2⟩

/-- Between operations everything is in shape, and nobody is lost. -/
theorem shape_tended_of_reachable (h : Reachable engine loader allowed w) :
    w.Shape ∧ Tended [] 0 w := by
  induction h with
  | created h => exact shape_tended_of_created h
  | performed _ _ h ih => exact shape_tended_of_performed ih h
  | panicked _ _ h ih => exact shape_tended_of_panicked ih h

/-- While a context has control everything is in shape, and nobody under that context is lost. -/
theorem inv_tended_of_moment (h : Moment engine loader allowed me w) :
    (quiet me).inv w ∧ Tended [] me w := by
  obtain ⟨w₀, unlimited, fuel, op, hw₀, -, h⟩ := h
  have h₀ := shape_tended_cleared (shape_tended_of_reachable hw₀)
  obtain ⟨hs, ha, -, ht⟩ := (keeps_perform _ _ _ _ _).error h₀.1 h
  exact ⟨⟨hs, ha⟩, ht h₀.2⟩

end Order

end ScriptWorkers
