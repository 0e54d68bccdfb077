import ScriptWorkers.Proofs.Order.Termination

/-!
# Order is kept

Everything that a script context can ask for and everything that the core does keeps order, and so
do all steps of all workers (`Order.lawful`).  This is about engines of any kind: a script context
may ask for anything at any time.

## What is here

* `keeps_serveDesk` and `keeps_serve`: requests, one by one.  A context can only name workers that
  it owns, and what it registers or posts concerns its own links.
* `act_of_quiet`: what is done without waiting is an act of the context in control.
* `Drains`: who may drain which mailbox.  That lasts whatever callbacks do, so a drain keeps order
  from its first message to its last (`keepsAt_drainBox`), and so does a pump (`keeps_pump`).
* `exited_changed`, `keepsAt_tearDown`: how a thread exits.  Its workers have gone before it, which
  is why nobody is orphaned.
* `lawful`: the rules of `ScriptWorkers.Proofs.Regime`, put together.
-/

namespace ScriptWorkers

open World

variable {κ : Type}

namespace Order

variable {w w' : World κ} {c id me p : WorkerId} {finish : WorkerId → Run (World κ) Unit}

/-! ## What a context can ask for -/

section Serve

/-- The workers on a desk are those of its context. -/
theorem owner?_of_holds (hi : (quiet me).inv w) (h : (w.scope me).desk.holds id = true) :
    w.owner? id = some me :=
  (hi.1.fits me).held id (by simpa [Desk.holds] using h)

theorem keepsAt_exchange_kid (hid : w.owner? id = some me) (cb : Option Slot) :
    KeepsAt (quiet me) (exchange (boxPlace id .outbox) cb) w := by
  intro hi
  refine quiet_of_still (keepsAt_exchange (.inr hid) (fun h ↦ ?_) cb) hi
  exact Nat.ne_of_gt (hi.1.owner_lt h)

theorem keeps_exchange_inbox (cb : Option Slot) :
    Keeps (quiet me) (exchange (boxPlace me .inbox) cb : Run (World κ) (Option Slot)) := by
  intro w hi
  refine quiet_of_still (keepsAt_exchange (.inl ⟨rfl, rfl⟩) (fun h ↦ ?_) cb) hi
  exact Nat.ne_of_gt (hi.1.owner_lt h)

theorem keepsAt_exchange_handler {s : Source} (cb : Option Slot)
    (h : ∀ id, s = .worker id → w.owner? id = some me) :
    KeepsAt (quiet me) (exchange (handlerPlace me s) cb) w := by
  cases s with
  | owner => exact keeps_exchange_inbox cb w
  | worker id => exact keepsAt_exchange_kid (h id rfl) cb

/-- A handler is registered for oneself or for a worker of one's own. -/
theorem keepsAt_register {s : Source} (f : Handler)
    (h : ∀ id, s = .worker id → w.owner? id = some me) :
    KeepsAt (quiet me) (register me s f) w := by
  cases f with
  | invalid => exact keeps_note _ w
  | clear => exact (keepsAt_exchange_handler none h).bind fun old w₁ _ _ _ ↦ keeps_forget old w₁
  | function f =>
    refine (keeps_retain f w).bind fun slot w₁ _ _ hr ↦ ?_
    have h₁ (id : WorkerId) (hid : s = .worker id) := hr.1.owner? (h id hid)
    exact (keepsAt_exchange_handler _ h₁).bind fun old w₂ _ _ _ ↦ keeps_forget old w₂

theorem keeps_create (script : String) :
    Keeps (quiet me) (serveDesk finish me (.create script)) := by
  intro w
  refine (keeps_spawn script w).bind fun r w' h _ _ ↦ ?_
  cases r with
  | error e => exact keepsAt_pure _ _ w'
  | ok id =>
    exact (keepsAt_hold (owner?_of_spawn h)).bind fun _ w'' _ _ _ ↦ keepsAt_pure _ _ w''

/-- To let go of a worker is to dismiss it and to forget its handler. -/
theorem keepsAt_retire (hfin : regime.Brings finish) (hid : w.owner? id = some me) :
    KeepsAt (quiet me) (do
      (deskPlace me).update (·.letGo id)
      dismiss finish me id
      let old ← exchange (boxPlace id .outbox) none
      (deskPlace me).update (·.forget old)) w := by
  refine KeepsAt.bind (keeps_desk ?_ w) fun _ w₁ _ _ h₁ ↦ ?_
  · exact fun d c hc ↦ (List.mem_filter.1 hc).1
  have hid₁ := h₁.1.owner? hid
  refine (keepsAt_dismiss hfin hid₁).bind fun _ w₂ _ _ h₂ ↦ ?_
  have hid₂ := h₂.1.owner? hid₁
  exact (keepsAt_exchange_kid hid₂ none).bind fun old w₃ _ _ _ ↦ keeps_forget old w₃

/-- Case by case over what can be asked for over the desk. -/
theorem keeps_serveDesk (hfin : regime.Brings finish) (q : DeskRequest) :
    Keeps (quiet me) (serveDesk finish me q) := by
  intro w
  cases q with
  | note e => exact keeps_note e w
  | post m => exact quiet_of_still (keepsAt_deposit (.inl rfl) m)
  | holds id => exact keepsAt_read_bind (keepsAt_pure _ _ w)
  | function slot => exact keepsAt_read_bind (keepsAt_pure _ _ w)
  | handle s f =>
    intro hi
    refine keepsAt_read_bind (keepsAt_ite (fun h ↦ ?_) fun _ ↦ keepsAt_pure _ _ w) hi
    refine keepsAt_register f fun id hs ↦ ?_
    subst hs
    exact owner?_of_holds hi h
  | handler s =>
    refine keepsAt_read_bind (keepsAt_ite (fun h ↦ ?_) fun _ ↦ keepsAt_pure _ _ w)
    exact keepsAt_read_bind (keepsAt_pure _ _ w)
  | startInterval f period =>
    exact (keeps_retain f w).bind fun slot w₁ _ _ _ ↦ keeps_addTimer slot period w₁
  | stopInterval id =>
    exact (keeps_removeTimer id w).bind fun old w₁ _ _ _ ↦ keeps_forget old w₁
  | create script => exact keeps_create script w
  | send id m =>
    intro hi
    refine keepsAt_read_bind (keepsAt_ite (fun h ↦ ?_) fun _ ↦ keepsAt_pure _ _ w) hi
    exact quiet_of_still (keepsAt_deposit (.inr (owner?_of_holds hi h)) m)
  | retire id =>
    intro hi
    refine keepsAt_read_bind (keepsAt_ite (fun h ↦ ?_) fun _ ↦ keepsAt_pure _ _ w) hi
    exact (keepsAt_retire hfin (owner?_of_holds hi h)).bind fun _ w₁ _ _ _ ↦
      quiet_of_still (keepsAt_record (.refl w₁ me))

/-- Whatever a context asks for is done within its subtree. -/
theorem keeps_serve (hfin : regime.Brings finish) (q : Request) :
    Keeps (quiet me) (serve finish me q) := by
  intro w
  cases q with
  | desk q => exact keeps_serveDesk hfin q w
  | advance s => exact quiet_of_still (keeps_clock _ w)
  | unload id =>
    exact keepsAt_read_bind ((quiet_of_still (keeps_loader _ w)).bind fun _ w₁ _ _ _ ↦
      keepsAt_pure _ _ w₁)
  | listen cb => exact keeps_exchange_inbox cb w
  | addTimer cb period => exact keeps_addTimer cb period w
  | removeTimer id => exact keeps_removeTimer id w
  | spawn script => exact keeps_spawn script w
  | postTo id m =>
    exact keepsAt_get_bind (keepsAt_ite (fun h ↦ quiet_of_still (keepsAt_deposit (.inr h) m))
      fun _ ↦ keepsAt_pure _ _ w)
  | listenTo id cb =>
    exact keepsAt_get_bind (keepsAt_ite (fun h ↦ keepsAt_exchange_kid h cb) fun _ ↦
      keepsAt_pure _ _ w)
  | terminate id =>
    exact keepsAt_get_bind (keepsAt_ite (fun h ↦ keepsAt_dismiss hfin h) fun _ ↦
      keepsAt_pure _ _ w)
  | terminateAll => exact keeps_terminateKids hfin w
  | resign => exact quiet_of_still (keepsAt_flag (.inl rfl))

end Serve

/-! ## What the core does -/

section Core

variable {k : Callee (World κ)}

/-- What is done quietly may be done by a context in control. -/
theorem act_of_quiet {α : Type} {x : Run (World κ) α} (h : KeepsAt (quiet me) x w) :
    KeepsAt (act me) x w :=
  h.mono (fun hi ↦ hi) (fun _ _ hi' hr ↦ ⟨hi', hr⟩) fun _ _ _ hb ↦ .inr hb

/-- The context `me` may drain the mailbox: it is its own inbox or the outbox of one of its
workers. -/
def Drains (me id : WorkerId) (side : Side) (w : World κ) : Prop :=
  id = me ∧ side = .inbox ∨ w.owner? id = some me ∧ side = .outbox

/-- Who may drain a mailbox may do so later. -/
theorem Drains.mono {side : Side} (h : Drains me id side w) (hp : w.Passage w') :
    Drains me id side w' :=
  h.imp_right fun h' ↦ ⟨hp.owner? h'.1, h'.2⟩

theorem keepsAt_record_act {d : Deed} (hd : d.about = me) : KeepsAt (act me) (record d) w :=
  act_of_quiet (quiet_of_still (keepsAt_record (hd ▸ .refl w _)))

theorem noting_keeps (cause : Cause) (hk : k.KeepsAll (act me)) :
    (noting k me cause).KeepsAll (act me) where
  call slot args _ := keepsAt_read_bind ((keepsAt_record_act (by rfl)).bind fun _ w' _ _ _ ↦
    hk.call slot args w')
  log line _ := (keepsAt_record_act (by rfl)).bind fun _ w' _ _ _ ↦ hk.log line w'

theorem stable_drains {side : Side} :
    (act me : Guarantee (World κ)).Stable (Drains me id side) :=
  fun _ h hr ↦ h.mono hr.1.toPassage

theorem keepsAt_settle {side : Side} (hd : Drains me id side w) (n : Nat) :
    KeepsAt (quiet me) ((boxPlace id side).update (·.settle n)) w :=
  quiet_of_still (keepsAt_box (hd.imp (·.1) (·.1)) (fun _ ↦ rfl) (fun _ _ ↦ rfl) fun _ _ _ ↦ rfl)

/-- A drain of one's own inbox, or of the outbox of a worker of one's own, keeps order. -/
theorem keepsAt_drainBox {side : Side} (hk : k.KeepsAll (act me)) (hd : Drains me id side w) :
    KeepsAt (act me) (drainBox k me id side) w := by
  have hdrain : Keeps ((act me).under (Drains me id side))
      (Mailbox.drain (boxPlace id side) (noting k me (.mail id side))) := by
    have hn : (noting k me (.mail id side)).KeepsAll ((act me).under (Drains me id side)) :=
      (noting_keeps (.mail id side) hk).under stable_drains
    exact keeps_drain hn.log (fun w slot args _ ↦ hn.call slot args w) fun n w ↦
      KeepsAt.under stable_drains fun hd ↦ act_of_quiet (keepsAt_settle hd n)
  rw [drainBox]
  refine keepsAt_read_bind ((keepsAt_record_act (by rfl)).bind fun _ w₁ _ hi hr ↦ ?_)
  refine ((hdrain w₁).of_under (stable_drains hi hd hr)).bind fun n w₂ _ _ _ ↦ ?_
  exact (keepsAt_record_act (by rfl)).bind fun _ w₃ _ _ _ ↦ keepsAt_pure _ _ w₃

section Pump

variable {g : Guarantee (World κ)} (hpassage : ∀ {w w'}, g.rel w w' → w.Passage w')
  (hdrain : ∀ {id w}, Drains me id .outbox w → KeepsAt g (drainBox k me id .outbox) w)
include hdrain

theorem keepsAt_pumpOne (hid : w.owner? id = some me) : KeepsAt g (pumpOne k me id) w := by
  rw [pumpOne]
  exact keepsAt_read_bind (keepsAt_ite (fun _ ↦ keepsAt_pure _ _ w) fun _ ↦
    hdrain (.inr ⟨hid, rfl⟩))

include hpassage

theorem keepsAt_pumpAll : ∀ {ids : List WorkerId} {w : World κ},
    (∀ id ∈ ids, w.owner? id = some me) → KeepsAt g (pumpAll k me ids) w
  | [], w, _ => keepsAt_pure _ _ w
  | id :: rest, w, h => by
    refine (keepsAt_pumpOne hdrain (h id (by simp))).bind fun n w₁ _ _ hr ↦ ?_
    have hrest (c : WorkerId) (hc : c ∈ rest) := (hpassage hr).owner? (h c (by simp [hc]))
    exact (keepsAt_pumpAll hrest).bind fun m w₂ _ _ _ ↦ keepsAt_pure _ _ w₂

/-- A pump keeps what drains keep. -/
theorem keeps_pump_of_drains (hshape : ∀ {w}, g.inv w → w.Shape) : Keeps g (pump k me) := by
  intro w hi
  exact keepsAt_read_bind (keepsAt_pumpAll hpassage hdrain ((hshape hi).fits me).kids) hi

end Pump

theorem keeps_pump (hk : k.KeepsAll (act me)) : Keeps (act me) (pump k me) :=
  keeps_pump_of_drains (fun hr ↦ hr.1.toPassage) (keepsAt_drainBox hk) (·.1)

/-- The intervals that are due are called one after the other. -/
theorem keeps_tickTimers (hk : k.KeepsAll (act me)) : Keeps (act me) (tickTimers k me) := by
  intro w
  have hn := noting_keeps .timer hk
  refine keepsAt_read_bind
    (keepsAt_read_bind ((act_of_quiet (keeps_timers _ w)).bind fun _ w₁ _ _ _ ↦ ?_))
  exact keeps_fire hn.log (fun t _ w' _ ↦ hn.call t.callback [] w') w₁

theorem keeps_setPhase_loop (hme : me ≠ 0) :
    Keeps (act me) (setPhase me .loop : Run (World κ) Unit) := by
  refine fun w ↦ act_of_quiet (keepsAt_modify fun hi ↦ ?_)
  obtain ⟨hs, ha⟩ := hi
  have hf : Frame me w (w.updateWorker me fun x ↦ { x with phase := .loop }) := by
    refine .updateWorker (.refl w me) (fun k hk ↦ ?_) fun _ _ _ ↦ rfl
    exact ⟨rfl, rfl, fun h ↦ h, fun hx ↦ absurd hx (ha.phase_ne hk)⟩
  refine ⟨⟨hs.updateWorker (fun _ ↦ rfl) fun k hk ↦ ?_, ?_⟩, hf,
    fun ht ↦ ht.updateWorker hs hf fun _ ↦ rfl⟩
  · have hk' := hs.workers me k hk
    exact ⟨hk'.owner, hk'.scope, by simp, hk'.closed, hk'.waiting⟩
  · rw [Awake, if_neg hme] at ha ⊢
    obtain ⟨k, hk, -⟩ := ha
    exact ⟨_, worker?_updateWorker_self _ hk, by simp⟩

/-! ## How steps end -/

/-- A thread may exit once it has no workers, no intervals and no context. -/
theorem exited_changed (hs : w.Shape) (ha : w.Awake me) (hkids : (w.scope me).kids = [])
    (htimers : (w.scope me).timers.entries = []) (hcontext : (w.scope me).context = none) :
    (whole me).Allows w (setPhase me .exited w) := by
  have hf : Frame me w (w.updateWorker me fun x ↦ { x with phase := .exited }) := by
    refine .updateWorker (.refl w me) (fun k hk ↦ ?_) fun _ _ _ ↦ rfl
    exact ⟨rfl, rfl, fun h ↦ h, fun hx ↦ absurd hx (ha.phase_ne hk)⟩
  refine ⟨hs.updateWorker (fun _ ↦ rfl) fun k hk ↦ ?_, hf,
    fun ht ↦ ht.updateWorker hs hf fun _ ↦ rfl⟩
  have hk' := hs.workers me k hk
  rw [scope_of_worker? hk] at hkids htimers hcontext
  exact ⟨hk'.owner, hk'.scope, fun _ ↦ ⟨hkids, htimers, hcontext⟩, hk'.closed, hk'.waiting⟩

/-- The end of a worker: its workers are terminated first, then it exits. -/
theorem keepsAt_tearDown (hfin : regime.Brings finish) (ha : w.Awake me) :
    KeepsAt (whole me) (tearDown finish me) w := by
  intro hs
  have hi : (quiet me).inv w := ⟨hs, ha⟩
  rw [tearDown]
  cases h₁ : terminateKids finish me w with
  | error e w₁ =>
    rw [run_bind_error h₁]
    exact (keeps_terminateKids hfin w).error hi h₁
  | ok u w₁ =>
    rw [run_bind_ok h₁]
    obtain ⟨hi₁, hr₁⟩ := (keeps_terminateKids hfin w).ok hi h₁
    have hkids := kids_of_terminateKids hfin hi h₁
    obtain ⟨hi₂, hr₂⟩ := (keeps_timers (·.clear) w₁).ok hi₁ rfl
    obtain ⟨hi₃, hr₃⟩ := (keeps_context (fun _ ↦ none) _).ok hi₂ rfl
    have hrel := (quiet me).trans hi hi₁ hr₁ ((quiet me).trans hi₁ hi₂ hr₂ hr₃)
    -- the scope has been emptied: workers, intervals, context
    have hscope : ((contextPlace me).modify (fun _ ↦ none)
        ((timersPlace me).modify (·.clear) w₁)).scope me =
        { w₁.scope me with timers := (w₁.scope me).timers.clear, context := none } := by
      refine (scope_setScope_self hi₂.2.hasScope).trans ?_
      have hinner : ((timersPlace me).modify (·.clear) w₁).scope me =
          { w₁.scope me with timers := (w₁.scope me).timers.clear } :=
        scope_setScope_self hi₁.2.hasScope
      exact congrArg (fun s : Scope κ ↦ { s with context := none }) hinner
    refine Guarantee.Allows.after hs hi₃.1 hrel (exited_changed hi₃.1 hi₃.2 ?_ ?_ ?_)
    · rw [hscope]
      exact hkids
    · rw [hscope]
      rfl
    · rw [hscope]

theorem keeps_crashed :
    Keeps (whole me)
      (modify fun w ↦ w.updateWorker me
        fun x ↦ { x with crashed := true } : Run (World κ) Unit) := by
  refine fun w ↦ keepsAt_modify fun hs ↦ ?_
  have hf : Frame me w (w.updateWorker me fun x ↦ { x with crashed := true }) := by
    refine .updateWorker (.refl w me) (fun k hk ↦ ?_) fun _ _ _ ↦ rfl
    exact ⟨rfl, rfl, fun h ↦ h, fun hx ↦ ⟨hx, rfl⟩⟩
  refine ⟨hs.updateWorker (fun _ ↦ rfl) fun k hk ↦ ?_, hf,
    fun ht ↦ ht.updateWorker hs hf fun _ ↦ rfl⟩
  have hk' := hs.workers me k hk
  exact ⟨hk'.owner, hk'.scope, hk'.rest, hk'.closed, hk'.waiting⟩

end Core

/-- **Order is kept by every step**, whatever the scripts do. -/
theorem lawful (engine : Engine κ) : regime.Lawful engine fun _ ↦ True where
  asks := ⟨fun _ _ _ ↦ Plan.asks_of_forall (fun _ ↦ trivial) _,
    fun _ _ _ ↦ Plan.asks_of_forall (fun _ ↦ trivial) _⟩
  serve _ hfin := fun w ↦ act_of_quiet (keeps_serve hfin _ w)
  context _ _ := fun w ↦ act_of_quiet (keeps_context _ w)
  note _ e := fun w ↦ act_of_quiet (keeps_note e w)
  panicked _ _ _ := Plan.ends_of_forall (fun _ _ _ w hi ↦ .inl ⟨rfl, hi, (quiet _).refl w⟩) _
  endless {me w} hi := .inr ⟨hi.1, hi.2, .refl w me, .refl w, fun h ↦ h⟩
  act_call hi := hi
  call_act _ hi' hr := ⟨hi', hr⟩
  call_act_broken _ hb := hb
  act_panicked {me w} hi := .inl ⟨rfl, hi, (quiet me).refl w⟩
  tick := keeps_tickTimers
  inbox hk := fun w ↦ keepsAt_drainBox hk (.inl ⟨rfl, rfl⟩)
  pump := keeps_pump
  resign _ := fun w ↦ act_of_quiet (quiet_of_still (keepsAt_flag (.inl rfl)))
  looping _ := keeps_setPhase_loop
  entered hs ha _ := ⟨hs, ha⟩
  left _ hi' hr := ⟨hi'.1, hr⟩
  unwound _ hb := by
    rcases hb with ⟨-, hi, hr⟩ | hb
    · exact ⟨⟨hi.1, hr⟩, hi.2⟩
    · exact hb.elim
  flagged _ hr hf := hr.1.flagged hf
  left_broken he _ hb := by
    rcases hb with ⟨he', -⟩ | hb
    · exact absurd he' he
    · exact hb
  calm hb := hb
  exhausted _ := trivial
  tearDown hfin ha _ := keepsAt_tearDown hfin ha
  crashed _ := keeps_crashed

end Order

end ScriptWorkers
