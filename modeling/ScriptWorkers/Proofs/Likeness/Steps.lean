import ScriptWorkers.Proofs.Likeness.Serve
import ScriptWorkers.World.Step

/-!
# Steps in worlds alike

What is asked of the script contexts of both sides for whole steps to keep worlds alike: `Callees`
for the callbacks that the core invokes, `Engines` for everything that a worker does with its
context.  Neither says how this comes about: the two contexts may do the same, or one may do more
than the other as long as the worlds are alike in the end.

## What is here

* `Plan.Pairs` and `meets_run`: plans that ask for the same things are served alike.
* `meets_drainBox`, `meets_pump`, `meets_tickTimers`: what the core does for a context.
* `meets_start`, `meets_iterate`, `meets_conclude`, `meets_crash`: the phases of a thread, and
  `ends_step`: a whole step, by induction on the depth of the tree.
* `engines_same`: if contexts have to be the same, one engine does on both sides.
-/

namespace ScriptWorkers

/-- Two plans ask for the same things and end in related values. -/
inductive Plan.Pairs {Q : Type} {R : Q → Type} {α β : Type} (S : α → β → Prop) :
    Plan R α → Plan R β → Prop
  | done {a : α} {b : β} : S a b → Pairs S (.done a) (.done b)
  | ask {q : Q} {next₁ : R q → Plan R α} {next₂ : R q → Plan R β} :
    (∀ r, Pairs S (next₁ r) (next₂ r)) → Pairs S (.ask q next₁) (.ask q next₂)

theorem Plan.Pairs.refl {Q : Type} {R : Q → Type} {α : Type} {S : α → α → Prop} (hS : ∀ a, S a a) :
    ∀ p : Plan R α, p.Pairs S p
  | .done a => .done (hS a)
  | .ask _ next => .ask fun r ↦ Pairs.refl hS (next r)

namespace Likeness

variable {κ₁ κ₂ : Type} {L : Likeness κ₁ κ₂} {id me : WorkerId}

open World

/-! ## Entering a context -/

/-- By induction on the two plans. -/
theorem meets_run {α β : Type} {S : α → β → Prop} {p₁ : FreePlan α} {p₂ : FreePlan β}
    {serve₁ : (q : Request) → Run (World κ₁) q.Reply}
    {serve₂ : (q : Request) → Run (World κ₂) q.Reply}
    (hserve : ∀ q, L.Meets Eq (serve₁ q) (serve₂ q)) (hp : p₁.Pairs S p₂) :
    L.Meets S (p₁.run serve₁) (p₂.run serve₂) := by
  induction hp with
  | done h => exact meets_pure h
  | ask _ ih => exact (hserve _).next ih

/-- How the core takes the end of an entry. -/
def leave {κ : Type} (me : WorkerId) : Ending → Run (World κ) (Except ScriptError Unit)
  | .done => return .ok ()
  | .failed e => return .error e
  | .panicked => throw .panic
  | .endless => throw (.endless me)

variable {fin₁ : WorkerId → Run (World κ₁) Unit} {fin₂ : WorkerId → Run (World κ₂) Unit}

/-- Both contexts are entered and left with endings that the core takes alike. -/
theorem meets_enter {E : Ending → Ending → Prop}
    {R : Except ScriptError Unit → Except ScriptError Unit → Prop} (hfin : L.Ends fin₁ fin₂)
    (hme : L.inside me) (hR : R (.ok ()) (.ok ()))
    (hE : ∀ x y, E x y → L.Meets R (leave me x) (leave me y))
    {f₁ : κ₁ → FreePlan (κ₁ × Ending)} {f₂ : κ₂ → FreePlan (κ₂ × Ending)}
    (hf : ∀ c₁ c₂, L.context c₁ c₂ →
      (f₁ c₁).Pairs (fun r₁ r₂ ↦ L.context r₁.1 r₂.1 ∧ E r₁.2 r₂.2) (f₂ c₂)) :
    L.Meets R (enter fin₁ me f₁) (enter fin₂ me f₂) := by
  refine (meets_read_context hme).bind fun o₁ o₂ ho ↦ ?_
  cases ho with
  | none => exact meets_pure hR
  | some hc =>
    refine (meets_run (meets_serve hfin hme) (hf _ _ hc)).bind ?_
    rintro ⟨c₁, x⟩ ⟨c₂, y⟩ ⟨hc', hxy⟩
    refine (meets_set_context hme (.some hc')).next fun _ ↦ ?_
    have h := hE x y hxy
    cases x <;> cases y <;> exact h

/-! ## Callbacks -/

/-- The callbacks of two contexts do the same to worlds alike, as far as the core invokes them: for
a message or for an interval. -/
structure Callees (L : Likeness κ₁ κ₂) (c₁ : Callee (World κ₁)) (c₂ : Callee (World κ₂)) :
    Prop where
  message : ∀ slot v, L.Meets Eq (c₁.invoke .message slot [Message.event v])
    (c₂.invoke .message slot [Message.event v])
  timer : ∀ slot, L.Meets Eq (c₁.invoke .timer slot []) (c₂.invoke .timer slot [])
  log : ∀ line, L.Meets Eq (c₁.log line) (c₂.log line)

section Callees

variable {c₁ : Callee (World κ₁)} {c₂ : Callee (World κ₂)}

/-- A message is delivered on both sides, or can be read on neither. -/
theorem meets_deliver (hc : L.Callees c₁ c₂) (slot : Slot) (m : Message) :
    L.Meets Eq (c₁.deliver slot m) (c₂.deliver slot m) := by
  rw [Callee.deliver, Callee.deliver]
  cases m.decode with
  | ok v => exact hc.message slot v
  | error e => exact hc.log _

section Drain

variable {p₁ : Place (World κ₁) Mailbox} {p₂ : Place (World κ₂) Mailbox}
  (hread : L.Meets Eq p₁.read p₂.read)
include hread

/-- By induction on the messages. -/
theorem meets_walk (hc : L.Callees c₁ c₂) :
    ∀ ms, L.Meets Eq (Mailbox.walk p₁ c₁ ms) (Mailbox.walk p₂ c₂ ms)
  | [] => meets_pure rfl
  | m :: rest => by
    refine hread.next fun box ↦ ?_
    cases box.callback with
    | none => exact meets_pure rfl
    | some slot =>
      exact (meets_deliver hc slot m).next fun _ ↦ (meets_walk hc rest).next fun _ ↦ meets_pure rfl

theorem meets_drain (hc : L.Callees c₁ c₂)
    (hsettle : ∀ n : Nat, L.Meets Eq (p₁.update (·.settle n)) (p₂.update (·.settle n))) :
    L.Meets Eq (Mailbox.drain p₁ c₁) (Mailbox.drain p₂ c₂) := by
  refine hread.next fun box ↦ meets_ite Iff.rfl (fun _ ↦ meets_pure rfl) fun _ ↦ ?_
  exact (meets_walk hread hc box.items).next fun n ↦ (hsettle n).next fun _ ↦ meets_pure rfl

end Drain

/-- By induction on the intervals that are due. -/
theorem meets_fire (hme : L.inside me) (hc : L.Callees c₁ c₂) :
    ∀ ts, L.Meets Eq (Timers.fire (timersPlace me) c₁ ts) (Timers.fire (timersPlace me) c₂ ts)
  | [] => meets_pure rfl
  | t :: rest => by
    refine (meets_read_timers hme).next fun _ ↦ meets_ite Iff.rfl (fun _ ↦ ?_) fun _ ↦
      meets_fire hme hc rest
    exact (hc.timer t.callback).next fun _ ↦ (meets_fire hme hc rest).next fun _ ↦ meets_pure rfl

theorem meets_tick (hme : L.inside me) (hc : L.Callees c₁ c₂) (now : Float) :
    L.Meets Eq (Timers.tick (timersPlace me) c₁ now) (Timers.tick (timersPlace me) c₂ now) :=
  (meets_read_timers hme).next fun _ ↦ (meets_update_timers hme _).next fun _ ↦ meets_fire hme hc _

theorem meets_noting_call {R : Except ScriptError Unit → Except ScriptError Unit → Prop}
    {slot : Slot}
    {args : List Json} (hme : L.inside me) (h : L.Meets R (c₁.call slot args) (c₂.call slot args))
    (cause : Cause) :
    L.Meets R ((noting c₁ me cause).call slot args) ((noting c₂ me cause).call slot args) := by
  refine (meets_read_desk hme).bind ?_
  rintro d _ ⟨rfl, -⟩
  exact (meets_record hme).next fun _ ↦ h

theorem meets_noting_log {line : LogLine} (hme : L.inside me)
    (h : L.Meets Eq (c₁.log line) (c₂.log line)) (cause : Cause) :
    L.Meets Eq ((noting c₁ me cause).log line) ((noting c₂ me cause).log line) :=
  (meets_record hme).next fun _ ↦ h

/-- Calls that end alike are reported alike. -/
theorem meets_invoke {o : Origin} {slot : Slot} {args : List Json}
    (hcall : L.Meets Eq (c₁.call slot args) (c₂.call slot args))
    (hlog : ∀ line, L.Meets Eq (c₁.log line) (c₂.log line)) :
    L.Meets Eq (c₁.invoke o slot args) (c₂.invoke o slot args) := by
  refine hcall.next fun r ↦ ?_
  cases r with
  | ok u => exact meets_pure rfl
  | error e => exact hlog _

section Noting

variable (hc : ∀ cause, L.Callees (noting c₁ me cause) (noting c₂ me cause))
include hc

theorem meets_drainBox (hme : L.inside me) (hid : L.inside id) (side : Side) :
    L.Meets Eq (drainBox c₁ me id side) (drainBox c₂ me id side) := by
  have hread := meets_read_box hid side
  refine hread.next fun box ↦ (meets_record hme).next fun _ ↦ ?_
  refine (meets_drain hread (hc _) fun n ↦ meets_update_box hid side _).next fun n ↦ ?_
  exact (meets_record hme).next fun _ ↦ meets_pure rfl

theorem meets_pumpOne (hme : L.inside me) (hid : L.inside id) :
    L.Meets Eq (pumpOne c₁ me id) (pumpOne c₂ me id) :=
  (meets_read_link hid).next fun _ ↦ meets_ite Iff.rfl (fun _ ↦ meets_pure rfl) fun _ ↦
    meets_drainBox hc hme hid .outbox

theorem meets_pumpAll (hme : L.inside me) : ∀ {ids : List WorkerId}, (∀ c ∈ ids, L.inside c) →
    L.Meets Eq (pumpAll c₁ me ids) (pumpAll c₂ me ids)
  | [], _ => meets_pure rfl
  | _ :: _, h => (meets_pumpOne hc hme (h _ List.mem_cons_self)).next fun _ ↦
      (meets_pumpAll hme fun c hmem ↦ h c (List.mem_cons_of_mem _ hmem)).next fun _ ↦ meets_pure rfl

theorem meets_pump (hme : L.inside me) : L.Meets Eq (pump c₁ me) (pump c₂ me) := by
  refine (meets_read_kids hme).bind ?_
  rintro kids _ ⟨rfl, hkids⟩
  exact meets_pumpAll hc hme hkids

theorem meets_tickTimers (hme : L.inside me) : L.Meets Eq (tickTimers c₁ me) (tickTimers c₂ me) :=
  meets_read_clock.next fun _ ↦ meets_tick hme (hc .timer) _

end Noting

end Callees

/-! ## Steps -/

/-- What two engines have to do for steps of workers to keep worlds alike. -/
structure Engines (L : Likeness κ₁ κ₂) (e₁ : Engine κ₁) (e₂ : Engine κ₂) : Prop where
  depth : e₁.depth = e₂.depth
  create : ∀ id, (∃ c₁ c₂, e₁.create id = .ok c₁ ∧ e₂.create id = .ok c₂ ∧ L.context c₁ c₂) ∨
    ∃ x, e₁.create id = .error x ∧ e₂.create id = .error x
  callee : ∀ {fin₁ fin₂ me}, L.Ends fin₁ fin₂ → L.inside me → ∀ cause,
    L.Callees (noting (callee e₁ fin₁ me) me cause) (noting (callee e₂ fin₂ me) me cause)
  execute : ∀ {fin₁ fin₂ me}, L.Ends fin₁ fin₂ → L.inside me → ∀ script,
    L.Meets Eq (execute e₁ fin₁ me script) (execute e₂ fin₂ me script)

theorem meets_giveUp (hme : L.inside me) (script : String) (e : ScriptError) :
    L.Meets Eq (giveUp me script e) (giveUp me script e) :=
  (meets_note hme _).next fun _ ↦ (meets_flag hme).next fun _ ↦ meets_pure rfl

/-- The intervals are cleared and the workers terminated on both sides. -/
theorem meets_tearDown (hfin : L.Ends fin₁ fin₂) (hme : L.inside me) :
    L.Meets Eq (tearDown fin₁ me) (tearDown fin₂ me) := by
  refine (meets_terminateKids hfin hme).next fun _ ↦ (meets_update_timers hme _).next fun _ ↦ ?_
  exact (meets_set_context hme .none).next fun _ ↦ meets_setPhase me .exited

theorem meets_crash (hfin : L.Ends fin₁ fin₂) (hme : L.inside me) :
    L.Meets Eq (crash fin₁ me) (crash fin₂ me) :=
  (meets_tearDown hfin hme).next fun _ ↦ meets_modify fun _ _ hw ↦
    hw.updateWorker (fun _ ↦ rfl) (fun _ ↦ rfl) fun _ _ hk ↦ { hk with crashed := rfl }

theorem meets_conclude (hfin : L.Ends fin₁ fin₂) (hme : L.inside me) :
    L.Meets Eq (conclude fin₁ me) (conclude fin₂ me) := by
  refine meets_get_bind fun w₁ w₂ hw ↦ ?_
  exact meets_ite (by rw [hw.isLive hme, hw.link hme]) (fun _ ↦ meets_tearDown hfin hme) fun _ ↦
    meets_pure rfl

/-- A thread that panics on one side panics on the other. -/
theorem After.onPanic {x₁ h₁ : Run (World κ₁) Unit} {x₂ h₂ : Run (World κ₂) Unit} {w₁ : World κ₁}
    {w₂ : World κ₂} (h : L.After Eq (x₁ w₁) (x₂ w₂)) (hh : L.Meets Eq h₁ h₂) :
    L.After Eq (onPanic x₁ h₁ w₁) (onPanic x₂ h₂ w₂) := by
  rw [World.onPanic, World.onPanic]
  cases hr₁ : x₁ w₁ with
  | ok a₁ v₁ =>
    rw [hr₁] at h
    obtain ⟨a₂, v₂, hr₂, ha, hv⟩ := h.ok_left
    rw [hr₂]
    exact ⟨ha, hv⟩
  | error e v₁ =>
    rw [hr₁] at h
    obtain ⟨v₂, hr₂, hv⟩ := h.error_left
    rw [hr₂]
    cases e with
    | panic => exact hh v₁ v₂ hv
    | exhausted => exact ⟨rfl, hv⟩
    | endless n => exact ⟨rfl, hv⟩

section Engines

variable {e₁ : Engine κ₁} {e₂ : Engine κ₂} (he : L.Engines e₁ e₂)
include he

theorem meets_start (hfin : L.Ends fin₁ fin₂) (hme : L.inside me) (script : String) :
    L.Meets Eq (start e₁ fin₁ me script) (start e₂ fin₂ me script) := by
  rw [start, start]
  rcases he.create me with ⟨c₁, c₂, h₁, h₂, hc⟩ | ⟨x, h₁, h₂⟩
  · rw [h₁, h₂]
    exact (meets_set_context hme (.some hc)).next fun _ ↦
      (he.execute hfin hme script).next fun _ ↦ meets_setPhase me .loop
  · rw [h₁, h₂]
    exact meets_giveUp hme script x

theorem meets_iterate (hfin : L.Ends fin₁ fin₂) (hme : L.inside me) :
    L.Meets Eq (iterate e₁ fin₁ me) (iterate e₂ fin₂ me) := by
  have hc := he.callee hfin hme
  refine (meets_tickTimers hc hme).next fun _ ↦ (meets_drainBox hc hme hme .inbox).next fun _ ↦ ?_
  exact (meets_pump hc hme).next fun _ ↦ meets_pure rfl

theorem meets_turn (hfin : L.Ends fin₁ fin₂) (hme : L.inside me) {k₁ : Worker κ₁} {k₂ : Worker κ₂}
    (hk : L.Workers k₁ k₂) : L.Meets Eq (turn e₁ fin₁ me k₁) (turn e₂ fin₂ me k₂) := by
  rw [turn, turn, hk.phase, hk.script]
  cases k₂.phase with
  | start => exact meets_start he hfin hme _
  | loop => exact meets_iterate he hfin hme
  | exited => exact meets_pure rfl

/-- A step of a worker that counts keeps worlds alike. -/
theorem ends_step : ∀ n, L.Ends (step e₁ n) (step e₂ n)
  | 0 => fun _ _ ↦ meets_throw .exhausted
  | n + 1 => by
    intro me hme
    have hfin := ends_step n
    refine meets_get_bind fun w₁ w₂ hw ↦ ?_
    rcases hw.worker hme with ⟨h₁, h₂⟩ | ⟨k₁, k₂, h₁, h₂, hk⟩
    · rw [h₁, h₂]
      exact meets_pure rfl
    · rw [h₁, h₂]
      intro v₁ v₂ hv
      exact ((meets_turn he hfin hme hk).next fun _ ↦ meets_conclude hfin hme) v₁ v₂ hv |>.onPanic
        (meets_crash hfin hme)

end Engines

/-! ## The same engine on both sides -/

section Same

variable {κ : Type} {L : Likeness κ κ} (hL : ∀ c₁ c₂, L.context c₁ c₂ ↔ c₁ = c₂)
include hL

theorem meets_enter_same {fin₁ fin₂ : WorkerId → Run (World κ) Unit} {me : WorkerId}
    (hfin : L.Ends fin₁ fin₂) (hme : L.inside me) (f : κ → FreePlan (κ × Ending)) :
    L.Meets Eq (enter fin₁ me f) (enter fin₂ me f) := by
  refine meets_enter (E := Eq) hfin hme rfl ?_ fun c₁ c₂ hc ↦ ?_
  · rintro x _ rfl
    cases x with
    | done | failed e => exact meets_pure rfl
    | panicked | endless => exact meets_throw _
  · rw [hL] at hc
    subst hc
    exact Plan.Pairs.refl (fun r ↦ ⟨(hL _ _).2 rfl, rfl⟩) _

/-- Where contexts have to be the same, an engine does the same on both sides. -/
theorem engines_same (e : Engine κ) : L.Engines e e where
  depth := rfl
  create id := by
    cases e.create id with
    | ok c => exact .inl ⟨c, c, rfl, rfl, (hL c c).2 rfl⟩
    | error x => exact .inr ⟨x, rfl, rfl⟩
  callee {fin₁ fin₂ me} hfin hme cause := by
    have hcall (slot : Slot) (args : List Json) :
        L.Meets Eq ((noting (callee e fin₁ me) me cause).call slot args)
          ((noting (callee e fin₂ me) me cause).call slot args) :=
      meets_noting_call hme (meets_enter_same hL hfin hme (e.call · slot args)) cause
    have hlog (line : LogLine) : L.Meets Eq ((noting (callee e fin₁ me) me cause).log line)
        ((noting (callee e fin₂ me) me cause).log line) :=
      meets_noting_log hme (meets_note hme (.log line)) cause
    exact ⟨fun slot v ↦ meets_invoke (hcall slot _) hlog,
      fun slot ↦ meets_invoke (hcall slot _) hlog, hlog⟩
  execute hfin hme script := by
    refine meets_read_loader.next fun l ↦ ?_
    cases l.load script with
    | error text => exact meets_note hme _
    | ok code =>
      refine (meets_enter_same hL hfin hme _).next fun r ↦ ?_
      cases r with
      | ok u => exact meets_pure rfl
      | error x => exact meets_note hme _

end Same

end Likeness
end ScriptWorkers
