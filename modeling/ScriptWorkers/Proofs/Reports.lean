import ScriptWorkers.Proofs.Likeness.Host
import ScriptWorkers.Proofs.Retirement

/-!
# Errors are reported and change nothing else

A script may end in an error when it is run and whenever it is called back.  The core reports the
error and goes on as if there had been none.

* `Engine.SameEffects`: two engines whose contexts do the same in every entry and may differ only in
  which entries end in an error.  Whatever the host does, the two runs are the same but for reports
  (`Likeness.butReports`).
* `Engine.candid`: the contexts of an engine, made to note their errors themselves and to end well.
  The two runs are the same (`Likeness.confessed`), so the core makes one report for each error and
  no other, with the right origin and at the right place among the events.
* A script that cannot be loaded comes to the same as an empty one, with a report.
-/

namespace ScriptWorkers

variable {κ κ₁ κ₂ : Type}

open World

/-! ## Reports -/

/-- The event is the report of an error. -/
def Event.isReport : Event → Bool
  | .log (.uncaught ..) => true
  | _ => false

/-- The deed is that an error was reported. -/
def Deed.isReport : Deed → Bool
  | .logged _ _ (.uncaught ..) => true
  | _ => false

/-- The same without an error. -/
def Ending.pardoned : Ending → Ending
  | .failed _ => .done
  | x => x

/-- The same without an error. -/
def Answer.pardoned : Answer → Answer
  | .failed _ => .done
  | a => a

/-- Two engines do the same and may only differ in which entries end in an error.  Contexts that
stand in the relation `ρ` ask for the same things, go on the same way with the same replies, and end
up in the relation again. -/
structure Engine.SameEffects (ρ : κ₁ → κ₂ → Prop) (e₁ : Engine κ₁) (e₂ : Engine κ₂) : Prop where
  depth : e₁.depth = e₂.depth
  create : ∀ id, (∃ c₁ c₂, e₁.create id = .ok c₁ ∧ e₂.create id = .ok c₂ ∧ ρ c₁ c₂) ∨
    ∃ x, e₁.create id = .error x ∧ e₂.create id = .error x
  execute : ∀ c₁ c₂ code name, ρ c₁ c₂ → (e₁.execute c₁ code name).Pairs
    (fun r₁ r₂ ↦ ρ r₁.1 r₂.1 ∧ r₁.2.pardoned = r₂.2.pardoned) (e₂.execute c₂ code name)
  call : ∀ c₁ c₂ slot args, ρ c₁ c₂ → (e₁.call c₁ slot args).Pairs
    (fun r₁ r₂ ↦ ρ r₁.1 r₂.1 ∧ r₁.2.pardoned = r₂.2.pardoned) (e₂.call c₂ slot args)

namespace Likeness

/-- Everything is the same but for the reports of errors. -/
def butReports (ρ : κ₁ → κ₂ → Prop) : Likeness κ₁ κ₂ where
  inside _ := True
  context := ρ
  events es₁ es₂ := es₁.toList.filter (!·.2.isReport) = es₂.toList.filter (!·.2.isReport)
  journal ds₁ ds₂ := ds₁.toList.filter (!·.isReport) = ds₂.toList.filter (!·.isReport)
  push_events _ h := by simp [h]
  push_journal _ h := by simp [h]

/-- Everything is the same, except that the journal may not tell of the reports of errors. -/
def confessed : Likeness κ κ where
  inside _ := True
  context := Eq
  events := Eq
  journal ds₁ ds₂ := ds₁.toList.filter (!·.isReport) = ds₂.toList.filter (!·.isReport)
  push_events _ h := by rw [h]
  push_journal _ h := by simp [h]

section Refl

variable {L : Likeness κ κ}

/-- Where everybody counts, a world is like itself, whatever is made of its events and its
journal. -/
theorem worlds_same (hall : ∀ id, L.inside id) (hcontext : ∀ c, L.context c c) (w : World κ)
    {es : Array (WorkerId × Event)} {ds : Array Deed} (hes : L.events es w.events)
    (hds : L.journal ds w.journal) : L.Worlds { w with events := es, journal := ds } w := by
  have hrel {α : Type} {R : α → α → Prop} (hR : ∀ a, R a a) (o : Option α) : Option.Rel R o o := by
    cases o with
    | none => exact .none
    | some a => exact .some (hR a)
  have hscope (s : Scope κ) : L.Scopes s s :=
    ⟨rfl, rfl, rfl, hrel hcontext _, fun c _ ↦ hall c, fun c _ ↦ hall c⟩
  exact ⟨rfl, fun _ ↦ rfl, fun c _ ↦ hall c, fun c _ _ _ ↦ hall c,
    fun c _ ↦ hrel (fun k ↦ ⟨rfl, rfl, rfl, rfl, rfl, hscope k.scope⟩) _, fun _ ↦ hrel hscope _,
    fun _ ↦ rfl, rfl, rfl, hes, hds⟩

end Refl

/-! ## Errors make no difference -/

section ButReports

variable {ρ : κ₁ → κ₂ → Prop}

/-- The computation does nothing but report errors. -/
def OnlyReports {κ : Type} (x : Run (World κ) Unit) : Prop :=
  ∀ w, ∃ es ds, x w = .ok () { w with events := es, journal := ds } ∧
    es.toList.filter (!·.2.isReport) = w.events.toList.filter (!·.2.isReport) ∧
    ds.toList.filter (!·.isReport) = w.journal.toList.filter (!·.isReport)

theorem onlyReports_pure : OnlyReports (pure () : Run (World κ) Unit) :=
  fun w ↦ ⟨w.events, w.journal, rfl, rfl, rfl⟩

theorem onlyReports_note (me : WorkerId) (o : Origin) (x : ScriptError) :
    OnlyReports (note me (.log (.uncaught o x)) : Run (World κ) Unit) :=
  fun w ↦ ⟨_, w.journal, rfl, by simp [Event.isReport], rfl⟩

/-- What the core does about an error of a callback is to report it. -/
theorem onlyReports_log (e : Engine κ) (finish : WorkerId → Run (World κ) Unit) (me : WorkerId)
    (cause : Cause) (o : Origin) (x : ScriptError) :
    OnlyReports ((noting (callee e finish me) me cause).log (.uncaught o x)) :=
  fun _ ↦ ⟨_, _, rfl, by simp [Event.isReport], by simp [Deed.isReport]⟩

/-- Two computations that do nothing but report errors make no difference. -/
theorem OnlyReports.meets {x₁ : Run (World κ₁) Unit} {x₂ : Run (World κ₂) Unit}
    (h₁ : OnlyReports x₁) (h₂ : OnlyReports x₂) : (butReports ρ).Meets Eq x₁ x₂ := by
  intro w₁ w₂ hw
  obtain ⟨es₁, ds₁, hx₁, he₁, hd₁⟩ := h₁ w₁
  obtain ⟨es₂, ds₂, hx₂, he₂, hd₂⟩ := h₂ w₂
  rw [hx₁, hx₂]
  exact ⟨rfl, { hw with events := (he₁.trans hw.events).trans he₂.symm,
                        journal := (hd₁.trans hw.journal).trans hd₂.symm }⟩

section Effects

variable {e₁ : Engine κ₁} {e₂ : Engine κ₂} {fin₁ : WorkerId → Run (World κ₁) Unit}
  {fin₂ : WorkerId → Run (World κ₂) Unit} {me : WorkerId}

/-- An entry that may fail on one side only. -/
theorem meets_enter_pardoned (hfin : (butReports ρ).Ends fin₁ fin₂)
    {f₁ : κ₁ → FreePlan (κ₁ × Ending)} {f₂ : κ₂ → FreePlan (κ₂ × Ending)}
    (hf : ∀ c₁ c₂, ρ c₁ c₂ → (f₁ c₁).Pairs
      (fun r₁ r₂ ↦ ρ r₁.1 r₂.1 ∧ r₁.2.pardoned = r₂.2.pardoned) (f₂ c₂)) :
    (butReports ρ).Meets (fun _ _ ↦ True) (enter fin₁ me f₁) (enter fin₂ me f₂) := by
  refine meets_enter (E := fun x y ↦ x.pardoned = y.pardoned) hfin trivial trivial
    (fun x y hxy ↦ ?_) hf
  cases x <;> cases y <;> first
    | exact meets_pure trivial
    | exact meets_throw _
    | cases hxy

/-- Two engines of the same effects make steps that differ only in reports. -/
theorem engines_butReports (h : e₁.SameEffects ρ e₂) : (butReports ρ).Engines e₁ e₂ where
  depth := h.depth
  create := h.create
  callee {fin₁ fin₂ me} hfin hme cause := by
    have hinvoke (o : Origin) (slot : Slot) (args : List Json) :
        (butReports ρ).Meets Eq ((noting (callee e₁ fin₁ me) me cause).invoke o slot args)
          ((noting (callee e₂ fin₂ me) me cause).invoke o slot args) := by
      have hcall : (butReports ρ).Meets (fun _ _ ↦ True) ((callee e₁ fin₁ me).call slot args)
          ((callee e₂ fin₂ me).call slot args) :=
        meets_enter_pardoned hfin fun c₁ c₂ ↦ h.call c₁ c₂ slot args
      refine (meets_noting_call hme hcall cause).bind fun r₁ r₂ _ ↦ OnlyReports.meets ?_ ?_
      · cases r₁ with
        | ok u => exact onlyReports_pure
        | error x => exact onlyReports_log e₁ fin₁ me cause o x
      · cases r₂ with
        | ok u => exact onlyReports_pure
        | error x => exact onlyReports_log e₂ fin₂ me cause o x
    exact ⟨fun slot v ↦ hinvoke _ slot _, fun slot ↦ hinvoke _ slot _,
      fun line ↦ meets_noting_log hme (meets_note hme _) cause⟩
  execute {fin₁ fin₂ me} hfin hme script := by
    refine meets_read_loader.next fun l ↦ ?_
    cases l.load script with
    | error text => exact meets_note hme _
    | ok code =>
      refine (meets_enter_pardoned hfin fun c₁ c₂ ↦ h.execute c₁ c₂ code script).bind
        fun r₁ r₂ _ ↦ OnlyReports.meets ?_ ?_
      · cases r₁ with
        | ok u => exact onlyReports_pure
        | error x => exact onlyReports_note me _ x
      · cases r₂ with
        | ok u => exact onlyReports_pure
        | error x => exact onlyReports_note me _ x

end Effects

end ButReports

end Likeness

/-- The host runs a whole script, and its loop unless the script fails. -/
def HostOp.runsScript : HostOp → Bool
  | .runScript .. => true
  | _ => false

/-- And so do operations of the host. -/
theorem Likeness.meets_perform_butReports {ρ : κ₁ → κ₂ → Prop} {e₁ : Engine κ₁} {e₂ : Engine κ₂}
    (h : e₁.SameEffects ρ e₂) (unlimited : Bool) (fuel : Nat) {op : HostOp}
    (hop : op.runsScript = false) :
    (butReports ρ).Meets (fun a₁ a₂ ↦ a₁.pardoned = a₂.pardoned) (perform e₁ unlimited fuel op)
      (perform e₂ unlimited fuel op) := by
  have hall (id : WorkerId) : (butReports ρ).inside id := trivial
  have he := engines_butReports h
  have hentry {f₁ : κ₁ → FreePlan (κ₁ × Ending)} {f₂ : κ₂ → FreePlan (κ₂ × Ending)}
      (hf : ∀ c₁ c₂, ρ c₁ c₂ → (f₁ c₁).Pairs
        (fun r₁ r₂ ↦ ρ r₁.1 r₂.1 ∧ r₁.2.pardoned = r₂.2.pardoned) (f₂ c₂)) :
      (butReports ρ).Meets (fun a₁ a₂ ↦ a₁.pardoned = a₂.pardoned)
        (withRoot do return .ofScript (← enter (stepFully e₁) 0 f₁))
        (withRoot do return .ofScript (← enter (stepFully e₂) 0 f₂)) := by
    refine meets_withRoot hall (R := fun a₁ a₂ ↦ a₁.pardoned = a₂.pardoned) rfl
      ((meets_enter_pardoned (ends_stepFully he) hf).bind fun r₁ r₂ _ ↦ meets_pure ?_)
    cases r₁ <;> cases r₂ <;> rfl
  cases hent : op.enters with
  | false => exact (meets_perform hall he unlimited fuel hent).mono fun _ _ ↦ congrArg _
  | true =>
    cases op with
    | eval code name => exact hentry fun c₁ c₂ ↦ h.execute c₁ c₂ code name
    | call slot args => exact hentry fun c₁ c₂ ↦ h.call c₁ c₂ slot args
    | runScript id dt => cases hop
    | _ => cases hent

/-! ## One report for each error -/

/-- What a context does about an error in which an entry ends, if it notes the error itself. -/
def confess (o : Origin) : κ × Ending → FreePlan (κ × Ending)
  | (c, .failed x) => .ask (.desk (.note (.log (.uncaught o x)))) fun _ ↦ .done (c, .done)
  | r => .done r

/-- What a callback is invoked for: an interval if it is handed nothing, else a message. -/
def originOf : List Json → Origin
  | [] => .timer
  | _ => .message

/-- The same engine, except that its contexts note the errors themselves in which their entries
end, and end well. -/
def Engine.candid (e : Engine κ) : Engine κ where
  create := e.create
  execute c code name := e.execute c code name >>= confess (.script name)
  call c slot args := e.call c slot args >>= confess (originOf args)
  depth := e.depth

/-- The world with the report of an error. -/
def World.reporting (w : World κ) (me : WorkerId) (o : Origin) (x : ScriptError) : World κ :=
  { w with events := w.events.push (me, .log (.uncaught o x)) }

/-- The world with the report of the error in which an entry ends, if it does. -/
def World.confessing (w : World κ) (me : WorkerId) (o : Origin) : Ending → World κ
  | .failed x => w.reporting me o x
  | _ => w

section Enter

variable {finish : WorkerId → Run (World κ) Unit} {me : WorkerId} {f : κ → FreePlan (κ × Ending)}
  {w v : World κ} {c : κ}

/-- Without a context there is nothing to enter. -/
theorem run_enter_none (h : (w.scope me).context = none) :
    enter finish me f w = .ok (.ok ()) w := by
  have hread : (contextPlace me).read w = .ok none w := by rw [← h]; rfl
  rw [enter, run_bind_ok hread]
  rfl

/-- A context is entered: its plan is run, and what it has become is put back. -/
theorem run_enter_some (h : (w.scope me).context = some c) :
    enter finish me f w = ((f c).run (serve finish me) >>= fun r ↦
      (contextPlace me).update (fun _ ↦ some r.1) >>= fun _ ↦ Likeness.leave me r.2) w := by
  have hread : (contextPlace me).read w = .ok (some c) w := by rw [← h]; rfl
  rw [enter, run_bind_ok hread]
  refine congrFun (congrArg ((f c).run (serve finish me) >>= ·) (funext fun r ↦ ?_)) w
  obtain ⟨c', x⟩ := r
  cases x <;> rfl

theorem run_enter_ok {c' : κ} {x : Ending} (h : (w.scope me).context = some c)
    (hr : (f c).run (serve finish me) w = .ok (c', x) v) :
    enter finish me f w = Likeness.leave me x ((contextPlace me).modify (fun _ ↦ some c') v) := by
  rw [run_enter_some h, run_bind_ok hr]
  rfl

theorem run_enter_error {a : Abort} (h : (w.scope me).context = some c)
    (hr : (f c).run (serve finish me) w = .error a v) : enter finish me f w = .error a v := by
  rw [run_enter_some h, run_bind_error hr]

/-- An honest context leaves the world as the core would have left it after reporting. -/
theorem run_confess {o : Origin} {x : Ending} :
    (confess o (c, x)).run (serve finish me) v = .ok (c, x.pardoned) (v.confessing me o x) := by
  cases x <;> rfl

theorem run_noting_invoke {k : Callee (World κ)} {cause : Cause} {o : Origin} {slot : Slot}
    {args : List Json} : (noting k me cause).invoke o slot args w = (k.call slot args >>= fun r ↦
      match r with
      | .ok () => pure ()
      | .error x => (noting k me cause).log (.uncaught o x))
        (w.noted (.called me cause slot ((w.scope me).desk.function? slot) args)) := rfl

theorem modify_context_reporting {o : Origin} {x : ScriptError} {g : Option κ → Option κ} :
    (contextPlace me).modify g (w.reporting me o x) =
      ((contextPlace me).modify g w).reporting me o x := by
  cases me <;> rfl

end Enter

namespace Likeness

variable {fin₁ fin₂ : WorkerId → Run (World κ) Unit} {me : WorkerId}

/-- An entry whose error is reported by the core comes to the same as one that reports it itself.
`k₁` and `k₂` are what the core does with the result. -/
theorem meets_confess (hfin : confessed.Ends fin₁ fin₂) {o : Origin} {f : κ → FreePlan (κ × Ending)}
    {k₁ k₂ : Except ScriptError Unit → Run (World κ) Unit} (hk₁ : k₁ (.ok ()) = pure ())
    (hk₂ : k₂ (.ok ()) = pure ())
    (hreport : ∀ x w, ∃ ds, k₁ (.error x) w = .ok () { w.reporting me o x with journal := ds } ∧
      ds.toList.filter (!·.isReport) = w.journal.toList.filter (!·.isReport)) :
    confessed.Meets Eq (enter fin₁ me f >>= k₁)
      (enter fin₂ me (fun c ↦ f c >>= confess o) >>= k₂) := by
  intro w₁ w₂ hw
  have hme : (confessed : Likeness κ κ).inside me := trivial
  rcases rel_cases (hw.scope hme).context with ⟨h₁, h₂⟩ | ⟨c, _, h₁, h₂, rfl⟩
  · rw [run_bind_ok (run_enter_none h₁), run_bind_ok (run_enter_none h₂), hk₁, hk₂]
    exact ⟨rfl, hw⟩
  -- up to the end of the entry both sides make the same requests
  have hplan := meets_run (meets_serve hfin hme)
    (Plan.Pairs.refl (S := Eq) (fun _ ↦ rfl) (f c)) w₁ w₂ hw
  cases hr₁ : (f c).run (serve fin₁ me) w₁ with
  | error x v₁ =>
    rw [hr₁] at hplan
    obtain ⟨v₂, hr₂, hv⟩ := hplan.error_left
    have hconfess : (f c >>= confess o).run (serve fin₂ me) w₂ = .error x v₂ := by
      rw [Plan.run_bind, run_bind_error hr₂]
    rw [run_bind_error (run_enter_error h₁ hr₁), run_bind_error (run_enter_error h₂ hconfess)]
    exact ⟨rfl, hv⟩
  | ok r v₁ =>
    rw [hr₁] at hplan
    obtain ⟨_, v₂, hr₂, rfl, hv⟩ := hplan.ok_left
    obtain ⟨c', x⟩ := r
    have hconfess : (f c >>= confess o).run (serve fin₂ me) w₂ =
        .ok (c', x.pardoned) (v₂.confessing me o x) := by
      rw [Plan.run_bind, run_bind_ok hr₂, run_confess]
    have hx₁ := run_enter_ok h₁ hr₁
    have hx₂ := run_enter_ok (f := fun c ↦ f c >>= confess o) h₂ hconfess
    have hset {u₁ u₂ : World κ} (hu : confessed.Worlds u₁ u₂) :
        confessed.Worlds ((contextPlace me).modify (fun _ ↦ some c') u₁)
          ((contextPlace me).modify (fun _ ↦ some c') u₂) :=
      (meets_set_context hme (.some rfl) u₁ u₂ hu).2
    cases x with
    | done =>
      rw [run_bind_ok hx₁, run_bind_ok hx₂, hk₁, hk₂]
      exact ⟨rfl, hset hv⟩
    | failed x =>
      -- the core reports after it has put the context back, a candid context before
      obtain ⟨ds, hk, hds⟩ := hreport x ((contextPlace me).modify (fun _ ↦ some c') v₁)
      rw [run_bind_ok hx₁, run_bind_ok hx₂, hk, hk₂, ← modify_context_reporting]
      have hrep := hset (hv.note hme (.log (.uncaught o x)))
      refine ⟨rfl, { hrep with journal := hds.trans ((hset hv).journal.trans ?_) }⟩
      rw [World.confessing, modify_context_reporting]
      rfl
    | panicked =>
      rw [run_bind_error hx₁, run_bind_error hx₂]
      exact ⟨rfl, hset hv⟩
    | endless =>
      rw [run_bind_error hx₁, run_bind_error hx₂]
      exact ⟨rfl, hset hv⟩

/-- An engine whose contexts confess their errors does the same as one whose errors
the core reports. -/
theorem engines_candid (e : Engine κ) : confessed.Engines e e.candid where
  depth := rfl
  create id := by
    have hcandid : e.candid.create id = e.create id := rfl
    rw [hcandid]
    cases e.create id with
    | ok c => exact .inl ⟨c, c, rfl, rfl, rfl⟩
    | error x => exact .inr ⟨x, rfl, rfl⟩
  callee {fin₁ fin₂ me} hfin hme cause := by
    have hinvoke (slot : Slot) (args : List Json) :
        confessed.Meets Eq ((noting (callee e fin₁ me) me cause).invoke (originOf args) slot args)
          ((noting (callee e.candid fin₂ me) me cause).invoke (originOf args) slot args) := by
      intro w₁ w₂ hw
      have hd : Deed.called me cause slot ((w₁.scope me).desk.function? slot) args =
          .called me cause slot ((w₂.scope me).desk.function? slot) args := by
        rw [(hw.scope hme).desk]
      rw [run_noting_invoke, run_noting_invoke, hd]
      refine meets_confess (o := originOf args) hfin rfl rfl (fun x w ↦ ⟨_, rfl, ?_⟩) _ _
        (hw.record hme)
      simp [Deed.isReport]
    exact ⟨fun slot v ↦ hinvoke slot [Message.event v], fun slot ↦ hinvoke slot [],
      fun line ↦ meets_noting_log hme (meets_note hme _) cause⟩
  execute {fin₁ fin₂ me} hfin hme script := by
    refine meets_read_loader.next fun l ↦ ?_
    cases l.load script with
    | error text => exact meets_note hme _
    | ok code => exact meets_confess hfin rfl rfl fun x w ↦ ⟨w.journal, rfl, rfl⟩

end Likeness

/-- Whether the core reports the errors or the contexts do it themselves, the events are the
same. -/
theorem trace_candid (e : Engine κ) (unlimited : Bool) (fuel : Nat) {ops : List HostOp}
    (hops : ∀ op ∈ ops, op.enters = false) (w : World κ) :
    List.Forall₂
      (fun r₁ r₂ ↦ r₁.1 = r₂.1 ∧ r₁.2 = { r₂.2 with journal := r₁.2.journal } ∧
        r₁.2.journal.toList.filter (!·.isReport) = r₂.2.journal.toList.filter (!·.isReport))
      (trace e unlimited fuel ops w) (trace e.candid unlimited fuel ops w) := by
  have hall (id : WorkerId) : (Likeness.confessed : Likeness κ κ).inside id := trivial
  have hperform (op : HostOp) (hop : op ∈ ops) :=
    Likeness.meets_perform hall (Likeness.engines_candid e) unlimited fuel (hops op hop)
  have hrefl : Likeness.confessed.Worlds w w := Likeness.worlds_same hall (fun _ ↦ rfl) w rfl rfl
  refine (Likeness.forall₂_trace (R := Eq) rfl rfl hperform hrefl).imp fun r₁ r₂ hr ↦
    ⟨hr.1, ?_, hr.2.journal⟩
  have hevents : r₁.2.events = r₂.2.events := hr.2.events
  have hworld := hr.2.eq hall fun _ _ ↦ id
  rw [hevents] at hworld
  exact hworld

/-! ## Scripts that cannot be loaded -/

/-- Does something with another loader. -/
def World.borrowing (l : Loader) (x : Run (World κ) Unit) : Run (World κ) Unit := do
  let old ← loaderPlace.read
  loaderPlace.update fun _ ↦ l
  x
  loaderPlace.update fun _ ↦ old

/-- The world after a worker has begun and its script has done nothing. -/
def World.started (w : World κ) (id : WorkerId) (c : κ) : World κ :=
  ((contextPlace id).modify (fun _ ↦ some c) w).updateWorker id fun k ↦ { k with phase := .loop }

section Start

variable {e : Engine κ} {finish : WorkerId → Run (World κ) Unit} {w : World κ} {id : WorkerId}
  {script text : String} {code : Code} {c : κ} {l : Loader}

/-- An entry that does nothing leaves no trace. -/
theorem run_enter_idle {f : κ → FreePlan (κ × Ending)} (hf : ∀ c, f c = .done (c, .done)) :
    enter finish id f w = .ok (.ok ()) w := by
  cases hc : (w.scope id).context with
  | none => exact run_enter_none hc
  | some c =>
    have hsame : (contextPlace id).modify (fun _ ↦ some c) w = w := by
      change w.setScope id { w.scope id with context := some c } = w
      rw [← hc]
      exact setScope_scope w id
    rw [run_enter_some hc, hf]
    exact congrArg (EStateM.Result.ok (Except.ok ())) hsame

theorem loader_modify_context (g : Option κ → Option κ) :
    ((contextPlace id).modify g w).loader = w.loader := by
  cases id <;> rfl

/-- A script that cannot be loaded is reported. -/
theorem run_execute_error (hl : w.loader.load script = .error text) :
    execute e finish id script w =
      .ok () (w.reporting id (.script script) (.load script text)) := by
  have hread : loaderPlace.read w = .ok w.loader w := rfl
  rw [execute, run_bind_ok hread, hl]
  rfl

/-- An empty script does nothing. -/
theorem run_execute_empty (hl : w.loader.load script = .ok code)
    (hempty : ∀ c, e.execute c code script = .done (c, .done)) :
    execute e finish id script w = .ok () w := by
  have hread : loaderPlace.read w = .ok w.loader w := rfl
  rw [execute, run_bind_ok hread, hl]
  exact run_bind_ok (run_enter_idle hempty)

theorem run_start (hc : e.create id = .ok c) :
    start e finish id script w = (execute e finish id script >>= fun _ ↦ setPhase id .loop)
      ((contextPlace id).modify (fun _ ↦ some c) w) := by
  rw [start, hc]
  rfl

/-- A worker whose script cannot be loaded starts with a report. -/
theorem run_start_unloadable (hc : e.create id = .ok c) (hl : w.loader.load script = .error text) :
    start e finish id script w =
      .ok () ((w.started id c).reporting id (.script script) (.load script text)) := by
  rw [run_start hc, run_bind_ok (run_execute_error ((loader_modify_context _).symm ▸ hl))]
  cases id <;> rfl

theorem run_start_empty (hc : e.create id = .ok c) (hl : w.loader.load script = .ok code)
    (hempty : ∀ c, e.execute c code script = .done (c, .done)) :
    start e finish id script w = .ok () (w.started id c) := by
  rw [run_start hc, run_bind_ok (run_execute_empty ((loader_modify_context _).symm ▸ hl) hempty)]
  rfl

/-- With an empty script in its place it starts without. -/
theorem run_borrowing_start (hc : e.create id = .ok c) (hl : l.load script = .ok code)
    (hempty : ∀ c, e.execute c code script = .done (c, .done)) :
    borrowing l (start e finish id script) w = .ok () (w.started id c) := by
  have hstart : start e finish id script { w with loader := l } =
      .ok () (({ w with loader := l } : World κ).started id c) := run_start_empty hc hl hempty
  change (start e finish id script >>= fun _ ↦ loaderPlace.update fun _ ↦ w.loader)
    { w with loader := l } = _
  rw [run_bind_ok hstart]
  cases id <;> rfl

end Start

namespace Likeness

/-- Everything is the same, except that one side has an event more. -/
def oneMore (r : WorkerId × Event) : Likeness κ κ where
  inside _ := True
  context := Eq
  events es₁ es₂ := ∃ s t, es₁.toList = s ++ r :: t ∧ es₂.toList = s ++ t
  journal := Eq
  push_events {_ _ id e} _ h := by
    obtain ⟨s, t, h₁, h₂⟩ := h
    exact ⟨s, t ++ [(id, e)], by simp [h₁], by simp [h₂]⟩
  push_journal _ h := by rw [h]

/-- The report is the one event that the other side does not have. -/
theorem worlds_reporting (w : World κ) (id : WorkerId) (o : Origin) (x : ScriptError) :
    (oneMore (id, .log (.uncaught o x))).Worlds (w.reporting id o x) w := by
  rw [World.reporting]
  exact worlds_same (fun _ ↦ trivial) (fun _ ↦ rfl) w ⟨w.events.toList, [], by simp, by simp⟩ rfl

/-- What one side has more is of no consequence, since every operation begins with no events. -/
theorem trace_oneMore {r : WorkerId × Event} {v₁ v₂ : World κ} (h : (oneMore r).Worlds v₁ v₂)
    (e : Engine κ) (unlimited : Bool) (fuel : Nat) (ops : List HostOp) :
    trace e unlimited fuel ops v₁ = trace e unlimited fuel ops v₂ := by
  have hv : ({ v₁ with events := #[] } : World κ) = { v₂ with events := #[] } := by
    rw [h.eq (fun _ ↦ trivial) fun _ _ ↦ id, show v₁.journal = v₂.journal from h.journal]
  cases ops with
  | nil => rfl
  | cons op rest => rw [trace, trace, performOn, performOn, hv]

end Likeness

/-- The first step of a worker, for which its script is taken from another loader. -/
def World.firstStep (l : Loader) (e : Engine κ) (n : Nat) (id : WorkerId) (k : Worker κ) :
    Run (World κ) Unit :=
  onPanic
    (do
      borrowing l (turn e (step e n) id k)
      conclude (step e n) id)
    (crash (step e n) id)

open Likeness in
/-- A script that cannot be loaded comes to the same as an empty one, but for the report. -/
theorem after_unloadable {e : Engine κ} {w : World κ} {id : WorkerId} {k : Worker κ} {text : String}
    {l : Loader} {code : Code} {c : κ} (hk : w.worker? id = some k) (hphase : k.phase = .start)
    (hc : e.create id = .ok c) (hl : w.loader.load k.script = .error text)
    (hl' : l.load k.script = .ok code)
    (hempty : ∀ c, e.execute c code k.script = .done (c, .done)) (n : Nat) :
    (oneMore (id, .log (.uncaught (.script k.script) (.load k.script text)))).After Eq
      (step e (n + 1) id w) (firstStep l e n id k w) := by
  have hfin := ends_step (engines_same (L := oneMore (id, .log (.uncaught (.script k.script)
    (.load k.script text)))) (fun _ _ ↦ Iff.rfl) e) n
  have hstep : step e (n + 1) id w = advanceWith e (step e n) id k w := by
    have hget : (get : Run (World κ) (World κ)) w = .ok w w := rfl
    rw [step, run_bind_ok hget, hk]
  have hturn : turn e (step e n) id k = start e (step e n) id k.script := by rw [turn, hphase]
  rw [hstep, advanceWith, firstStep, hturn]
  -- the two steps part at the script, and what is left of them is the same
  refine After.onPanic ?_ (meets_crash hfin trivial)
  rw [run_bind_ok (run_start_unloadable hc hl), run_bind_ok (run_borrowing_start hc hl' hempty)]
  exact meets_conclude hfin trivial _ _ (worlds_reporting _ _ _ _)

/-- Two engines that do the same create worlds that are alike. -/
theorem worlds_created {ρ : κ₁ → κ₂ → Prop} {e₁ : Engine κ₁} {e₂ : Engine κ₂}
    (h : e₁.SameEffects ρ e₂) {loader : Loader} {w₁ : World κ₁} (hw : create e₁ loader = .ok w₁) :
    ∃ w₂, create e₂ loader = .ok w₂ ∧ (Likeness.butReports ρ).Worlds w₁ w₂ := by
  rw [World.create] at hw
  rcases h.create 0 with ⟨c₁, c₂, h₁, h₂, hc⟩ | ⟨x, h₁, -⟩
  · rw [h₁] at hw
    cases hw
    refine ⟨{ root := some { context := some c₂ }, loader }, by rw [World.create, h₂]; rfl, ?_⟩
    refine ⟨rfl, fun c ↦ ?_, fun _ _ ↦ trivial, fun _ _ _ _ ↦ trivial, fun c _ ↦ ?_,
      fun _ ↦ .some ?_, fun _ ↦ rfl, rfl, rfl, rfl, rfl⟩
    · cases c <;> rfl
    · cases c <;> exact .none
    · exact ⟨rfl, rfl, rfl, .some hc, fun _ _ ↦ trivial, fun _ _ ↦ trivial⟩
  · rw [h₁] at hw
    cases hw

open Likeness in
/-- **Errors of scripts are reported and change nothing else.**  If the contexts of two engines do
the same in every entry and differ only in which of them end in an error, then the two runs of a
host, from the beginning or from any worlds alike, agree after each operation in everything but the
reports of errors: in all queues, callbacks, intervals and registers, in the callbacks that were
invoked and what they were handed, in the other events and in the answers.  There is one report for
each error: the run is the same event by event, and but for the journal world by world, if the
contexts note their errors themselves, under the name of the script or as those of a message or an
interval, and end well.  And a worker whose script cannot be loaded makes its first step as if the
script were empty, except for the report, which nothing that follows depends on.  The last part is
how the log words it. -/
theorem errors_are_only_reported :
    (∀ {κ₁ κ₂ : Type} (ρ : κ₁ → κ₂ → Prop) (e₁ : Engine κ₁) (e₂ : Engine κ₂), e₁.SameEffects ρ e₂ →
      (∀ loader w₁, create e₁ loader = .ok w₁ →
        ∃ w₂, create e₂ loader = .ok w₂ ∧ (butReports ρ).Worlds w₁ w₂) ∧
      ∀ unlimited fuel ops w₁ w₂, (∀ op ∈ ops, op.runsScript = false) →
      (butReports ρ).Worlds w₁ w₂ → List.Forall₂
          (fun r₁ r₂ ↦ r₁.1.pardoned = r₂.1.pardoned ∧ (butReports ρ).Worlds r₁.2 r₂.2)
          (trace e₁ unlimited fuel ops w₁) (trace e₂ unlimited fuel ops w₂)) ∧
    (∀ {κ : Type} (e : Engine κ) unlimited fuel ops w, (∀ op ∈ ops, op.enters = false) →
      List.Forall₂
        (fun r₁ r₂ ↦ r₁.1 = r₂.1 ∧ r₁.2 = { r₂.2 with journal := r₁.2.journal } ∧
          r₁.2.journal.toList.filter (!·.isReport) = r₂.2.journal.toList.filter (!·.isReport))
        (trace e unlimited fuel ops w) (trace e.candid unlimited fuel ops w)) ∧
    (∀ {κ : Type} (e : Engine κ) (w : World κ) id k c text l code, w.worker? id = some k →
      k.phase = .start → e.create id = .ok c → w.loader.load k.script = .error text →
      l.load k.script = .ok code → (∀ c, e.execute c code k.script = .done (c, .done)) →
      (∀ n, (oneMore (id, .log (.uncaught (.script k.script) (.load k.script text)))).After Eq
        (step e (n + 1) id w) (firstStep l e n id k w)) ∧
      ∀ w₁ w₂,
      (oneMore (id, .log (.uncaught (.script k.script) (.load k.script text)))).Worlds w₁ w₂ →
        ∀ unlimited fuel ops, trace e unlimited fuel ops w₁ = trace e unlimited fuel ops w₂) ∧
    (∀ o x, (LogLine.uncaught o x).message = "uncaught exception") ∧
    (∀ script, (Origin.script script).name = script) ∧
    (∀ args, (originOf args).name = if args.isEmpty then "setInterval" else "onmessage") := by
  refine ⟨fun ρ e₁ e₂ h ↦ ⟨fun _ _ ↦ worlds_created h, fun unlimited fuel ops w₁ w₂ hops hw ↦ ?_⟩,
    fun e unlimited fuel ops w hops ↦ trace_candid e unlimited fuel hops w,
    fun e w id k c text l code hk hphase hc hl hl' hempty ↦
      ⟨after_unloadable hk hphase hc hl hl' hempty, fun w₁ w₂ hw unlimited fuel ops ↦
        trace_oneMore hw e unlimited fuel ops⟩, fun _ _ ↦ rfl, fun _ ↦ rfl, fun args ↦ ?_⟩
  · exact forall₂_trace (R := fun a₁ a₂ ↦ a₁.pardoned = a₂.pardoned) rfl rfl
      (fun op hop ↦ meets_perform_butReports h unlimited fuel (hops op hop)) hw
  · cases args <;> rfl

/-! ## A grumbler -/

/-- An engine whose scripts listen to their owners, unless they are empty, and post whenever they
are called back.  All entries end the same way. -/
def grumbler (x : Ending) : Engine Unit where
  create _ := .ok ()
  execute _ code _ :=
    match code with
    | .program [] => .done ((), .done)
    | _ => .ask (.listen (some 1)) fun _ ↦ .done ((), x)
  call _ _ _ := .ask (.desk (.post ⟨"true"⟩)) fun _ ↦ .done ((), x)
  depth := 4

theorem grumbler_sameEffects {x y : Ending} (h : x.pardoned = y.pardoned) :
    (grumbler x).SameEffects Eq (grumbler y) where
  depth := rfl
  create _ := .inl ⟨(), (), rfl, rfl, rfl⟩
  execute := by
    rintro c _ code name rfl
    cases code with
    | text s => exact .ask fun _ ↦ .done ⟨rfl, h⟩
    | program p =>
      cases p with
      | nil => exact .done ⟨rfl, rfl⟩
      | cons j rest => exact .ask fun _ ↦ .done ⟨rfl, h⟩
  call := by
    rintro c _ slot args rfl
    exact .ask fun _ ↦ .done ⟨rfl, h⟩

/-- The root with a worker that has not begun. -/
def grumblerWorld (l : Loader) : World Unit where
  root := some { context := some (), kids := [1] }
  workers := [{ owner := 0, script := "grumble", link := { id := 1 } }]
  loader := l

/-- The operations of a host that steps the worker and posts to it. -/
def grumblerOps : List HostOp := [.step 1 1, .linkPost 1 .inbox (.json .null), .step 1 1]

/-- What these operations lead to. -/
def grumblerRun (e : Engine Unit) : List (Answer × World Unit) :=
  trace e true 0 grumblerOps (grumblerWorld (.shelf ⟨[("grumble", .text "")]⟩))

/-- How many errors are reported in each operation. -/
def reportCounts (runs : List (Answer × World κ)) : List Nat :=
  runs.map fun r ↦ (r.2.events.toList.filter (·.2.isReport)).length

open Likeness in
/-- A worker whose script and callback fail goes on as one without errors, and each error is
reported once.  A worker without a script goes on all the same. -/
theorem grumbler_goes_on :
    List.Forall₂ (fun r₁ r₂ ↦ r₁.1.pardoned = r₂.1.pardoned ∧ (butReports Eq).Worlds r₁.2 r₂.2)
      (grumblerRun (grumbler (.failed (.uncaught "no")))) (grumblerRun (grumbler .done)) ∧
    reportCounts (grumblerRun (grumbler (.failed (.uncaught "no")))) = [1, 0, 1] ∧
    reportCounts (grumblerRun (grumbler .done)) = [0, 0, 0] ∧
    (oneMore (1, .log (.uncaught (.script "grumble") (.load "grumble"
      (Shelf.missing "grumble"))))).After Eq
      (step (grumbler .done) 4 1 (grumblerWorld (.shelf ⟨[]⟩)))
      (firstStep (.shelf ⟨[("grumble", .program [])]⟩) (grumbler .done) 3 1
        { owner := 0, script := "grumble", link := { id := 1 } }
        (grumblerWorld (.shelf ⟨[]⟩))) := by
  obtain ⟨hsame, -, hunloadable, -⟩ := errors_are_only_reported
  have heffects : (grumbler (.failed (.uncaught "no"))).SameEffects Eq (grumbler .done) :=
    grumbler_sameEffects rfl
  have hops : ∀ op ∈ grumblerOps, op.runsScript = false := by simp [grumblerOps, HostOp.runsScript]
  have hrefl (w : World Unit) : (butReports Eq).Worlds w w :=
    worlds_same (fun _ ↦ trivial) (fun _ ↦ rfl) w rfl rfl
  refine ⟨(hsame Eq _ _ heffects).2 true 0 grumblerOps _ _ hops (hrefl _), by decide +kernel,
    by decide +kernel, ?_⟩
  exact (hunloadable (grumbler .done) (grumblerWorld (.shelf ⟨[]⟩)) 1
    { owner := 0, script := "grumble", link := { id := 1 } } () (Shelf.missing "grumble")
    (.shelf ⟨[("grumble", .program [])]⟩) (.program []) rfl rfl rfl rfl rfl fun _ ↦ rfl).1 3

end ScriptWorkers
