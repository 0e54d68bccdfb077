import ScriptWorkers.Proofs.Numbering
import ScriptWorkers.Proofs.Silence.Runs
import ScriptWorkers.Script.Bindings

/-!
# Retired workers stay silent

A script terminates a worker from anywhere: from its top level, from an interval, from a
message of another worker, or from a message of that very worker in the middle of a batch.
When this has returned:

* no callback is ever again invoked for a message of that worker, those of the batch included;
* whatever a script still does to the worker has no effect and raises no error (`World.Ignores` for
  the requests, `Script.Inert` for the functions that scripts find).

This is put together in `retired_workers_stay_silent`.

`play` runs a piece of a script of a context, so that what scripts do can be said in their own
terms; `keeps_play` says that it keeps what requests keep.
-/

namespace ScriptWorkers

open World

variable {κ : Type}

/-! ## Pieces of a script -/

/-- A plan that goes on with another is run piece by piece. -/
theorem Plan.run_bind {Q σ α β : Type} {R : Q → Type} {serve : (q : Q) → Run σ (R q)}
    (f : α → Plan R β) : ∀ p : Plan R α, (p >>= f).run serve = p.run serve >>=
      fun a ↦ (f a).run serve
  | .done a => by
    show (f a).run serve = pure a >>= fun a ↦ (f a).run serve
    rw [pure_bind]
  | .ask q next => by
    have hnext (r : R q) : ((next r) >>= f).run serve = (next r).run serve >>=
        fun a ↦ (f a).run serve :=
      run_bind f (next r)
    show (serve q >>= fun r ↦ ((next r) >>= f).run serve) =
      (serve q >>= fun r ↦ (next r).run serve) >>= fun a ↦ (f a).run serve
    rw [bind_assoc]
    exact congrArg _ (funext hnext)

namespace Script

variable {α β : Type} {finish : WorkerId → Run (World κ) Unit} {me id : WorkerId} {r r' : Realm}
  {w w' : World κ}

/-- Runs a piece of a script of the context `me`. -/
def play (finish : WorkerId → Run (World κ) Unit) (me : WorkerId) (x : Eval α) (r : Realm) :
    Run (World κ) (Except Stop α × Realm) :=
  (x.run.run r).run (serveDesk finish me)

/-- Pieces of a script run one after the other. -/
theorem play_bind {x : Eval α} {f : α → Eval β} {a : α}
    (hx : play finish me x r w = .ok (.ok a, r') w') :
    play finish me (x >>= f) r w = play finish me (f a) r' w' := by
  have hbind : play finish me (x >>= f) r = play finish me x r >>= fun p ↦
      ((ExceptT.bindCont f p.1).run p.2).run (serveDesk finish me) := Plan.run_bind _ _
  rw [hbind, run_bind_ok hx]
  rfl

/-- What a script asks for is served. -/
theorem play_ask {q : DeskRequest} {a : q.Reply} (h : serveDesk finish me q w = .ok a w') :
    play finish me (Eval.ask q) r w = .ok (.ok a, r) w' := by
  show (serveDesk finish me q >>= fun a ↦ pure (Except.ok a, r)) w = _
  rw [run_bind_ok h]
  rfl

/-- Conversions and whatever else a piece of a script does keep silence. -/
theorem keeps_play (hfin : ∀ id, Keeps Silence.silence (finish id)) (x : Eval α) (r : Realm) :
    Keeps Silence.silence (play finish me x r) := by
  have hasks : (x.run.run r).Asks fun _ ↦ True := Plan.asks_of_forall (fun _ ↦ trivial) _
  exact hasks.keeps_run fun q _ ↦ Silence.keeps_serveDesk hfin q

end Script

/-! ## A worker that was let go of -/

/-- Whatever the context `me` asks for that has to do with the worker does nothing. -/
structure World.Ignores (finish : WorkerId → Run (World κ) Unit) (w : World κ) (me id : WorkerId) :
    Prop where
  holds : serveDesk finish me (.holds id) w = .ok false w
  handler : serveDesk finish me (.handler (.worker id)) w = .ok .nothing w
  handle : ∀ h, serveDesk finish me (.handle (.worker id) h) w = .ok () w
  send : ∀ m, serveDesk finish me (.send id m) w = .ok () w
  retire : serveDesk finish me (.retire id) w = .ok () w

/-- Requests about a worker that was let go of do nothing. -/
theorem World.LetGo.ignores {w : World κ} {me id : WorkerId} (h : w.LetGo me id)
    (finish : WorkerId → Run (World κ) Unit) : w.Ignores finish me id := by
  have hholds : (w.scope me).desk.holds id = false := by
    rw [Desk.holds, Bool.eq_false_iff]
    exact fun hc ↦ h.unheld (List.contains_iff_mem.1 hc)
  have hmay : mayHandle me (w.scope me).desk (.worker id) = false := hholds
  refine ⟨?_, ?_, fun h ↦ ?_, fun m ↦ ?_, ?_⟩
  · show EStateM.Result.ok ((w.scope me).desk.holds id) w = _
    rw [hholds]
  · show (if mayHandle me (w.scope me).desk (.worker id) then _ else _ :
      Run (World κ) ScriptWorkers.Registered) w = _
    rw [hmay]
    rfl
  · show (if mayHandle me (w.scope me).desk (.worker id) then _ else _ : Run (World κ) Unit) w = _
    rw [hmay]
    rfl
  · show (if (w.scope me).desk.holds id then _ else _ : Run (World κ) Unit) w = _
    rw [hholds]
    rfl
  · show (if (w.scope me).desk.holds id then _ else _ : Run (World κ) Unit) w = _
    rw [hholds]
    rfl

namespace Script

/-- Whatever a script of `me` still does to the worker raises no error and has no effect besides
that of converting its arguments and of warnings that are logged. -/
structure Inert (finish : WorkerId → Run (World κ) Unit) (w : World κ) (me id : WorkerId) :
    Prop where
  getter : ∀ {call args r r₁ w₁}, play finish me (workerArgument call args) r w =
    .ok (.ok id, r₁) w₁ → play finish me (workerGetHandler call args) r w = .ok (.ok .null, r₁) w₁
  setter : ∀ {call args r r₁ w₁}, play finish me (workerArgument call args) r w =
    .ok (.ok id, r₁) w₁ →
    play finish me (workerSetHandler call args) r w = .ok (.ok .undefined, r₁) w₁
  terminate : ∀ {call args r r₁ w₁},
    play finish me (workerArgument call args) r w = .ok (.ok id, r₁) w₁ →
    play finish me (workerTerminate call args) r w = .ok (.ok .undefined, r₁) w₁
  post : ∀ {call args r r₁ w₁},
    play finish me (do
      if args.length > 2 then Eval.note (.log .extraPostArguments)
      workerArgument call args) r w = .ok (.ok id, r₁) w₁ →
    play finish me (workerPost call args) r w = .ok (.ok .undefined, r₁) w₁
  -- A listener needs an event and a function, and there is one event.
  listenerMissing : ∀ {call args r}, args.length < 3 →
    play finish me (workerAddListener call args) r w = .ok (.ok .undefined, r) w
  listener : ∀ {call args r r₁ r₂ w₁ w₂}, 3 ≤ args.length →
    play finish me (toUnits call (argument args 1)) r w =
      .ok (.ok (Units.ofString "message"), r₁) w₁ →
    play finish me (workerArgument call args) r₁ w₁ = .ok (.ok id, r₂) w₂ →
    play finish me (workerAddListener call args) r w = .ok (.ok .undefined, r₂) w₂
  listenerUnknown : ∀ {call args name r r₁ w₁}, 3 ≤ args.length →
    play finish me (toUnits call (argument args 1)) r w = .ok (.ok name, r₁) w₁ →
    name ≠ Units.ofString "message" →
    play finish me (workerAddListener call args) r w = .ok (.ok .undefined, r₁)
      { w₁ with events := w₁.events.push (me, .log (.unknownEvent name.text)) }

variable {finish : WorkerId → Run (World κ) Unit} {me id : WorkerId} {r r₁ : Realm}
  {w w₁ : World κ} {call : Caller} {args : List Value}

section Ignored

variable (hargs : play finish me (workerArgument call args) r w = .ok (.ok id, r₁) w₁)
  (h : w₁.Ignores finish me id)
include hargs h

/-- The handler of such a worker is `null`. -/
theorem play_getHandler : play finish me (workerGetHandler call args) r w =
    .ok (.ok .null, r₁) w₁ := by
  rw [workerGetHandler, play_bind hargs, play_bind (play_ask h.handler)]
  rfl

/-- Setting its handler has no effect. -/
theorem play_setHandler :
    play finish me (workerSetHandler call args) r w = .ok (.ok .undefined, r₁) w₁ := by
  rw [workerSetHandler, play_bind hargs, play_bind (play_ask h.holds)]
  rfl

/-- Terminating it once more has no effect. -/
theorem play_terminate :
    play finish me (workerTerminate call args) r w = .ok (.ok .undefined, r₁) w₁ := by
  rw [workerTerminate, play_bind hargs, play_bind (play_ask h.retire)]
  rfl

end Ignored

/-- To take a number for a worker runs no code. -/
theorem play_workerArgument (n : Nat) (rest : List Value) :
    play finish me (workerArgument call (.ofNat n :: rest)) r w =
      .ok (.ok (.ofNumber r.earlier (wordOf (Number.ofNat n).toFloat)), r) w := rfl

theorem play_note (e : Event) : play finish me (Eval.note e) r w =
    .ok (.ok (), r) { w with events := w.events.push (me, e) } := play_ask rfl

/-- Posting to it has no effect. -/
theorem play_post (hargs : play finish me (do
      if args.length > 2 then Eval.note (.log .extraPostArguments)
      workerArgument call args) r w = .ok (.ok id, r₁) w₁) (h : w₁.Ignores finish me id) :
    play finish me (workerPost call args) r w = .ok (.ok .undefined, r₁) w₁ := by
  have hrest {w : World κ}
      (hargs : play finish me (workerArgument call args) r w = .ok (.ok id, r₁) w₁) :
      play finish me (do
        let id ← workerArgument call args
        if ← Eval.ask (.holds id) then
          let j ← toMessage call (argument args 1)
          Eval.ask (.send id (.ofJson j))
        return Value.undefined) r w = .ok (.ok Value.undefined, r₁) w₁ := by
    rw [play_bind hargs, play_bind (play_ask h.holds)]
    rfl
  by_cases hlen : args.length > 2
  · simp only [if_pos hlen] at hargs
    rw [play_bind (play_note _)] at hargs
    simp only [workerPost, if_pos hlen]
    rw [play_bind (play_note _)]
    exact hrest hargs
  · simp only [if_neg hlen] at hargs
    simp only [workerPost, if_neg hlen]
    exact hrest hargs

/-- A listener for messages is a handler, and any other is ignored. -/
theorem play_listener {name : Units} (hlen : 3 ≤ args.length)
    (hname : play finish me (toUnits call (argument args 1)) r w = .ok (.ok name, r₁) w₁) :
    play finish me (workerAddListener call args) r w =
      if name = Units.ofString "message" then
        play finish me (workerSetHandler call [argument args 0, argument args 2]) r₁ w₁
      else .ok (.ok .undefined, r₁)
        { w₁ with events := w₁.events.push (me, .log (.unknownEvent name.text)) } := by
  rw [workerAddListener, if_neg (Nat.not_lt.2 hlen), addListener, play_bind hname]
  split
  · rfl
  · rw [play_bind (play_note _)]
    rfl

/-- For the functions that scripts find, from what holds for the requests behind them. -/
theorem inert_of_letGo (hfin : ∀ id, Keeps Silence.silence (finish id)) (hw : Silence.Sound w)
    (h : w.LetGo me id) : Inert finish w me id := by
  -- conversions may run any code, but nobody gets a hold of the worker
  have hafter {α : Type} {x : Eval α} {r r₁ : Realm} {a : Except Stop α} {w w₁ : World κ}
      (hw : Silence.Sound w ∧ w.LetGo me id) (hx : play finish me x r w = .ok (a, r₁) w₁) :
      Silence.Sound w₁ ∧ w₁.LetGo me id := by
    obtain ⟨hw₁, hl⟩ := (keeps_play hfin x r w).ok hw.1 hx
    exact ⟨hw₁, hl.letGo me id hw.2⟩
  have hignores {α : Type} {x : Eval α} {r r₁ : Realm} {a : Except Stop α} {w₁ : World κ}
      (hx : play finish me x r w = .ok (a, r₁) w₁) : w₁.Ignores finish me id :=
    (hafter ⟨hw, h⟩ hx).2.ignores finish
  refine ⟨fun hargs ↦ play_getHandler hargs (hignores hargs),
    fun hargs ↦ play_setHandler hargs (hignores hargs),
    fun hargs ↦ play_terminate hargs (hignores hargs), fun hargs ↦ play_post hargs (hignores hargs),
    fun hlt ↦ ?_, fun hle hname hargs ↦ ?_, fun hle hname hne ↦ ?_⟩
  · rw [workerAddListener, if_pos hlt]
    rfl
  · rw [play_listener hle hname, if_pos rfl]
    exact play_setHandler hargs ((hafter (hafter ⟨hw, h⟩ hname) hargs).2.ignores finish)
  · rw [play_listener hle hname, if_neg hne]

end Script

/-! ## Retirement -/

theorem hasScope_spawned {me p : WorkerId} {script : String} {w : World κ} (h : w.HasScope p) :
    (w.spawned me script).HasScope p := by
  rw [spawned, hasScope_setScope]
  by_cases hp : p = 0
  · rw [HasScope, if_pos hp] at h ⊢
    exact h
  · rw [HasScope, if_neg hp, Option.isSome_iff_exists] at h ⊢
    obtain ⟨k, hk⟩ := h
    exact ⟨k, worker?_grow_of_some hk⟩

/-- A worker that was just created is on the desk. -/
theorem held_of_create {finish : WorkerId → Run (World κ) Unit} {me id : WorkerId} {script : String}
    {w w' : World κ} (hs : w.HasScope me)
    (h : serveDesk finish me (.create script) w = .ok (.ok id) w') :
    id ∈ (w'.scope me).desk.workers := by
  rw [Silence.run_create] at h
  split at h
  · cases h
    rw [created, deskPlace_modify, scope_setScope_self (hasScope_spawned hs)]
    exact List.mem_append_right _ List.mem_cons_self
  · cases h

/-- The journal ends with the worker being terminated. -/
theorem journal_of_retire {finish : WorkerId → Run (World κ) Unit} {me id : WorkerId}
    {w w' : World κ} (hid : id ∈ (w.scope me).desk.workers)
    (h : serveDesk finish me (.retire id) w = .ok () w') :
    ∃ ds, w'.journal.toList = ds ++ [.retired me id] := by
  have hholds : (w.scope me).desk.holds id = true := List.contains_iff_mem.2 hid
  replace h : (if (w.scope me).desk.holds id then
      layOff finish me id >>= fun _ ↦ record (.retired me id) else pure ()) w = .ok () w' := h
  rw [if_pos hholds] at h
  obtain ⟨_, w₁, -, h⟩ := of_run_bind_ok h
  cases h
  exact ⟨w₁.journal.toList, journal_noted w₁ _⟩

/-- The number of a worker that was let go of still means this worker, and there is nobody on the
desk whom it could be mistaken for. -/
theorem World.LetGo.number_unheld {w : World κ} {me id : WorkerId} (h : w.LetGo me id)
    (hw : Silence.Sound w) (hn : w.Numbered) (earlier : Nat) :
    WorkerId.ofNumber earlier (id.number earlier) = id ∧
      ∀ c ∈ (w.scope me).desk.workers, c.number earlier ≠ id.number earlier := by
  have hid : (w.worker? id).isSome := worker?_isSome_of_owner? h.owner
  refine ⟨WorkerId.ofNumber_number (hn.lt hid), fun c hc hsame ↦ h.unheld ?_⟩
  have hc' : (w.worker? c).isSome := worker?_isSome_of_owner? (hw.held me c hc).1
  rwa [← hn.number_inj hc' hid hsame]

/-- **Retired workers stay silent, in all runs.**  A worker that a script creates is on its desk;
when it has terminated the worker, this is put down in the journal, of which nothing is ever lost.
From then on, between the operations of a host and in the middle of one, as long as less than 2³²
workers have been made: no callback has been invoked for a message of that worker; its number means
no other worker; the handler for its messages reads as nothing; and whatever the script still does
to it changes nothing and raises no error, except what the conversion of arguments does. -/
theorem retired_workers_stay_silent (e : DeskEngine κ) (loader : Loader) :
    (∀ n me script id (w w' : World κ), w.HasScope me →
      serveDesk (step e.engine n) me (.create script) w = .ok (.ok id) w' →
      id ∈ (w'.scope me).desk.workers) ∧
    (∀ n me id (w w' : World κ), id ∈ (w.scope me).desk.workers →
      serveDesk (step e.engine n) me (.retire id) w = .ok () w' →
      ∃ ds, w'.journal.toList = ds ++ [.retired me id]) ∧
    (∀ w, Reachable e.engine loader (fun _ ↦ True) w → ∀ unlimited fuel op,
      w.journal.toList <+: (performOn e.engine unlimited fuel op w).2.journal.toList) ∧
    ∀ w, Reachable e.engine loader (fun _ ↦ True) w ∨
        (∃ x, Moment e.engine loader (fun _ ↦ True) x w) → w.Numbered →
      ∀ ds me id ds', w.journal.toList = ds ++ .retired me id :: ds' →
        (∀ d ∈ ds', d.callsFor id = false) ∧
        (∀ earlier, WorkerId.ofNumber earlier (id.number earlier) = id ∧
          ∀ c ∈ (w.scope me).desk.workers, c.number earlier ≠ id.number earlier) ∧
        ∀ n, w.Ignores (step e.engine n) me id ∧ Script.Inert (step e.engine n) w me id := by
  refine ⟨fun n me script id w w' hs ↦ held_of_create hs,
    fun n me id w w' hid ↦ journal_of_retire hid,
    fun w hw unlimited fuel op ↦ ?_, fun w hw hn ds me id ds' hj ↦ ?_⟩
  · have hsound := (Silence.sound_reachable e.asks hw).eases Silence.eases_cleared
    have hkeeps := Silence.keeps_perform e.asks unlimited fuel op { w with events := #[] }
    rw [performOn]
    split
    · exact (hkeeps.ok hsound (by assumption)).2.journal
    · exact (hkeeps.error hsound (by assumption)).2.journal
  · have hsound : Silence.Sound w := by
      rcases hw with hw | ⟨x, hw⟩
      · exact Silence.sound_reachable e.asks hw
      · exact Silence.sound_moment e.asks hw
    have hsilent := hsound.silent
    rw [hj, List.pairwise_append, List.pairwise_cons] at hsilent
    have hletGo := (hsound.retired me id (by simp [hj])).1
    refine ⟨fun d hd ↦ hsilent.2.1.1 d hd me id rfl, hletGo.number_unheld hsound hn,
      fun n ↦ ⟨hletGo.ignores _, ?_⟩⟩
    exact Script.inert_of_letGo (Silence.keeps_step e.asks n) hsound hletGo

/-! ## A building site -/

/-- An engine whose scripts of the name `site` create a worker and listen to it, and all others post
twice to their owners.  Whatever calls the site back terminates the worker. -/
def foreman : DeskEngine Unit where
  create _ := .ok ()
  execute _ _ name :=
    if name = "site" then
      .ask (.create "mason") fun _ ↦ .ask (.handle (.worker 1) (.function 7)) fun _ ↦
        .done ((), .done)
    else .ask (.post ⟨"1"⟩) fun _ ↦ .ask (.post ⟨"2"⟩) fun _ ↦ .done ((), .done)
  call _ _ _ := .ask (.retire 1) fun _ ↦ .done ((), .done)
  depth := 4

/-- The scripts of the site. -/
def siteShelf : Loader := .shelf ⟨[("mason", .text "")]⟩

/-- The site before work begins. -/
def emptySite : World Unit := { root := some { context := some () }, loader := siteShelf }

/-- The operations that lead to the worker being terminated in the middle of its messages. -/
def siteDay : List HostOp := [.eval (.text "") "site", .step 1 1, .tick]

/-- The site when they are over. -/
def site : World Unit := (performAll foreman.engine siteDay emptySite).getD emptySite

theorem reachable_site : Reachable foreman.engine siteShelf (fun _ ↦ True) site := by
  have hempty : Reachable foreman.engine siteShelf (fun _ ↦ True) emptySite := .created rfl
  exact hempty.performAll emptySite (fun _ _ ↦ trivial) (by decide +kernel)

/-- The entry is that the context has terminated the worker. -/
def Deed.retires (me id : WorkerId) : Deed → Bool
  | .retired me' id' => me' == me && id' == id
  | _ => false

theorem Deed.eq_retired {me id : WorkerId} : ∀ {d : Deed}, d.retires me id = true →
    d = .retired me id
  | .retired me' id', h => by
    rw [retires, Bool.and_eq_true, beq_iff_eq, beq_iff_eq] at h
    rw [h.1, h.2]

/-- Of the two messages one was handed over; its callback has terminated the worker, so the other
one stays where it is.  In a process that had made 41 workers before, the number of this one is 42,
and a script can no longer find a handler under it. -/
theorem mason_silenced : site.Numbered ∧ (site.journal.toList.filter (·.callsFor 1)).length = 1 ∧
    (site.link 1).outbox.items = [⟨"2"⟩] ∧
    (∃ ds ds', site.journal.toList = ds ++ .retired 0 1 :: ds' ∧ ∀ d ∈ ds', d.callsFor 1 = false) ∧
    Script.play (step foreman.engine 4) 0
        (Script.workerGetHandler (fun _ _ _ ↦ pure .undefined) [.ofNat 42]) { earlier := 41 } site =
      .ok (.ok .null, { earlier := 41 }) site := by
  have hn : site.Numbered := by decide +kernel
  have hany : site.journal.toList.any (Deed.retires 0 1) = true := by decide +kernel
  obtain ⟨d, hd, hret⟩ := List.any_eq_true.1 hany
  rw [Deed.eq_retired hret] at hd
  obtain ⟨ds, ds', hj⟩ := List.append_of_mem hd
  obtain ⟨-, -, -, hall⟩ := retired_workers_stay_silent foreman siteShelf
  obtain ⟨hsilent, -, hrest⟩ := hall site (.inl reachable_site) hn ds 0 1 ds' hj
  refine ⟨hn, by decide +kernel, by decide +kernel, ⟨ds, ds', hj, hsilent⟩, (hrest 4).2.getter ?_⟩
  have hnumber : WorkerId.ofNumber 41 (Script.wordOf (Script.Number.ofNat 42).toFloat) = 1 := by
    decide +kernel
  refine (Script.play_workerArgument 42 []).trans ?_
  rw [hnumber]

end ScriptWorkers
