import ScriptWorkers.Proofs.Refusals.Functions
import ScriptWorkers.Proofs.Termination
import ScriptWorkers.Script.Globals

/-!
# Operations that fail

An operation that reports an error has had no effect.

* `Payload.write_eq_error_iff`: a payload is refused just when something in it is, however deep down
  (`Payload.Refuses`).
* `spares_perform`: an operation of the host that is answered by a refusal leaves the
  world as it was.
* `failed_calls_change_nothing`: the same for everything that scripts, contexts and the host can do.

Refusals are found before anything is done: the payload is written before it is posted, the script
looked for before its worker is spawned (`spares_postAt`, `spares_employ`), and an operation that
finds nobody to turn to ends there (`spares_guard`).  All the others are never refused
(`Unrefusing`).
-/

namespace ScriptWorkers

open World

/-! ## Payloads -/

/-- The key has no text. -/
def Payload.Key.Refuses : Key → Prop
  | .float f => f.isFinite = false
  | .other => True
  | _ => False

/-- Somewhere in the payload there is something that refuses to be written. -/
inductive Payload.Refuses : Payload → Prop
  | fail (text : String) : Refuses (.fail text)
  | item {items : List Payload} {p : Payload} (hp : p ∈ items) (h : Refuses p) :
      Refuses (.seq items)
  | key {entries : List (Payload.Key × Payload)} {k : Payload.Key} {p : Payload}
      (hp : (k, p) ∈ entries) (h : k.Refuses) : Refuses (.pairs entries)
  | value {entries : List (Payload.Key × Payload)} {k : Payload.Key} {p : Payload}
      (hp : (k, p) ∈ entries) (h : Refuses p) : Refuses (.pairs entries)

namespace Payload

theorem Key.write_eq_error_iff (k : Key) : (∃ e, k.write = .error e) ↔ k.Refuses := by
  cases k with
  | float f => cases h : f.isFinite <;> simp [Key.write, Key.Refuses, h]
  | str s => simp [Key.write, Key.Refuses]
  | int n => simp [Key.write, Key.Refuses]
  | bool b => simp [Key.write, Key.Refuses]
  | other => simp [Key.write, Key.Refuses]

section Except

variable {ε α β : Type} {x : Except ε α}

theorem bind_eq_error_iff {f : α → Except ε β} {P : Prop} (hf : ∀ a, (∃ e, f a = .error e) ↔ P) :
    (∃ e, x >>= f = .error e) ↔ (∃ e, x = .error e) ∨ P := by
  cases x with
  | error e => exact iff_of_true ⟨e, rfl⟩ (.inl ⟨e, rfl⟩)
  | ok a =>
    have hok : ¬∃ e, (Except.ok a : Except ε α) = .error e := by simp
    exact (hf a).trans (or_iff_right hok).symm

theorem map_eq_error_iff {f : α → β} :
    (∃ e, (do return f (← x) : Except ε β) = .error e) ↔ ∃ e, x = .error e := by
  have hpure (a : α) : (∃ e, (pure (f a) : Except ε β) = .error e) ↔
      False := by simp [pure, Except.pure]
  rw [bind_eq_error_iff hpure, or_false]

end Except

mutual

/-- By induction on the payload, with its items and entries. -/
theorem write_eq_error_iff : ∀ p : Payload, (∃ e, p.write = .error e) ↔ p.Refuses
  | .json v => iff_of_false (by simp [write]) (by rintro ⟨⟩)
  | .float f => iff_of_false (by simp [write]) (by rintro ⟨⟩)
  | .int n => iff_of_false (by simp [write]) (by rintro ⟨⟩)
  | .fail text => iff_of_true ⟨_, by rw [write]⟩ (.fail text)
  | .seq items => by
    rw [write, map_eq_error_iff, writeItems_eq_error_iff items]
    constructor
    · rintro ⟨p, hp, h⟩
      exact .item hp h
    · rintro ⟨⟩
      exact ⟨_, ‹_›, ‹_›⟩
  | .pairs entries => by
    rw [write, map_eq_error_iff, writeEntries_eq_error_iff entries]
    constructor
    · rintro ⟨⟨k, p⟩, hp, h | h⟩
      · exact .key hp h
      · exact .value hp h
    · intro h
      cases h with
      | key hp h => exact ⟨_, hp, .inl h⟩
      | value hp h => exact ⟨_, hp, .inr h⟩

theorem writeItems_eq_error_iff :
    ∀ items, (∃ e, writeItems items = .error e) ↔ ∃ p ∈ items, Refuses p
  | [] => by simp [writeItems]
  | p :: rest => by
    rw [writeItems, bind_eq_error_iff fun _ ↦ map_eq_error_iff, write_eq_error_iff p,
      writeItems_eq_error_iff rest]
    simp only [List.mem_cons, exists_eq_or_imp]

theorem writeEntries_eq_error_iff :
    ∀ entries, (∃ e, writeEntries entries = .error e) ↔ ∃ kp ∈ entries, kp.1.Refuses ∨ Refuses kp.2
  | [] => by simp [writeEntries]
  | (k, p) :: rest => by
    rw [writeEntries, bind_eq_error_iff fun _ ↦ bind_eq_error_iff fun _ ↦ map_eq_error_iff,
      k.write_eq_error_iff, write_eq_error_iff p, writeEntries_eq_error_iff rest]
    simp only [List.mem_cons, exists_eq_or_imp, or_assoc]

end

/-- A message is made of every payload that can be written. -/
theorem encode_eq_error_iff (p : Payload) : (∃ e, Message.encode p = .error e) ↔ p.Refuses := by
  rw [← write_eq_error_iff]
  cases h : p.write <;> simp [Message.encode, h, Except.map]

end Payload

/-! ## Operations of the host -/

/-- The answer says that nothing could be done. -/
def Answer.IsRefusal : Answer → Prop
  | .unserializable _ | .uncreatable _ | .noHandle | .dropped => True
  | _ => False

variable {κ : Type} {engine : Engine κ} {w : World κ} {x : Run (World κ) Answer}

/-- The operation leaves the world as it was if it is answered by a refusal. -/
def Spares (x : Run (World κ) Answer) (w : World κ) : Prop :=
  ∀ a w', x w = .ok a w' → a.IsRefusal → w' = w

/-- The operation is never answered by a refusal. -/
def Unrefusing (x : Run (World κ) Answer) : Prop := ∀ w a w', x w = .ok a w' → ¬a.IsRefusal

/-- What is never refused has nothing to spare. -/
theorem Unrefusing.spares (h : Unrefusing x) : Spares x w :=
  fun a w' hrun ha ↦ absurd ha (h w a w' hrun)

theorem unrefusing_pure {a : Answer} (h : ¬a.IsRefusal) :
    Unrefusing (pure a : Run (World κ) Answer) := by
  intro w a' w' hrun
  cases hrun
  exact h

theorem unrefusing_bind {α : Type} {y : Run (World κ) α} {f : α → Run (World κ) Answer}
    (h : ∀ b, Unrefusing (f b)) : Unrefusing (y >>= f) := by
  intro w a w' hrun
  obtain ⟨b, w₁, -, hb⟩ := of_run_bind_ok hrun
  exact h b w₁ a w' hb

/-- An operation that is turned away at once spares the world if it does so when it is let in. -/
theorem spares_guard (p : World κ → Bool) (b : Answer) (h : Spares x w) :
    Spares (fun v ↦ (if p v then x else pure b : Run (World κ) Answer) v) w := by
  intro a w' hrun ha
  dsimp only at hrun
  split at hrun
  · exact h a w' hrun ha
  · cases hrun
    rfl

theorem spares_withRoot (h : Spares x w) : Spares (withRoot x) w :=
  spares_guard (·.root.isSome) .dropped h

theorem spares_withHandle {id : WorkerId} (h : Spares x w) : Spares (withHandle id x) w :=
  spares_guard (·.handles.contains id) .noHandle h

theorem spares_withWorker {id : WorkerId} (h : Spares x w) : Spares (withWorker id x) w :=
  spares_guard (fun v ↦ (v.worker? id).isSome) .nothing h

/-- A payload is written before it is posted. -/
theorem spares_postAt {id : WorkerId} {side : Side} {p : Payload} :
    Spares (postAt id side p) w := by
  intro a w' hrun ha
  cases hp : Message.encode p with
  | ok m =>
    rw [Order.run_postAt_ok hp] at hrun
    cases hrun
    exact ha.elim
  | error e =>
    rw [Order.run_postAt_error hp] at hrun
    cases hrun
    rfl

/-- The script is looked for before the worker is spawned. -/
theorem spares_employ {script : String} : Spares (employ script) w := by
  intro a w' hrun ha
  rw [Order.run_employ] at hrun
  split at hrun
  · cases hrun
    exact ha.elim
  · cases hrun
    rfl

/-- **Operations that are refused leave the world as it was.** -/
theorem spares_perform (unlimited : Bool) (fuel : Nat) (op : HostOp) :
    Spares (perform engine unlimited fuel op) w := by
  have hscript (r : Except ScriptError Unit) :
      Unrefusing (pure (.ofScript r) : Run (World κ) Answer) := by
    cases r <;> exact unrefusing_pure id
  have hreturn {α : Type} {y : Run (World κ) α} {f : α → Answer} (h : ∀ b, ¬(f b).IsRefusal) :
      Unrefusing (do return f (← y)) := unrefusing_bind fun b ↦ unrefusing_pure (h b)
  cases op with
  | spawn _ => exact spares_withRoot spares_employ
  | post _ _ => exact spares_withHandle spares_postAt
  | linkPost _ _ _ => exact spares_withWorker spares_postAt
  | eval _ _ => exact spares_withRoot (unrefusing_bind hscript).spares
  | call _ _ => exact spares_withRoot (unrefusing_bind hscript).spares
  | step _ _ => exact (hreturn fun _ ↦ id).spares
  | stepAll => exact (unrefusing_bind fun _ ↦ hreturn fun _ ↦ id).spares
  | listen _ _ => exact spares_withHandle (hreturn fun _ ↦ id).spares
  | handler _ => exact spares_withHandle (hreturn fun _ ↦ id).spares
  | isTerminated _ => exact spares_withHandle (hreturn fun _ ↦ id).spares
  | number _ => exact spares_withHandle (unrefusing_pure id).spares
  | terminate _ => exact spares_withHandle (hreturn fun _ ↦ id).spares
  | linkTerminate _ => exact spares_withWorker (unrefusing_bind fun _ ↦ hreturn fun _ ↦ id).spares
  | linkCallbacks _ => exact spares_withWorker (hreturn fun _ ↦ id).spares
  | kidTerminate _ => exact spares_withRoot (spares_withWorker (hreturn fun _ ↦ id).spares)
  | kidContains _ => exact spares_withRoot (spares_withWorker (hreturn fun _ ↦ id).spares)
  | kidNumber _ => exact spares_withRoot (spares_withWorker (hreturn fun _ ↦ id).spares)
  | timerClear =>
    exact spares_withRoot (unrefusing_bind fun _ ↦ hreturn fun _ ↦ id).spares
  | unload _ => exact (unrefusing_bind fun _ ↦ hreturn fun _ ↦ id).spares
  | runScript _ _ => exact spares_withRoot (hreturn fun _ ↦ id).spares
  | tick | kidsText | terminateAll | pumpRecord | idle =>
    exact spares_withRoot (hreturn fun _ ↦ id).spares
  | timerAdd _ _ | timerRemove _ | runLoop _ => exact spares_withRoot (hreturn fun _ ↦ id).spares
  | advance _ | setClock _ | insert _ _ => exact (hreturn fun _ ↦ id).spares
  | now | drop => exact (hreturn fun _ ↦ id).spares

/-! ## Everything together -/

theorem post_eq_error {p : Payload} (hp : p.Refuses) (b : Mailbox) : ∃ e, b.post p = .error e := by
  obtain ⟨e, he⟩ := p.encode_eq_error_iff.2 hp
  exact ⟨e, by rw [Mailbox.post, he]; rfl⟩

theorem run_spawn_unknown {me : WorkerId} {script : String} (h : w.loader.contains script = false) :
    spawn me script w = .ok (.error (.scriptNotFound script)) w := by
  rw [run_spawn, if_neg (by simp [h])]

/-- Whatever reports an error has left the world exactly as it was, but for what is seen: functions
that scripts find in their contexts, members of worker objects, requests of other contexts, and
operations of the host.  A payload is refused wherever in it the refusal sits. -/
theorem failed_calls_change_nothing (engine : Engine κ) (unlimited : Bool) (fuel : Nat)
    (finish : WorkerId → Run (World κ) Unit) (me : WorkerId) (w : World κ) :
    (∀ b ∈ Script.hostFunctions ++ Script.workerFunctions, ∀ call this args r,
      Script.Harmless finish me call w (Script.conversions r.heap args b.name) r →
      Script.Atomic finish me (b.run call this args) r w) ∧
    Script.Relays finish me w ∧ Script.Rejects finish me w ∧
    (∀ script, w.loader.contains script = false →
      serve finish me (.spawn script) w = .ok (.error (.scriptNotFound script)) w ∧
      serve finish me (.desk (.create script)) w = .ok (.error (.scriptNotFound script)) w) ∧
    (∀ op a w', perform engine unlimited fuel op w = .ok a w' → a.IsRefusal → w' = w) ∧
    (∀ script, w.root.isSome = true → w.loader.contains script = false →
      perform engine unlimited fuel (.spawn script) w =
        .ok (.uncreatable (.scriptNotFound script)) w) ∧
    ∀ p : Payload, p.Refuses → (∀ b : Mailbox, ∃ e, b.post p = .error e) ∧
      (∀ id ∈ w.handles, ∃ e, perform engine unlimited fuel
        (.post id p) w = .ok (.unserializable e) w) ∧
      ∀ id side, (w.worker? id).isSome = true →
        ∃ e, perform engine unlimited fuel (.linkPost id side p) w = .ok (.unserializable e) w := by
  refine ⟨fun b hb call this args r h ↦ Script.atomic_of_harmless hb this h,
    Script.relays finish me w,
    Script.rejects finish me w, fun script h ↦ ⟨run_spawn_unknown h, ?_⟩,
    fun op ↦ spares_perform _ _ op,
    fun script hroot h ↦ ?_, fun p hp ↦ ⟨post_eq_error hp, fun id hid ↦ ?_, fun id side hid ↦ ?_⟩⟩
  · change serveDesk finish me (.create script) w = _
    rw [Silence.run_create, if_neg (by simp [h])]
  · change (if w.root.isSome then employ script else _ : Run (World κ) Answer) w = _
    rw [if_pos hroot, Order.run_employ, if_neg (by simp [h])]
  · obtain ⟨e, he⟩ := p.encode_eq_error_iff.2 hp
    refine ⟨e, ?_⟩
    change (if w.handles.contains id then postAt id .inbox p else _ : Run (World κ) Answer) w = _
    rw [if_pos (List.contains_iff_mem.2 hid), Order.run_postAt_error he]
  · obtain ⟨e, he⟩ := p.encode_eq_error_iff.2 hp
    refine ⟨e, ?_⟩
    change (if (w.worker? id).isSome then postAt id side p else _ : Run (World κ) Answer) w = _
    rw [if_pos hid, Order.run_postAt_error he]

/-- No function can be called this way. -/
def mute : Script.Caller := fun _ _ _ ↦ throwThe Script.Stop .exhausted

/-- A symbol has no text, so it cannot be the name of an event: the parent of the family gets an
error, and nothing has changed. -/
theorem symbol_is_no_event :
    Script.Fails (stepFully nursery) 1 (Script.toUnits mute (.symbol 0)) (.fresh true 0) family ∧
    Script.Fails (stepFully nursery) 1 (Script.addEventListener mute [.symbol 0, .undefined])
      (.fresh true 0) family ∧
    Script.Atomic (stepFully nursery) 1 (Script.addEventListener mute [.symbol 0, .undefined])
      (.fresh true 0) family := by
  have hsymbol : Script.Fails (stepFully nursery) 1 (Script.toUnits mute (.symbol 0))
      (.fresh true 0) family := fun es ↦ ⟨_, _, es, rfl⟩
  have hlisten : (⟨"addEventListener", 2, fun call _ args ↦ Script.addEventListener call args⟩ :
      Script.Builtin) ∈ Script.hostFunctions ++ Script.workerFunctions := by
    simp [Script.workerFunctions]
  obtain ⟨hatomic, -, hrejects, -⟩ :=
    failed_calls_change_nothing nursery true 0 (stepFully nursery) 1 family
  exact ⟨hsymbol, hrejects.event (by decide) hsymbol,
    hatomic _ hlisten mute .undefined [.symbol 0, .undefined] (.fresh true 0) (.inl hsymbol)⟩

end ScriptWorkers
