import ScriptWorkers.Mailbox
import ScriptWorkers.Timers

/-!
# Guarantees

A `Guarantee` is an invariant together with a statement about how the state after a computation is
related to the state before it, whichever way the computation ends.  It composes: what each part
of a computation keeps, the whole keeps.  So an invariant, or a statement about what stays
untouched, is shown once for every smallest step, and the computations built from these steps
follow by the rules below.

`Keeps g x` is the statement for all states to start in, `KeepsAt g x s` for one.

## What is here

* A rule for each way to build a computation: `keepsAt_pure`, `KeepsAt.bind`, `keepsAt_update`,
  `keepsAt_ite` and so on.  `KeepsAt.mono` passes from one guarantee to another.
* `Guarantee.under`: a guarantee for states in which something more holds, as long as computations
  do not put an end to it (`Guarantee.Stable`).
* `Guarantee.both`: two guarantees at once, each of which may use the other.
* The rules for drains and ticks (`keeps_drain`, `keeps_fire`), which call back into the script, and
  the equations that say how a drain ends (`run_drain_ok`, `run_drain_error`).
-/

namespace ScriptWorkers

/-- An invariant, and how the state after a computation is related to the state before it.  `rel` is
for computations that end with a value, `broken` for those that are broken off. -/
structure Guarantee (σ : Type) where
  inv : σ → Prop
  rel : σ → σ → Prop
  broken : Abort → σ → σ → Prop
  refl : ∀ s, rel s s
  trans : ∀ {s t u}, inv s → inv t → rel s t → rel t u → rel s u
  after : ∀ {e s t u}, inv s → inv t → rel s t → broken e t u → broken e s u

variable {σ τ α β : Type}

/-- A computation that starts in this state may end like this. -/
def Guarantee.Allows (g : Guarantee σ) (s : σ) : EStateM.Result Abort σ α → Prop
  | .ok _ s' => g.inv s' ∧ g.rel s s'
  | .error e s' => g.broken e s s'

/-- The computation keeps the guarantee when it starts in this state. -/
def KeepsAt (g : Guarantee σ) (x : Run σ α) (s : σ) : Prop := g.inv s → g.Allows s (x s)

/-- The computation keeps the guarantee. -/
def Keeps (g : Guarantee σ) (x : Run σ α) : Prop := ∀ s, KeepsAt g x s

variable {g : Guarantee σ} {x : Run σ α} {f : α → Run σ β} {s s' : σ}

/-- A computation may be preceded by a step that keeps the guarantee. -/
theorem Guarantee.Allows.after {t : σ} {r : EStateM.Result Abort σ α} (hs : g.inv s) (ht : g.inv t)
    (h : g.rel s t) (hr : g.Allows t r) : g.Allows s r := by
  cases r with
  | ok a u => exact ⟨hr.1, g.trans hs ht h hr.2⟩
  | error e u => exact g.after hs ht h hr

/-- What is known after a computation has returned. -/
theorem KeepsAt.ok {a : α} (h : KeepsAt g x s) (hi : g.inv s) (hx : x s = .ok a s') :
    g.inv s' ∧ g.rel s s' := by
  have h' := h hi
  rw [hx] at h'
  exact h'

/-- What is known after a computation has broken off. -/
theorem KeepsAt.error {e : Abort} (h : KeepsAt g x s) (hi : g.inv s) (hx : x s = .error e s') :
    g.broken e s s' := by
  have h' := h hi
  rw [hx] at h'
  exact h'

/-- A guarantee, spelled out for both ways to end. -/
theorem keepsAt_iff : KeepsAt g x s ↔ (g.inv s →
    (∀ a s', x s = .ok a s' → g.inv s' ∧ g.rel s s') ∧
      ∀ e s', x s = .error e s' → g.broken e s s') := by
  constructor
  · exact fun h hi ↦ ⟨fun _ _ hx ↦ h.ok hi hx, fun _ _ hx ↦ h.error hi hx⟩
  · intro h hi
    obtain ⟨hok, herr⟩ := h hi
    cases hx : x s with
    | ok a s' => exact hok a s' hx
    | error e s' => exact herr e s' hx

/-! ## Rules -/

theorem keepsAt_pure (g : Guarantee σ) (a : α) (s : σ) : KeepsAt g (pure a) s :=
  fun hi ↦ ⟨hi, g.refl s⟩

theorem keeps_pure (g : Guarantee σ) (a : α) : Keeps g (pure a : Run σ α) := keepsAt_pure g a

/-- A computation may break off wherever the guarantee says so. -/
theorem keepsAt_throw {e : Abort} (h : g.inv s → g.broken e s s) :
    KeepsAt g (throw e : Run σ α) s := h

theorem run_bind_ok {a : α} (hx : x s = .ok a s') : (x >>= f) s = f a s' := by
  simp only [bind, EStateM.bind, hx]

theorem run_bind_error {e : Abort} (hx : x s = .error e s') : (x >>= f) s = .error e s' := by
  simp only [bind, EStateM.bind, hx]

theorem run_get_bind {f : σ → Run σ β} : (get >>= f) s = f s s := rfl

theorem run_read_bind {p : Place σ τ} {f : τ → Run σ β} : (p.read >>= f) s = f (p.get s) s := rfl

/-- If the whole has returned, both parts have. -/
theorem of_run_bind_ok {b : β} (h : (x >>= f) s = .ok b s') :
    ∃ a t, x s = .ok a t ∧ f a t = .ok b s' := by
  cases hx : x s with
  | ok a t => exact ⟨a, t, rfl, by rwa [run_bind_ok hx] at h⟩
  | error e t =>
    rw [run_bind_error hx] at h
    cases h

/-- One computation after the other; the second only has to keep the guarantee where the first
one ends. -/
theorem KeepsAt.bind (hx : KeepsAt g x s)
    (hf : ∀ a s', x s = .ok a s' → g.inv s → g.rel s s' → KeepsAt g (f a) s') :
    KeepsAt g (x >>= f) s := by
  intro hi
  cases h : x s with
  | error e s' =>
    rw [run_bind_error h]
    exact hx.error hi h
  | ok a s' =>
    rw [run_bind_ok h]
    obtain ⟨hi', h₁⟩ := hx.ok hi h
    exact (hf a s' h hi h₁ hi').after hi hi' h₁

theorem Keeps.bind (hx : Keeps g x) (hf : ∀ a, Keeps g (f a)) : Keeps g (x >>= f) :=
  fun s ↦ (hx s).bind fun a s' _ _ _ ↦ hf a s'

theorem keepsAt_modify {h : σ → σ} (hh : g.inv s → g.inv (h s) ∧ g.rel s (h s)) :
    KeepsAt g (modify h) s := hh

theorem keepsAt_get_bind {f : σ → Run σ β} (h : KeepsAt g (f s) s) : KeepsAt g (get >>= f) s := h

theorem keepsAt_read_bind {p : Place σ τ} {f : τ → Run σ β} (h : KeepsAt g (f (p.get s)) s) :
    KeepsAt g (p.read >>= f) s := h

/-- A change of one place keeps the guarantee if the changed state does. -/
theorem keepsAt_update {p : Place σ τ} {h : τ → τ}
    (hh : g.inv s → g.inv (p.modify h s) ∧ g.rel s (p.modify h s)) : KeepsAt g (p.update h) s := hh

theorem keepsAt_ite {c : Prop} [Decidable c] {x y : Run σ α} (hx : c → KeepsAt g x s)
    (hy : ¬c → KeepsAt g y s) : KeepsAt g (if c then x else y) s := by
  split
  · exact hx (by assumption)
  · exact hy (by assumption)

/-- From one guarantee to another, where the computation starts. -/
theorem KeepsAt.mono {g' : Guarantee σ} (h : KeepsAt g x s) (hinv : g'.inv s → g.inv s)
    (hrel : ∀ s', g'.inv s → g.inv s' → g.rel s s' → g'.inv s' ∧ g'.rel s s')
    (hbroken : ∀ e s', g'.inv s → g.broken e s s' → g'.broken e s s') : KeepsAt g' x s := by
  rw [keepsAt_iff] at h ⊢
  intro hi
  obtain ⟨hok, herr⟩ := h (hinv hi)
  refine ⟨fun a s' hx ↦ ?_, fun e s' hx ↦ hbroken e s' hi (herr e s' hx)⟩
  obtain ⟨hi', hr⟩ := hok a s' hx
  exact hrel s' hi hi' hr

/-! ## Assumptions -/

/-- What holds before a computation that keeps the guarantee holds after it. -/
def Guarantee.Stable (g : Guarantee σ) (P : σ → Prop) : Prop :=
  ∀ {s t}, g.inv s → P s → g.rel s t → P t

/-- The same guarantee for states where something more holds. -/
def Guarantee.under (g : Guarantee σ) (P : σ → Prop) : Guarantee σ where
  inv s := g.inv s ∧ P s
  rel := g.rel
  broken := g.broken
  refl := g.refl
  trans hs ht := g.trans hs.1 ht.1
  after hs ht := g.after hs.1 ht.1

section Under

variable {P : σ → Prop}

/-- A stable assumption may be used all along. -/
theorem KeepsAt.under (hP : g.Stable P) (h : P s → KeepsAt g x s) : KeepsAt (g.under P) x s := by
  rw [keepsAt_iff]
  intro hi
  refine ⟨fun a s' hx ↦ ?_, fun e s' hx ↦ (h hi.2).error hi.1 hx⟩
  obtain ⟨hi', hr⟩ := (h hi.2).ok hi.1 hx
  exact ⟨⟨hi', hP hi.1 hi.2 hr⟩, hr⟩

theorem KeepsAt.of_under (h : KeepsAt (g.under P) x s) (hs : P s) : KeepsAt g x s :=
  h.mono (fun hi ↦ ⟨hi, hs⟩) (fun _ _ hi' hr ↦ ⟨hi'.1, hr⟩) fun _ _ _ hb ↦ hb

end Under

/-! ## Two guarantees at once -/

/-- Both guarantees. -/
def Guarantee.both (g h : Guarantee σ) : Guarantee σ where
  inv s := g.inv s ∧ h.inv s
  rel s t := g.rel s t ∧ h.rel s t
  broken e s t := g.broken e s t ∧ h.broken e s t
  refl s := ⟨g.refl s, h.refl s⟩
  trans hs ht h₁ h₂ := ⟨g.trans hs.1 ht.1 h₁.1 h₂.1, h.trans hs.2 ht.2 h₁.2 h₂.2⟩
  after hs ht h₁ h₂ := ⟨g.after hs.1 ht.1 h₁.1 h₂.1, h.after hs.2 ht.2 h₁.2 h₂.2⟩

section Both

variable {h : Guarantee σ}

/-- The second guarantee may be shown from what the first one gives. -/
theorem KeepsAt.both (hg : KeepsAt g x s)
    (hok : g.inv s → h.inv s → ∀ a t, x s = .ok a t → g.inv t → g.rel s t → h.inv t ∧ h.rel s t)
    (herr : g.inv s → h.inv s → ∀ e t, x s = .error e t → g.broken e s t → h.broken e s t) :
    KeepsAt (g.both h) x s := by
  rw [keepsAt_iff]
  intro hi
  refine ⟨fun a t hx ↦ ?_, fun e t hx ↦ ?_⟩
  · obtain ⟨hi', hr⟩ := hg.ok hi.1 hx
    obtain ⟨hi'', hr'⟩ := hok hi.1 hi.2 a t hx hi' hr
    exact ⟨⟨hi', hi''⟩, hr, hr'⟩
  · have hb := hg.error hi.1 hx
    exact ⟨hb, herr hi.1 hi.2 e t hx hb⟩

/-- The second guarantee may be shown of the outcome alone, given the first. -/
theorem KeepsAt.both_of_ok {a : α} {t : σ} (hg : KeepsAt g x s) (hx : x s = .ok a t)
    (hh : g.inv s → h.inv s → g.inv t → g.rel s t → h.inv t ∧ h.rel s t) :
    KeepsAt (g.both h) x s := by
  refine hg.both (fun hi hj b u hx' ↦ ?_) fun _ _ e u hx' ↦ ?_
  · rw [hx] at hx'
    cases hx'
    exact hh hi hj
  · rw [hx] at hx'
    cases hx'

end Both

/-! ## Callbacks -/

/-- A context keeps a guarantee if its calls and its log lines do. -/
structure Callee.KeepsAll (g : Guarantee σ) (c : Callee σ) : Prop where
  call : ∀ slot args, Keeps g (c.call slot args)
  log : ∀ line, Keeps g (c.log line)

theorem Callee.KeepsAll.under {c : Callee σ} {P : σ → Prop} (hP : g.Stable P) (h : c.KeepsAll g) :
    c.KeepsAll (g.under P) where
  call slot args s := KeepsAt.under hP fun _ ↦ h.call slot args s
  log line s := KeepsAt.under hP fun _ ↦ h.log line s

/-! A drain or a tick only invokes callbacks that are registered at that moment, so for other calls
nothing has to be known. -/

section Registered

variable {c : Callee σ} (hlog : ∀ line, Keeps g (c.log line))
include hlog

/-- A callback that throws is logged, so only the call itself matters. -/
theorem keepsAt_invoke {o : Origin} {slot : Slot} {args : List Json}
    (hcall : KeepsAt g (c.call slot args) s) : KeepsAt g (c.invoke o slot args) s := by
  refine hcall.bind fun r s' _ _ _ ↦ ?_
  cases r with
  | ok u => exact keepsAt_pure g () s'
  | error e => exact hlog _ s'

/-- A message that cannot be read is logged, any other is handed to the callback. -/
theorem keepsAt_deliver {slot : Slot} (hcall : ∀ args, KeepsAt g (c.call slot args) s)
    (m : Message) : KeepsAt g (c.deliver slot m) s := by
  rw [Callee.deliver]
  split
  · exact keepsAt_invoke hlog (hcall _)
  · exact hlog _ s

section Drain

variable {place : Place σ Mailbox}
  (hcall : ∀ s slot args, (place.get s).callback = some slot → KeepsAt g (c.call slot args) s)
include hcall

/-- By induction on the messages that are left. -/
theorem keeps_walk : ∀ ms, Keeps g (Mailbox.walk place c ms)
  | [] => keeps_pure g 0
  | m :: rest => by
    intro s
    rw [Mailbox.walk]
    refine keepsAt_read_bind ?_
    split
    · exact keepsAt_pure g 0 s
    · rename_i slot hslot
      refine (keepsAt_deliver hlog (fun args ↦ hcall s slot args hslot) m).bind fun _ s₁ _ _ _ ↦ ?_
      exact (keeps_walk rest s₁).bind fun _ s₂ _ _ _ ↦ keepsAt_pure g _ s₂

/-- A drain keeps what its calls and the removal of the messages keep. -/
theorem keeps_drain (hsettle : ∀ n, Keeps g (place.update (·.settle n))) :
    Keeps g (Mailbox.drain place c) := by
  intro s
  rw [Mailbox.drain]
  refine keepsAt_read_bind (keepsAt_ite (fun _ ↦ keepsAt_pure g 0 s) fun _ ↦ ?_)
  exact (keeps_walk hlog hcall _ s).bind fun n s₁ _ _ _ ↦
    (hsettle n s₁).bind fun _ s₂ _ _ _ ↦ keepsAt_pure g n s₂

end Drain

/-- A tick keeps what the calls of intervals keep that are still there. -/
theorem keeps_fire {place : Place σ Timers} : ∀ {ts : List Timer},
    (∀ t ∈ ts, ∀ s, (place.get s).contains t.id → KeepsAt g (c.call t.callback []) s) →
    Keeps g (Timers.fire place c ts)
  | [], _ => keeps_pure g 0
  | t :: rest, hcall => by
    intro s
    have hrest := keeps_fire fun u hu ↦ hcall u (List.mem_cons_of_mem t hu)
    rw [Timers.fire]
    refine keepsAt_read_bind (keepsAt_ite (fun ht ↦ ?_) fun _ ↦ hrest s)
    refine (keepsAt_invoke hlog (hcall t List.mem_cons_self s ht)).bind fun _ s₁ _ _ _ ↦ ?_
    exact (hrest s₁).bind fun _ s₂ _ _ _ ↦ keepsAt_pure g _ s₂

end Registered

/-! ## How a drain goes -/

section Drains

variable {place : Place σ Mailbox} {callee : Callee σ} {t : σ} {slot : Slot} {n : Nat}

/-- A mailbox without a callback is left alone. -/
theorem run_drain_none (h : (place.get s).callback = none) :
    Mailbox.drain place callee s = .ok 0 s := by
  show (if (place.get s).callback.isNone then (pure 0 : Run σ Nat) else _) s = _
  rw [h]
  rfl

theorem run_drain_some (h : (place.get s).callback = some slot) :
    Mailbox.drain place callee s = (Mailbox.walk place callee (place.get s).items >>= fun n ↦
      place.update (·.settle n) >>= fun _ ↦ pure n) s := by
  show (if (place.get s).callback.isNone then (pure 0 : Run σ Nat) else _) s = _
  rw [h]
  rfl

/-- What was walked is removed at the end. -/
theorem run_drain_ok (h : (place.get s).callback = some slot)
    (hw : Mailbox.walk place callee (place.get s).items s = .ok n t) :
    Mailbox.drain place callee s = .ok n (place.modify (·.settle n) t) := by
  rw [run_drain_some h, run_bind_ok hw]
  rfl

/-- A drain that breaks off leaves every message in place. -/
theorem run_drain_error {e : Abort} (h : (place.get s).callback = some slot)
    (hw : Mailbox.walk place callee (place.get s).items s = .error e t) :
    Mailbox.drain place callee s = .error e t := by
  rw [run_drain_some h, run_bind_error hw]

end Drains

end ScriptWorkers
