import ScriptWorkers.Proofs.Change
import ScriptWorkers.Proofs.Guarantee

/-!
# Likenesses

Two runs are compared by what they do to two worlds that are alike.  A `Likeness` says in
what respect: which workers count at all, when two script contexts pass for each other, and
how far events and journals may differ.  All the rest of a worker that counts has to be the
same on both sides.

`L.Meets R x₁ x₂` says that two computations that start in worlds alike end in worlds alike, both
with values related by `R` or both broken off for the same reason.  Likeness is shown for the
smallest steps here; whatever is built from these steps follows by the rules.

The workers that count form a part of the tree that is closed downwards, and a worker yet to be
spawned may always count.  So what a context of that part can reach stays within it.
-/

namespace ScriptWorkers

/-- In what respect two worlds are compared. -/
structure Likeness (κ₁ κ₂ : Type) where
  /-- The contexts that count. -/
  inside : WorkerId → Prop
  context : κ₁ → κ₂ → Prop
  events : Array (WorkerId × Event) → Array (WorkerId × Event) → Prop
  journal : Array Deed → Array Deed → Prop
  push_events : ∀ {es₁ es₂ id e}, inside id → events es₁ es₂ →
    events (es₁.push (id, e)) (es₂.push (id, e))
  push_journal : ∀ {ds₁ ds₂ d}, inside d.about → journal ds₁ ds₂ →
    journal (ds₁.push d) (ds₂.push d)

theorem World.length_updateWorker {κ : Type} {w : World κ} {id : WorkerId}
    {f : Worker κ → Worker κ} : (w.updateWorker id f).workers.length = w.workers.length := by
  cases id with
  | zero => rfl
  | succ n => exact List.length_modify f _ n

namespace Likeness

variable {κ₁ κ₂ : Type} (L : Likeness κ₁ κ₂)

/-- Two scopes are alike, and list only workers that count. -/
structure Scopes (s₁ : Scope κ₁) (s₂ : Scope κ₂) : Prop where
  kids : s₁.kids = s₂.kids
  timers : s₁.timers = s₂.timers
  desk : s₁.desk = s₂.desk
  context : Option.Rel L.context s₁.context s₂.context
  inside_kids : ∀ c ∈ s₁.kids, L.inside c
  inside_held : ∀ c ∈ s₁.desk.workers, L.inside c

/-- Two workers are alike. -/
structure Workers (k₁ : Worker κ₁) (k₂ : Worker κ₂) : Prop where
  owner : k₁.owner = k₂.owner
  script : k₁.script = k₂.script
  link : k₁.link = k₂.link
  phase : k₁.phase = k₂.phase
  crashed : k₁.crashed = k₂.crashed
  scope : L.Scopes k₁.scope k₂.scope

/-- Two worlds are alike. -/
structure Worlds (w₁ : World κ₁) (w₂ : World κ₂) : Prop where
  count : w₁.workers.length = w₂.workers.length
  owners : ∀ c, w₁.owner? c = w₂.owner? c
  /-- Who is yet to be spawned may count. -/
  unborn : ∀ c, w₁.workers.length < c → L.inside c
  family : ∀ c p, w₁.owner? c = some p → L.inside p → L.inside c
  workers : ∀ c, L.inside c → Option.Rel L.Workers (w₁.worker? c) (w₂.worker? c)
  root : L.inside 0 → Option.Rel L.Scopes w₁.root w₂.root
  handles : L.inside 0 → w₁.handles = w₂.handles
  clock : w₁.clock = w₂.clock
  loader : w₁.loader = w₂.loader
  events : L.events w₁.events w₂.events
  journal : L.journal w₁.journal w₂.journal

/-- Two computations have come to the same end, in worlds alike. -/
def After {α₁ α₂ : Type} (R : α₁ → α₂ → Prop) :
    EStateM.Result Abort (World κ₁) α₁ → EStateM.Result Abort (World κ₂) α₂ → Prop
  | .ok a₁ w₁, .ok a₂ w₂ => R a₁ a₂ ∧ L.Worlds w₁ w₂
  | .error e₁ w₁, .error e₂ w₂ => e₁ = e₂ ∧ L.Worlds w₁ w₂
  | _, _ => False

/-- Two computations come to the same end wherever they start in worlds alike. -/
def Meets {α₁ α₂ : Type} (R : α₁ → α₂ → Prop) (x₁ : Run (World κ₁) α₁) (x₂ : Run (World κ₂) α₂) :
    Prop :=
  ∀ w₁ w₂, L.Worlds w₁ w₂ → L.After R (x₁ w₁) (x₂ w₂)

variable {L}

/-! ## Rules -/

section Rules

variable {α₁ α₂ β₁ β₂ : Type} {R : α₁ → α₂ → Prop} {S : β₁ → β₂ → Prop}
  {x₁ : Run (World κ₁) α₁} {x₂ : Run (World κ₂) α₂}

theorem meets_pure {a₁ : α₁} {a₂ : α₂} (h : R a₁ a₂) : L.Meets R (pure a₁) (pure a₂) :=
  fun _ _ hw ↦ ⟨h, hw⟩

theorem meets_throw (e : Abort) : L.Meets R (throw e) (throw e) := fun _ _ hw ↦ ⟨rfl, hw⟩

section After

variable {r₁ : EStateM.Result Abort (World κ₁) α₁} {r₂ : EStateM.Result Abort (World κ₂) α₂}

theorem After.ok_left {a₁ : α₁} {w₁ : World κ₁} (h : L.After R (.ok a₁ w₁) r₂) :
    ∃ a₂ w₂, r₂ = .ok a₂ w₂ ∧ R a₁ a₂ ∧ L.Worlds w₁ w₂ := by
  cases r₂ with
  | ok a₂ w₂ => exact ⟨a₂, w₂, rfl, h⟩
  | error e₂ w₂ => exact h.elim

theorem After.ok_right {a₂ : α₂} {w₂ : World κ₂} (h : L.After R r₁ (.ok a₂ w₂)) :
    ∃ a₁ w₁, r₁ = .ok a₁ w₁ ∧ R a₁ a₂ ∧ L.Worlds w₁ w₂ := by
  cases r₁ with
  | ok a₁ w₁ => exact ⟨a₁, w₁, rfl, h⟩
  | error e₁ w₁ => exact h.elim

theorem After.error_left {e : Abort} {w₁ : World κ₁} (h : L.After R (.error e w₁) r₂) :
    ∃ w₂, r₂ = .error e w₂ ∧ L.Worlds w₁ w₂ := by
  cases r₂ with
  | ok a₂ w₂ => exact h.elim
  | error e₂ w₂ => exact ⟨w₂, by rw [h.1], h.2⟩

end After

/-- The values may be related more loosely. -/
theorem Meets.mono {R' : α₁ → α₂ → Prop} (h : L.Meets R x₁ x₂) (hR : ∀ a₁ a₂, R a₁ a₂ → R' a₁ a₂) :
    L.Meets R' x₁ x₂ := by
  intro w₁ w₂ hw
  have h' := h w₁ w₂ hw
  cases h₁ : x₁ w₁ with
  | ok a₁ v₁ =>
    rw [h₁] at h'
    obtain ⟨a₂, v₂, h₂, ha, hv⟩ := h'.ok_left
    rw [h₂]
    exact ⟨hR a₁ a₂ ha, hv⟩
  | error e v₁ =>
    rw [h₁] at h'
    obtain ⟨v₂, h₂, hv⟩ := h'.error_left
    rw [h₂]
    exact ⟨rfl, hv⟩

/-- What comes after values that are related. -/
theorem Meets.bind {f₁ : α₁ → Run (World κ₁) β₁} {f₂ : α₂ → Run (World κ₂) β₂} (h : L.Meets R x₁ x₂)
    (hf : ∀ a₁ a₂, R a₁ a₂ → L.Meets S (f₁ a₁) (f₂ a₂)) : L.Meets S (x₁ >>= f₁) (x₂ >>= f₂) := by
  intro w₁ w₂ hw
  have h' := h w₁ w₂ hw
  cases h₁ : x₁ w₁ with
  | ok a₁ v₁ =>
    rw [h₁] at h'
    obtain ⟨a₂, v₂, h₂, ha, hv⟩ := h'.ok_left
    rw [run_bind_ok h₁, run_bind_ok h₂]
    exact hf a₁ a₂ ha v₁ v₂ hv
  | error e v₁ =>
    rw [h₁] at h'
    obtain ⟨v₂, h₂, hv⟩ := h'.error_left
    rw [run_bind_error h₁, run_bind_error h₂]
    exact ⟨rfl, hv⟩

/-- As `Meets.bind`, where the values passed on are the same. -/
theorem Meets.next {α : Type} {x₁ : Run (World κ₁) α} {x₂ : Run (World κ₂) α}
    {f₁ : α → Run (World κ₁) β₁} {f₂ : α → Run (World κ₂) β₂} (h : L.Meets Eq x₁ x₂)
    (hf : ∀ a, L.Meets S (f₁ a) (f₂ a)) : L.Meets S (x₁ >>= f₁) (x₂ >>= f₂) := by
  refine h.bind ?_
  rintro a _ rfl
  exact hf a

theorem meets_get_bind {f₁ : World κ₁ → Run (World κ₁) β₁} {f₂ : World κ₂ → Run (World κ₂) β₂}
    (h : ∀ w₁ w₂, L.Worlds w₁ w₂ → L.Meets S (f₁ w₁) (f₂ w₂)) :
    L.Meets S (get >>= f₁) (get >>= f₂) :=
  fun w₁ w₂ hw ↦ h w₁ w₂ hw w₁ w₂ hw

theorem meets_modify {f₁ : World κ₁ → World κ₁} {f₂ : World κ₂ → World κ₂}
    (h : ∀ w₁ w₂, L.Worlds w₁ w₂ → L.Worlds (f₁ w₁) (f₂ w₂)) : L.Meets Eq (modify f₁) (modify f₂) :=
  fun w₁ w₂ hw ↦ ⟨rfl, h w₁ w₂ hw⟩

section Places

variable {τ₁ τ₂ : Type} {p₁ : Place (World κ₁) τ₁} {p₂ : Place (World κ₂) τ₂}

/-- Both sides read what is alike. -/
theorem meets_read {Q : τ₁ → τ₂ → Prop} (h : ∀ w₁ w₂, L.Worlds w₁ w₂ → Q (p₁.get w₁) (p₂.get w₂)) :
    L.Meets Q p₁.read p₂.read :=
  fun w₁ w₂ hw ↦ ⟨h w₁ w₂ hw, hw⟩

theorem meets_update {f₁ : τ₁ → τ₁} {f₂ : τ₂ → τ₂}
    (h : ∀ w₁ w₂, L.Worlds w₁ w₂ → L.Worlds (p₁.modify f₁ w₁) (p₂.modify f₂ w₂)) :
    L.Meets Eq (p₁.update f₁) (p₂.update f₂) :=
  fun w₁ w₂ hw ↦ ⟨rfl, h w₁ w₂ hw⟩

end Places

/-- A case distinction that comes out the same on both sides. -/
theorem meets_ite {c₁ c₂ : Prop} [Decidable c₁] [Decidable c₂] {y₁ : Run (World κ₁) α₁}
    {y₂ : Run (World κ₂) α₂} (hc : c₁ ↔ c₂) (hx : c₁ → L.Meets R x₁ x₂)
    (hy : ¬ c₁ → L.Meets R y₁ y₂) :
    L.Meets R (if c₁ then x₁ else y₁) (if c₂ then x₂ else y₂) := by
  by_cases h : c₁
  · rw [if_pos h, if_pos (hc.1 h)]
    exact hx h
  · rw [if_neg h, if_neg (mt hc.2 h)]
    exact hy h

end Rules

/-! ## What is seen of worlds alike -/

theorem rel_cases {α β : Type} {R : α → β → Prop} {o₁ : Option α} {o₂ : Option β}
    (h : Option.Rel R o₁ o₂) :
    (o₁ = none ∧ o₂ = none) ∨ ∃ a b, o₁ = some a ∧ o₂ = some b ∧ R a b := by
  cases h with
  | some h => exact .inr ⟨_, _, rfl, rfl, h⟩
  | none => exact .inl ⟨rfl, rfl⟩

theorem isSome_of_rel {α β : Type} {R : α → β → Prop} {o₁ : Option α} {o₂ : Option β}
    (h : Option.Rel R o₁ o₂) : o₁.isSome = o₂.isSome := by
  cases h <;> rfl

theorem Scopes.empty : L.Scopes {} {} := ⟨rfl, rfl, rfl, .none, by simp, by simp⟩

namespace Worlds

variable {w₁ : World κ₁} {w₂ : World κ₂} {id me : WorkerId}

/-- A worker that counts is there on both sides or on neither. -/
theorem worker (h : L.Worlds w₁ w₂) (hid : L.inside id) :
    (w₁.worker? id = none ∧ w₂.worker? id = none) ∨
      ∃ k₁ k₂, w₁.worker? id = some k₁ ∧ w₂.worker? id = some k₂ ∧ L.Workers k₁ k₂ :=
  rel_cases (h.workers id hid)

/-- The scopes of a worker that counts are alike. -/
theorem scope (h : L.Worlds w₁ w₂) (hid : L.inside id) : L.Scopes (w₁.scope id) (w₂.scope id) := by
  cases id with
  | zero =>
    rw [World.scope, World.scope]
    rcases rel_cases (h.root hid) with ⟨h₁, h₂⟩ | ⟨s₁, s₂, h₁, h₂, hs⟩
    · rw [h₁, h₂]
      exact .empty
    · rw [h₁, h₂]
      exact hs
  | succ n =>
    rw [World.scope, World.scope]
    rcases h.worker hid with ⟨h₁, h₂⟩ | ⟨k₁, k₂, h₁, h₂, hk⟩
    · rw [h₁, h₂]
      exact .empty
    · rw [h₁, h₂]
      exact hk.scope

theorem link (h : L.Worlds w₁ w₂) (hid : L.inside id) : w₁.link id = w₂.link id := by
  rw [World.link, World.link]
  rcases h.worker hid with ⟨h₁, h₂⟩ | ⟨k₁, k₂, h₁, h₂, hk⟩
  · rw [h₁, h₂]
    rfl
  · rw [h₁, h₂]
    exact hk.link

theorem phase (h : L.Worlds w₁ w₂) (hid : L.inside id) : w₁.phase id = w₂.phase id := by
  rw [World.phase, World.phase]
  rcases h.worker hid with ⟨h₁, h₂⟩ | ⟨k₁, k₂, h₁, h₂, hk⟩
  · rw [h₁, h₂]
    rfl
  · rw [h₁, h₂]
    exact hk.phase

theorem isLive (h : L.Worlds w₁ w₂) (hid : L.inside id) : w₁.isLive id = w₂.isLive id := by
  rw [World.isLive, World.isLive, h.phase hid]

/-- Who belongs to a worker that counts counts too. -/
theorem inside_of_owner? (h : L.Worlds w₁ w₂) (hme : L.inside me) (ho : w₁.owner? id = some me) :
    L.inside id :=
  h.family id me ho hme

/-! ## Changes that keep worlds alike -/

theorem note (h : L.Worlds w₁ w₂) (hid : L.inside id) (e : Event) :
    L.Worlds { w₁ with events := w₁.events.push (id, e) }
      { w₂ with events := w₂.events.push (id, e) } :=
  { h with events := L.push_events hid h.events }

theorem record (h : L.Worlds w₁ w₂) {d : Deed} (hd : L.inside d.about) :
    L.Worlds { w₁ with journal := w₁.journal.push d } { w₂ with journal := w₂.journal.push d } :=
  { h with journal := L.push_journal hd h.journal }

/-- Both sides change a worker in the same way. -/
theorem updateWorker {f₁ : Worker κ₁ → Worker κ₁} {f₂ : Worker κ₂ → Worker κ₂} (h : L.Worlds w₁ w₂)
    (hf₁ : ∀ k, (f₁ k).owner = k.owner) (hf₂ : ∀ k, (f₂ k).owner = k.owner)
    (hf : ∀ k₁ k₂, L.Workers k₁ k₂ → L.Workers (f₁ k₁) (f₂ k₂)) :
    L.Worlds (w₁.updateWorker id f₁) (w₂.updateWorker id f₂) where
  count := by rw [World.length_updateWorker, World.length_updateWorker, h.count]
  owners c := by rw [World.owner?_updateWorker hf₁, World.owner?_updateWorker hf₂, h.owners]
  unborn c hc := h.unborn c (by rwa [World.length_updateWorker] at hc)
  family c p hc hp := h.family c p (by rwa [World.owner?_updateWorker hf₁] at hc) hp
  workers c hc := by
    rw [World.worker?_updateWorker, World.worker?_updateWorker]
    split
    · rcases h.worker hc with ⟨h₁, h₂⟩ | ⟨k₁, k₂, h₁, h₂, hk⟩
      · rw [h₁, h₂]
        exact .none
      · rw [h₁, h₂]
        exact .some (hf k₁ k₂ hk)
    · exact h.workers c hc
  root h0 := by
    rw [World.root_updateWorker, World.root_updateWorker]
    exact h.root h0
  handles h0 := by
    rw [World.handles_updateWorker, World.handles_updateWorker]
    exact h.handles h0
  clock := by cases id <;> exact h.clock
  loader := by cases id <;> exact h.loader
  events := by
    rw [World.events_updateWorker, World.events_updateWorker]
    exact h.events
  journal := by
    rw [World.journal_updateWorker, World.journal_updateWorker]
    exact h.journal

theorem setScope {s₁ : Scope κ₁} {s₂ : Scope κ₂} (h : L.Worlds w₁ w₂) (hs : L.Scopes s₁ s₂) :
    L.Worlds (w₁.setScope id s₁) (w₂.setScope id s₂) := by
  cases id with
  | zero =>
    refine { h with root := fun h0 ↦ ?_ }
    rw [World.root_setScope, World.root_setScope, if_pos rfl, if_pos rfl]
    rcases rel_cases (h.root h0) with ⟨h₁, h₂⟩ | ⟨t₁, t₂, h₁, h₂, -⟩
    · rw [h₁, h₂]
      exact .none
    · rw [h₁, h₂]
      exact .some hs
  | succ n =>
    rw [World.setScope, World.setScope]
    exact h.updateWorker (fun _ ↦ rfl) (fun _ ↦ rfl) fun _ _ hk ↦ { hk with scope := hs }

theorem setLink (h : L.Worlds w₁ w₂) (l : Link) :
    L.Worlds (w₁.setLink id l) (w₂.setLink id l) :=
  h.updateWorker (fun _ ↦ rfl) (fun _ ↦ rfl) fun _ _ hk ↦ { hk with link := rfl }

theorem grow (h : L.Worlds w₁ w₂) (me : WorkerId) (script : String) :
    L.Worlds (w₁.grow me script) (w₂.grow me script) := by
  have hnew : L.inside (w₁.workers.length + 1) := h.unborn _ (Nat.lt_succ_self _)
  have hown (c : WorkerId) : (w₁.grow me script).owner? c =
      if c = w₁.workers.length + 1 then some me else w₁.owner? c := by
    rw [World.owner?, World.worker?_grow]
    split <;> rfl
  refine { h with count := ?_, owners := fun c ↦ ?_, unborn := fun c hc ↦ h.unborn c ?_,
                  family := fun c p hc hp ↦ ?_, workers := fun c hc ↦ ?_ }
  · simp [World.grow, h.count]
  · rw [World.owner?, World.owner?, World.worker?_grow, World.worker?_grow, h.count]
    split
    · rfl
    · exact h.owners c
  · simp only [World.grow, List.length_append, List.length_cons, List.length_nil] at hc
    omega
  · rw [hown] at hc
    split at hc
    · rename_i hid
      exact hid ▸ hnew
    · exact h.family c p hc hp
  · rw [World.worker?_grow, World.worker?_grow, h.count]
    split
    · exact .some ⟨rfl, rfl, rfl, rfl, rfl, .empty⟩
    · exact h.workers c hc

/-- The new worker gets the same number on both sides. -/
theorem spawned (h : L.Worlds w₁ w₂) (hme : L.inside me) (script : String) :
    L.Worlds (w₁.spawned me script) (w₂.spawned me script) := by
  have hs := h.scope hme
  refine (h.grow me script).setScope { hs with kids := ?_, inside_kids := fun c hc ↦ ?_ }
  · rw [hs.kids, h.count]
  · rcases List.mem_append.1 hc with hc | hc
    · exact hs.inside_kids c hc
    · rw [List.mem_singleton] at hc
      exact hc ▸ h.unborn _ (Nat.lt_succ_self _)

end Worlds

/-! ## Where contexts have to be the same -/

section Same

variable {κ : Type} {L : Likeness κ κ}

/-- If contexts have to be the same, scopes alike are the same. -/
theorem Scopes.eq {s₁ s₂ : Scope κ} (h : L.Scopes s₁ s₂)
    (hL : ∀ c₁ c₂, L.context c₁ c₂ → c₁ = c₂) : s₁ = s₂ := by
  have hcontext : s₁.context = s₂.context := by
    rcases rel_cases h.context with ⟨h₁, h₂⟩ | ⟨x, y, h₁, h₂, hxy⟩
    · rw [h₁, h₂]
    · rw [h₁, h₂, hL x y hxy]
  cases s₁
  cases s₂
  simp only [Scope.mk.injEq]
  exact ⟨h.kids, h.timers, h.desk, hcontext⟩

theorem Workers.eq {k₁ k₂ : Worker κ} (h : L.Workers k₁ k₂)
    (hL : ∀ c₁ c₂, L.context c₁ c₂ → c₁ = c₂) : k₁ = k₂ := by
  cases k₁
  cases k₂
  simp only [Worker.mk.injEq]
  exact ⟨h.owner, h.script, h.link, h.phase, h.crashed, h.scope.eq hL⟩

/-- Where everybody counts, only events and journals are left to differ. -/
theorem Worlds.eq {w₁ w₂ : World κ} (h : L.Worlds w₁ w₂) (hall : ∀ id, L.inside id)
    (hL : ∀ c₁ c₂, L.context c₁ c₂ → c₁ = c₂) :
    w₁ = { w₂ with events := w₁.events, journal := w₁.journal } := by
  have hroot : w₁.root = w₂.root := by
    rcases rel_cases (h.root (hall 0)) with ⟨h₁, h₂⟩ | ⟨s₁, s₂, h₁, h₂, hs⟩
    · rw [h₁, h₂]
    · rw [h₁, h₂, hs.eq hL]
  have hworkers : w₁.workers = w₂.workers := by
    refine World.workers_eq fun x ↦ ?_
    rcases h.worker (hall x) with ⟨h₁, h₂⟩ | ⟨k₁, k₂, h₁, h₂, hk⟩
    · rw [h₁, h₂]
    · rw [h₁, h₂, hk.eq hL]
  cases w₁
  cases w₂
  simp only [World.mk.injEq]
  exact ⟨hroot, hworkers, h.handles (hall 0), h.clock, h.loader, trivial, trivial⟩

end Same

/-! ## The smallest steps -/

section Steps

variable {id me : WorkerId} {side : Side}

open World

theorem meets_note (hid : L.inside id) (e : Event) : L.Meets Eq (note id e) (note id e) :=
  meets_modify fun _ _ hw ↦ hw.note hid e

theorem meets_record {d : Deed} (hd : L.inside d.about) : L.Meets Eq (record d) (record d) :=
  meets_modify fun _ _ hw ↦ hw.record hd

theorem meets_setPhase (id : WorkerId) (p : Phase) : L.Meets Eq (setPhase id p) (setPhase id p) :=
  meets_modify fun _ _ hw ↦
    hw.updateWorker (fun _ ↦ rfl) (fun _ ↦ rfl) fun _ _ hk ↦ { hk with phase := rfl }

/-- The register is the same and lists only workers that count. -/
theorem meets_read_kids (hme : L.inside me) :
    L.Meets (fun k₁ k₂ ↦ k₁ = k₂ ∧ ∀ c ∈ k₁, L.inside c) (kidsPlace me).read (kidsPlace me).read :=
  meets_read fun _ _ hw ↦ ⟨(hw.scope hme).kids, (hw.scope hme).inside_kids⟩

/-- The desk is the same and holds only workers that count. -/
theorem meets_read_desk (hme : L.inside me) :
    L.Meets (fun d₁ d₂ ↦ d₁ = d₂ ∧ ∀ c, d₁.holds c → L.inside c)
      (deskPlace me).read (deskPlace me).read :=
  meets_read fun _ _ hw ↦ ⟨(hw.scope hme).desk, fun c hc ↦
    (hw.scope hme).inside_held c (List.contains_iff_mem.1 hc)⟩

theorem meets_read_timers (hme : L.inside me) :
    L.Meets Eq (timersPlace me).read (timersPlace me).read :=
  meets_read fun _ _ hw ↦ (hw.scope hme).timers

theorem meets_read_context (hme : L.inside me) :
    L.Meets (Option.Rel L.context) (contextPlace me).read (contextPlace me).read :=
  meets_read fun _ _ hw ↦ (hw.scope hme).context

theorem meets_read_link (hid : L.inside id) : L.Meets Eq (linkPlace id).read (linkPlace id).read :=
  meets_read fun _ _ hw ↦ hw.link hid

theorem meets_read_box (hid : L.inside id) (side : Side) :
    L.Meets Eq (boxPlace id side).read (boxPlace id side).read :=
  meets_read fun _ _ hw ↦ congrArg (·.box side) (hw.link hid)

theorem meets_read_clock : L.Meets Eq clockPlace.read clockPlace.read :=
  meets_read fun _ _ hw ↦ hw.clock

theorem meets_read_loader : L.Meets Eq loaderPlace.read loaderPlace.read :=
  meets_read fun _ _ hw ↦ hw.loader

/-- Workers may be struck off the register. -/
theorem meets_update_kids (hme : L.inside me) (f : List WorkerId → List WorkerId)
    (hf : ∀ ks, ∀ c ∈ f ks, c ∈ ks) :
    L.Meets Eq ((kidsPlace me).update f) ((kidsPlace me).update f) := by
  refine meets_update fun w₁ w₂ hw ↦ hw.setScope ?_
  have hs := hw.scope hme
  exact { hs with
          kids := congrArg f hs.kids
          inside_kids := fun c hc ↦ hs.inside_kids c (hf _ c hc) }

/-- Workers that count may be put on the desk. -/
theorem meets_update_desk (hme : L.inside me) (f : Desk → Desk)
    (hf : ∀ d, ∀ c ∈ (f d).workers, c ∈ d.workers ∨ L.inside c) :
    L.Meets Eq ((deskPlace me).update f) ((deskPlace me).update f) := by
  refine meets_update fun w₁ w₂ hw ↦ hw.setScope ?_
  have hs := hw.scope hme
  exact { hs with
          desk := congrArg f hs.desk
          inside_held := fun c hc ↦ (hf _ c hc).elim (hs.inside_held c) id }

theorem meets_update_timers (hme : L.inside me) (f : Timers → Timers) :
    L.Meets Eq ((timersPlace me).update f) ((timersPlace me).update f) := by
  refine meets_update fun w₁ w₂ hw ↦ hw.setScope ?_
  have hs := hw.scope hme
  exact { hs with timers := congrArg f hs.timers }

theorem meets_set_context (hme : L.inside me) {c₁ : Option κ₁} {c₂ : Option κ₂}
    (hc : Option.Rel L.context c₁ c₂) :
    L.Meets Eq ((contextPlace me).update fun _ ↦ c₁) ((contextPlace me).update fun _ ↦ c₂) :=
  meets_update fun _ _ hw ↦ hw.setScope { hw.scope hme with context := hc }

theorem meets_update_link (hid : L.inside id) (f : Link → Link) :
    L.Meets Eq ((linkPlace id).update f) ((linkPlace id).update f) := by
  refine meets_update fun w₁ w₂ hw ↦ ?_
  change L.Worlds (w₁.setLink id (f (w₁.link id))) (w₂.setLink id (f (w₂.link id)))
  rw [hw.link hid]
  exact hw.setLink _

theorem meets_update_box (hid : L.inside id) (side : Side) (f : Mailbox → Mailbox) :
    L.Meets Eq ((boxPlace id side).update f) ((boxPlace id side).update f) := by
  refine meets_update fun w₁ w₂ hw ↦ ?_
  rw [boxPlace_modify, boxPlace_modify, hw.link hid]
  exact hw.setLink _

theorem meets_update_clock (f : Clock → Clock) :
    L.Meets Eq (clockPlace.update f) (clockPlace.update f) :=
  meets_update fun _ _ hw ↦ { hw with clock := congrArg f hw.clock }

theorem meets_update_loader (f : Loader → Loader) :
    L.Meets Eq (loaderPlace.update f) (loaderPlace.update f) :=
  meets_update fun _ _ hw ↦ { hw with loader := congrArg f hw.loader }

/-- Spawning has the same answer on both sides, and the new worker counts. -/
theorem meets_spawn (hme : L.inside me) (script : String) :
    L.Meets (fun r₁ r₂ ↦ r₁ = r₂ ∧ ∀ id, r₁ = .ok id → L.inside id)
      (spawn me script) (spawn me script) := by
  intro w₁ w₂ hw
  rw [run_spawn, run_spawn, hw.loader]
  split
  · refine ⟨⟨by rw [hw.count], ?_⟩, hw.spawned hme script⟩
    rintro id ⟨⟩
    exact hw.unborn _ (Nat.lt_succ_self _)
  · exact ⟨⟨rfl, by simp⟩, hw⟩

end Steps

end Likeness

end ScriptWorkers
