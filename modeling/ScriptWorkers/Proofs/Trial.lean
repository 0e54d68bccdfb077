import ScriptWorkers.Bench.Basic
import ScriptWorkers.Proofs.Regime

/-!
# Trials on record

A bench exercises a single part with callbacks that follow a table of rules.  What is to hold for
any callbacks is shown of a `Trial`: its script remembers what it likes, and a callback makes any
plan that asks for operations on the part, sees their answers, and may fail, panic or go on for
ever.  Every operation is put down in a diary, with the part before it and after it.

* A `Story` tells how the part gets from one state to another: by the operations in the diary and,
  between them, by what the core does to the part itself while it walks through it.
* `told` is the guarantee that there is such a story.  All callbacks keep it (`callee_keepsAll`), so
  a whole run has a story (`story_run`), also if some of its operations were broken off.
* `Story.seen` carries an invariant and an order over all states that a story passes through.
-/

namespace ScriptWorkers

/-- An operation that was performed: its answer, and the part before it and after it. -/
structure Deal (τ ω : Type) where
  before : τ
  op : ω
  answer : Answer
  after : τ

/-- A bench with the memory of its script and a diary of operations. -/
structure Trial (τ ω μ : Type) where
  bench : Bench τ
  memory : μ
  diary : List (Deal τ ω) := []

/-- The plan that the callback of a slot makes, by what the script remembers.  It ends with what the
script remembers from then on. -/
abbrev Trial.Script (ω μ : Type) := Slot → List Json → μ → Plan (fun _ : ω ↦ Answer) (μ × Ending)

/-- A computation on a part of the state. -/
def Place.inside {σ τ α : Type} (p : Place σ τ) (x : Run τ α) : Run σ α := fun s ↦
  match x (p.get s) with
  | .ok a t => .ok a (p.set t s)
  | .error e t => .error e (p.set t s)

theorem Place.run_inside_ok {σ τ α : Type} {p : Place σ τ} {x : Run τ α} {s : σ} {t : τ} {a : α}
    (h : x (p.get s) = .ok a t) : p.inside x s = .ok a (p.set t s) := by
  simp only [Place.inside, h]

namespace Trial

variable {τ ω μ ν α : Type}

/-- Where the bench sits. -/
def benchPlace : Place (Trial τ ω μ) (Bench τ) := ⟨bench, fun b t ↦ { t with bench := b }⟩

/-- Where the part under trial sits. -/
def part : Place (Trial τ ω μ) τ := benchPlace.within Bench.part

/-- Performs an operation and puts it down. -/
def serve (perform : ω → Run (Bench τ) Answer) (op : ω) : Run (Trial τ ω μ) Answer := do
  let before ← part.read
  let answer ← benchPlace.inside (perform op)
  let after ← part.read
  modify fun t ↦ { t with diary := t.diary ++ [⟨before, op, answer, after⟩] }
  return answer

/-- The context whose callbacks carry out the plans of a script. -/
def callee (perform : ω → Run (Bench τ) Answer) (script : Script ω μ) : Callee (Trial τ ω μ) where
  call slot args := do
    let (m, ending) ← (script slot args (← get).memory).run (serve perform)
    modify fun t ↦ { t with memory := m }
    match ending with
    | .done => return .ok ()
    | .failed e => return .error e
    | .panicked => throw .panic
    | .endless => throw (.endless 0)
  log line := benchPlace.inside (Bench.note (.log line))

/-- The trial after one thing has been done, whether or not it was broken off. -/
def next (x : Run (Trial τ ω μ) α) (t : Trial τ ω μ) : Trial τ ω μ :=
  match x t with
  | .ok _ t' => t'
  | .error _ t' => t'

/-- A trial at its start. -/
def start (s : τ) (m : μ) : Trial τ ω μ := ⟨⟨s, #[], #[]⟩, m, []⟩

/-- The trial after one thing has been done after the other. -/
def run (act : ν → Run (Trial τ ω μ) α) (moves : List ν) (t : Trial τ ω μ) : Trial τ ω μ :=
  moves.foldl (fun t m ↦ next (act m) t) t

/-! ## Stories -/

/-- The answer and the part after the operation are what the operation gives. -/
def Honest (perform : ω → Run (Bench τ) Answer) (d : Deal τ ω) : Prop :=
  ∃ b b', b.subject = d.before ∧ perform d.op b = .ok d.answer b' ∧ b'.subject = d.after

/-- How a part gets from one state to another: by operations, and by changes `own` between them. -/
inductive Story (perform : ω → Run (Bench τ) Answer) (own : τ → τ → Prop) (s : τ) :
    List (Deal τ ω) → τ → Prop
  | refl : Story perform own s [] s
  | own {h : List (Deal τ ω)} {s₁ s₂ : τ} :
    Story perform own s h s₁ → own s₁ s₂ → Story perform own s h s₂
  | deal {h : List (Deal τ ω)} {d : Deal τ ω} :
    Story perform own s h d.before → Honest perform d → Story perform own s (h ++ [d]) d.after

/-- The states that a story passes through, up to the last one. -/
def seen (h : List (Deal τ ω)) (s : τ) : List τ := h.flatMap (fun d ↦ [d.before, d.after]) ++ [s]

variable {perform : ω → Run (Bench τ) Answer} {own : τ → τ → Prop} {s s₁ s₂ : τ}
  {h h' : List (Deal τ ω)}

/-- One story after the other. -/
theorem Story.trans (hs : Story perform own s h s₁) (hs' : Story perform own s₁ h' s₂) :
    Story perform own s (h ++ h') s₂ := by
  induction hs' with
  | refl => rwa [List.append_nil]
  | own _ ho ih => exact ih.own ho
  | deal _ hd ih =>
    rw [← List.append_assoc]
    exact ih.deal hd

theorem Story.mono {own' : τ → τ → Prop} (hown : ∀ s s', own s s' → own' s s')
    (hs : Story perform own s h s₁) : Story perform own' s h s₁ := by
  induction hs with
  | refl => exact .refl
  | own _ ho ih => exact ih.own (hown _ _ ho)
  | deal _ hd ih => exact ih.deal hd

/-- The story before and after an operation. -/
theorem Story.split {d : Deal τ ω} (hs : Story perform own s (h ++ d :: h') s₁) :
    Story perform own s h d.before ∧ Honest perform d ∧ Story perform own d.after h' s₁ := by
  generalize hall : h ++ d :: h' = all at hs
  induction hs generalizing h' with
  | refl => exact absurd hall (by simp)
  | own _ ho ih =>
    obtain ⟨hbefore, hd, hafter⟩ := ih hall
    exact ⟨hbefore, hd, hafter.own ho⟩
  | @deal g e hg he ih =>
    -- either this is the operation to split at, or it comes after that one
    rcases List.eq_nil_or_concat h' with rfl | ⟨h'', e', rfl⟩
    · obtain ⟨rfl, rfl⟩ : h = g ∧ d = e := by simpa using List.append_inj' hall rfl
      exact ⟨hg, he, .refl⟩
    · rw [List.concat_eq_append, ← List.cons_append, ← List.append_assoc] at hall
      obtain ⟨hg', he'⟩ := List.append_inj' hall rfl
      obtain rfl : e' = e := by simpa using he'
      obtain ⟨hbefore, hd, hafter⟩ := ih hg'
      rw [List.concat_eq_append]
      exact ⟨hbefore, hd, hafter.deal he⟩

/-- The last operation is seen last. -/
theorem seen_concat (h : List (Deal τ ω)) (d : Deal τ ω) :
    seen (h ++ [d]) s = seen h d.before ++ [d.after, s] := by
  simp [seen]

/-- Whoever is before the last of a list is before everything that comes after the last. -/
theorem pairwise_concat_of_last {R : τ → τ → Prop} (htrans : ∀ a b c, R a b → R b c → R a c)
    {l : List τ} (hl : (l ++ [s]).Pairwise R) (hr : R s s₁) :
    (l ++ [s₁]).Pairwise R ∧ (l ++ [s] ++ [s₁]).Pairwise R := by
  obtain ⟨hpre, -, hlast⟩ := List.pairwise_append.1 hl
  have hlast' (a : τ) (ha : a ∈ l) : R a s₁ := htrans a s s₁ (hlast a ha s List.mem_cons_self) hr
  refine ⟨List.pairwise_append.2 ⟨hpre, List.pairwise_singleton _ _, fun a ha b hb ↦ ?_⟩,
    List.pairwise_append.2 ⟨hl, List.pairwise_singleton _ _, fun a ha b hb ↦ ?_⟩⟩
  · rw [List.mem_singleton.1 hb]
    exact hlast' a ha
  · rw [List.mem_singleton.1 hb]
    rcases List.mem_append.1 ha with ha | ha
    · exact hlast' a ha
    · rwa [List.mem_singleton.1 ha]

/-- What every change keeps holds of all states of a story, and how every change goes on, the whole
story goes on. -/
theorem Story.seen {I : τ → Prop} {R : τ → τ → Prop} (hrefl : ∀ a, R a a)
    (htrans : ∀ a b c, R a b → R b c → R a c)
    (hown : ∀ {a b}, I a → own a b → I b ∧ R a b)
    (hdeal : ∀ {d}, d ∈ h → I d.before → Honest perform d → I d.after ∧ R d.before d.after)
    (hs : Story perform own s h s₁) (hi : I s) :
    (∀ a ∈ Trial.seen h s₁, I a) ∧ (Trial.seen h s₁).Pairwise R := by
  induction hs with
  | refl => exact ⟨by simpa [Trial.seen] using hi, by simp [Trial.seen]⟩
  | @own h a b _ ho ih =>
    obtain ⟨hall, hpair⟩ := ih hdeal
    obtain ⟨hb, hr⟩ := hown (hall a (by simp [Trial.seen])) ho
    refine ⟨fun c hc ↦ ?_, (pairwise_concat_of_last htrans hpair hr).1⟩
    rcases List.mem_append.1 hc with hc | hc
    · exact hall c (List.mem_append_left _ hc)
    · rwa [List.mem_singleton.1 hc]
  | @deal h d _ hd ih =>
    obtain ⟨hall, hpair⟩ := ih fun {e} he ↦ hdeal (List.mem_append_left _ he)
    obtain ⟨ha, hr⟩ := hdeal (by simp) (hall d.before (by simp [Trial.seen])) hd
    rw [seen_concat]
    refine ⟨fun c hc ↦ ?_, ?_⟩
    · rcases List.mem_append.1 hc with hc | hc
      · exact hall c hc
      · obtain rfl : c = d.after := by simpa using hc
        exact ha
    · have hfirst := (pairwise_concat_of_last htrans hpair hr).2
      have hsecond := (pairwise_concat_of_last htrans hfirst (hrefl d.after)).2
      rwa [List.append_assoc] at hsecond

/-! ## Every run has a story -/

/-- The guarantee that the diary tells how the part has changed. -/
def told (perform : ω → Run (Bench τ) Answer) (own : τ → τ → Prop) : Guarantee (Trial τ ω μ) where
  inv _ := True
  rel t t' := ∃ h, t'.diary = t.diary ++ h ∧ Story perform own (part.get t) h (part.get t')
  broken _ t t' := ∃ h, t'.diary = t.diary ++ h ∧ Story perform own (part.get t) h (part.get t')
  refl _ := ⟨[], (List.append_nil _).symm, .refl⟩
  trans := by
    rintro t u v - - ⟨h, hd, hs⟩ ⟨h', hd', hs'⟩
    exact ⟨h ++ h', by rw [hd', hd, List.append_assoc], hs.trans hs'⟩
  after := by
    rintro - t u v - - ⟨h, hd, hs⟩ ⟨h', hd', hs'⟩
    exact ⟨h ++ h', by rw [hd', hd, List.append_assoc], hs.trans hs'⟩

theorem keeps_told_mono {own' : τ → τ → Prop} {x : Run (Trial τ ω μ) α}
    (hown : ∀ s s', own s s' → own' s s') (hx : Keeps (told perform own) x) :
    Keeps (told perform own') x := by
  refine fun t ↦ (hx t).mono (fun hi ↦ hi) (fun t' _ hi' hr ↦ ⟨hi', ?_⟩) fun e t' _ hr ↦ ?_
  all_goals
    obtain ⟨h, hdiary, hstory⟩ := hr
    exact ⟨h, hdiary, hstory.mono hown⟩

/-- A computation that puts nothing down and leaves the part as it is. -/
theorem keeps_of_same {x : Run (Trial τ ω μ) α} (hx : ∀ t, ∃ a t', x t = .ok a t' ∧
    part.get t' = part.get t ∧ t'.diary = t.diary) : Keeps (told perform own) x := by
  intro t _
  obtain ⟨a, t', hrun, hpart, hdiary⟩ := hx t
  rw [hrun]
  exact ⟨trivial, [], by rw [hdiary, List.append_nil], hpart ▸ .refl⟩

/-- What the core does to the part itself. -/
theorem keeps_own {f : τ → τ} (hf : ∀ s, own s (f s)) :
    Keeps (told perform own) (part.update f : Run (Trial τ ω μ) Unit) :=
  fun _ _ ↦ ⟨trivial, [], (List.append_nil _).symm, Story.refl.own (hf _)⟩

section Steady

variable (hsteady : ∀ op b, ∃ a b', perform op b = .ok a b')
include hsteady

/-- An operation is put down. -/
theorem keeps_serve (op : ω) :
    Keeps (told perform own) (serve perform op : Run (Trial τ ω μ) Answer) := by
  intro t _
  obtain ⟨a, b', hrun⟩ := hsteady op t.bench
  have hinside : benchPlace.inside (perform op) t = .ok a { t with bench := b' } :=
    Place.run_inside_ok hrun
  let d : Deal τ ω := ⟨t.bench.subject, op, a, b'.subject⟩
  have hserve : serve perform op t = .ok a { t with bench := b', diary := t.diary ++ [d] } := by
    rw [serve, run_read_bind, run_bind_ok hinside, run_read_bind]
    rfl
  rw [hserve]
  exact ⟨trivial, [d], rfl, Story.refl.deal (d := d) ⟨t.bench, b', rfl, hrun, rfl⟩⟩

/-- **Whatever callbacks do is told.** -/
theorem callee_keepsAll (script : Script ω μ) :
    (callee perform script).KeepsAll (told perform own) where
  call slot args t := by
    refine keepsAt_get_bind ?_
    have hserve (op : ω) (_ : True) :
        Keeps (told perform own) (serve perform op : Run (Trial τ ω μ) Answer) :=
      keeps_serve hsteady op
    have hplan :=
      (Plan.asks_of_forall (fun _ ↦ trivial) (script slot args t.memory)).keeps_run hserve
    refine (hplan t).bind fun r t₁ _ _ _ ↦ ?_
    obtain ⟨m, ending⟩ := r
    have hmemory : Keeps (told perform own)
        (modify fun t : Trial τ ω μ ↦ { t with memory := m }) :=
      keeps_of_same fun t ↦ ⟨(), _, rfl, rfl, rfl⟩
    refine (hmemory t₁).bind fun _ t₂ _ _ _ ↦ ?_
    cases ending with
    | done | failed => exact keepsAt_pure _ _ t₂
    | panicked | endless =>
      exact keepsAt_throw fun _ ↦ ⟨[], (List.append_nil _).symm, .refl⟩
  log line := keeps_of_same fun t ↦ ⟨(), _, rfl, rfl, rfl⟩

end Steady

theorem told_next {x : Run (Trial τ ω μ) α} (hx : Keeps (told perform own) x) (t : Trial τ ω μ) :
    (told perform own).rel t (next x t) := by
  rw [next]
  cases hr : x t with
  | ok a t' => exact ((hx t).ok trivial hr).2
  | error e t' => exact (hx t).error trivial hr

/-- By induction on what is done. -/
theorem told_run {act : ν → Run (Trial τ ω μ) α} (hact : ∀ m, Keeps (told perform own) (act m))
    (moves : List ν) (t : Trial τ ω μ) : (told perform own).rel t (run act moves t) := by
  induction moves generalizing t with
  | nil => exact (told perform own).refl t
  | cons m rest ih =>
    exact (told perform own).trans trivial trivial (told_next (hact m) t) (ih (next (act m) t))

/-- The diary of a run tells its story from the start. -/
theorem story_run {act : ν → Run (Trial τ ω μ) α} (hact : ∀ m, Keeps (told perform own) (act m))
    (moves : List ν) (s : τ) (m : μ) :
    Story perform own s (run act moves (start s m)).diary
      (part.get (run act moves (start s m))) := by
  obtain ⟨h, hdiary, hstory⟩ := told_run hact moves (start s m)
  rw [hdiary]
  exact hstory

end Trial

end ScriptWorkers
