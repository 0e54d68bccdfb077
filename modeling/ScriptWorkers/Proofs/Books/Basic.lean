import Mathlib.Data.List.Basic
import ScriptWorkers.Proofs.Timing.Pairs
import ScriptWorkers.Proofs.Upkeep.Host

/-!
# The books of a context

A context that goes over its desk is given a slot for every function that is to be called back.  The
slot is registered in one of three places: with the mailbox of its owner's messages, with the
mailbox of a worker that the context holds, or with an interval.  When the books are kept, the slots
on the desk are exactly those that are registered somewhere, each once.

* `Books.Kept hand free x` is what is kept.  In the middle of a request there may be slots in `hand`
  that are on the desk but not yet, or no longer, registered, and workers in `free` that have been
  let go of with their callbacks still registered.
* `Books.Untouched x` is a change that does not concern the books of `x`.
* `books` is the upkeep made of this.
-/

namespace ScriptWorkers

open World

variable {κ : Type}

/-! ## Desks and intervals -/

namespace Desk

variable {d : Desk} {s : Slot}

/-- There is a function behind exactly the slots that are in use. -/
theorem isSome_function?_iff : (d.function? s).isSome ↔ s ∈ d.slots := by
  rw [function?, slots]
  induction d.functions with
  | nil => simp
  | cons p rest ih =>
    obtain ⟨t, f⟩ := p
    rw [List.lookup_cons, List.map_cons, List.mem_cons]
    by_cases h : s = t
    · simp [h]
    · have hb : (s == t) = false := by simpa using h
      simpa only [hb, h, false_or] using ih

/-- A function that is kept gets the next slot. -/
theorem slots_retain {f : FunctionRef} (h : d.next ∉ d.slots) :
    (d.retain f).slots = d.next :: d.slots := by
  have hall : d.functions.filter (·.1 != d.next) = d.functions := by
    rw [List.filter_eq_self]
    intro p hp
    simp only [bne_iff_ne, ne_eq]
    rintro he
    exact h (List.mem_map.2 ⟨p, hp, he⟩)
  rw [slots, retain, hall]
  rfl

theorem slots_release (h : d.slots.Nodup) : (d.release s).slots = d.slots.erase s := by
  rw [h.erase_eq_filter, slots, slots, release, List.filter_map]
  rfl

end Desk

/-! ## What is counted -/

/-- The deed gives the context a slot. -/
def Deed.givesSlot (x : WorkerId) : Deed → Bool
  | .retained me _ => me == x
  | _ => false

/-- The deed gives the context the number of an interval. -/
def Deed.givesInterval (x : WorkerId) : Deed → Bool
  | .timed me _ => me == x
  | _ => false

namespace World

/-- How many slots the context has been given so far. -/
def slotsGiven (w : World κ) (x : WorkerId) : Nat := w.journal.toList.countP (·.givesSlot x)

/-- How many numbers of intervals the context has been given so far. -/
def intervalsGiven (w : World κ) (x : WorkerId) : Nat := w.journal.toList.countP (·.givesInterval x)

/-- The context has not run out of slots and numbers. -/
def InRange (w : World κ) (x : WorkerId) : Prop :=
  w.slotsGiven x < UInt32.size ∧ w.intervalsGiven x < UInt32.size

instance (w : World κ) (x : WorkerId) : Decidable (w.InRange x) :=
  inferInstanceAs (Decidable (_ ∧ _))

/-- The registered workers of a context that its scripts have created: the host has no handle of
them. -/
def scripted (w : World κ) (x : WorkerId) : List WorkerId := (w.scope x).kids.filter (· ∉ w.handles)

/-- The slots by which the context listens: to its owner, and to the workers that it holds. -/
def listening (w : World κ) (x : WorkerId) : List Slot :=
  (w.link x).inbox.callback.toList ++
    (w.scope x).desk.workers.filterMap fun c ↦ (w.link c).outbox.callback

variable {w w' : World κ} {x : WorkerId} {ds : List Deed}

/-- Slots are counted in the journal. -/
theorem slotsGiven_append (h : w'.journal.toList = w.journal.toList ++ ds) :
    w'.slotsGiven x = w.slotsGiven x + ds.countP (·.givesSlot x) := by
  rw [slotsGiven, h, List.countP_append, slotsGiven]

theorem intervalsGiven_append (h : w'.journal.toList = w.journal.toList ++ ds) :
    w'.intervalsGiven x = w.intervalsGiven x + ds.countP (·.givesInterval x) := by
  rw [intervalsGiven, h, List.countP_append, intervalsGiven]

/-- Who has not run out of slots had not run out of them before. -/
theorem InRange.back (h : w'.journal.toList = w.journal.toList ++ ds) (hr : w'.InRange x) :
    w.InRange x := by
  rw [InRange, slotsGiven_append h, intervalsGiven_append h] at hr
  exact ⟨Nat.lt_of_le_of_lt (Nat.le_add_right _ _) hr.1,
    Nat.lt_of_le_of_lt (Nat.le_add_right _ _) hr.2⟩

theorem given_of_unmentioned (h : Unmentioned x w w') :
    w'.slotsGiven x = w.slotsGiven x ∧ w'.intervalsGiven x = w.intervalsGiven x := by
  obtain ⟨ds, hd, hds⟩ := h
  rw [slotsGiven_append hd, intervalsGiven_append hd]
  constructor
  · rw [Nat.add_eq_left, List.countP_eq_zero]
    intro d hm hg
    cases d <;> simp [Deed.givesSlot] at hg
    exact hds _ hm hg
  · rw [Nat.add_eq_left, List.countP_eq_zero]
    intro d hm hg
    cases d <;> simp [Deed.givesInterval] at hg
    exact hds _ hm hg

end World

namespace Books

variable {w w' w'' : World κ} {id me x : WorkerId} {hand : List Slot} {free : List WorkerId}

/-! ## What is kept -/

/-- The slots on the desk are those that are in hand, those of the `listening` places, and those of
the intervals.  None is given out twice: `n` slots and `m` numbers of intervals have been given
out. -/
structure Exact (hand listening : List Slot) (d : Desk) (t : Timers) (n m : Nat) : Prop where
  slots : d.slots.Perm (hand ++ (listening ++ t.callbacks))
  nodup : d.slots.Nodup
  issued : ∀ s ∈ d.slots, s.toNat ≤ n
  distinct : (t.pairs.map (·.1)).Nodup
  started : ∀ p ∈ t.pairs, p.1.toNat ≤ m

/-- Of an interval the books know only its number and its slot. -/
theorem Exact.pairs {listening : List Slot} {d : Desk} {t t' : Timers} {n m : Nat}
    (h : Exact hand listening d t n m) (ht : t'.pairs = t.pairs) :
    Exact hand listening d t' n m where
  slots := by
    rw [Timers.callbacks_eq, ht, ← Timers.callbacks_eq]
    exact h.slots
  nodup := h.nodup
  issued := h.issued
  distinct := by
    rw [ht]
    exact h.distinct
  started := by
    rw [ht]
    exact h.started

/-- The books of the context `x` are kept. -/
structure Kept (hand : List Slot) (free : List WorkerId) (x : WorkerId) (w : World κ) : Prop where
  held : (w.scope x).desk.workers = w.scripted x
  unheld : ∀ c, w.owner? c = some x → c ∉ (w.scope x).desk.workers → c ∉ free →
    (w.link c).outbox.callback = none
  nextSlot : (w.scope x).desk.next = UInt32.ofNat (w.slotsGiven x + 1)
  nextInterval : (w.scope x).timers.next = UInt32.ofNat (w.intervalsGiven x + 1)
  exact : w.InRange x → Exact hand (w.listening x) (w.scope x).desk (w.scope x).timers
    (w.slotsGiven x) (w.intervalsGiven x)

/-- Nothing that the books of `x` are about has changed. -/
structure Untouched (x : WorkerId) (w w' : World κ) : Prop where
  awake : w'.Awake x → w.Awake x
  scripted : w'.scripted x = w.scripted x
  desk : (w'.scope x).desk = (w.scope x).desk
  next : (w'.scope x).timers.next = (w.scope x).timers.next
  pairs : (w'.scope x).timers.pairs = (w.scope x).timers.pairs
  inbox : (w'.link x).inbox.callback = (w.link x).inbox.callback
  owner : ∀ c, w'.owner? c = some x → w.owner? c = some x
  outbox : ∀ c, w'.owner? c = some x ∨ c ∈ (w.scope x).desk.workers →
    (w'.link c).outbox.callback = (w.link c).outbox.callback
  slots : w'.slotsGiven x = w.slotsGiven x
  intervals : w'.intervalsGiven x = w.intervalsGiven x

/-- An untouched context listens by the same slots. -/
theorem Untouched.listening (h : Untouched x w w') : w'.listening x = w.listening x := by
  rw [World.listening, World.listening, h.inbox, h.desk]
  exact congrArg _ (List.filterMap_congr fun c hc ↦ h.outbox c (.inr hc))

theorem Untouched.inRange (h : Untouched x w w') : w'.InRange x ↔ w.InRange x := by
  rw [InRange, InRange, h.slots, h.intervals]

/-- What does not concern the books leaves them kept. -/
theorem Kept.untouched (hk : Kept hand free x w) (h : Untouched x w w') : Kept hand free x w' where
  held := by rw [h.desk, h.scripted, hk.held]
  unheld c hc hn hf := by
    rw [h.outbox c (.inl hc)]
    exact hk.unheld c (h.owner c hc) (h.desk ▸ hn) hf
  nextSlot := by rw [h.desk, h.slots, hk.nextSlot]
  nextInterval := by rw [h.next, h.intervals, hk.nextInterval]
  exact hr := by
    have he := hk.exact (h.inRange.1 hr)
    rw [h.desk, h.listening, h.slots, h.intervals]
    exact he.pairs h.pairs

/-- What the journal says of callbacks that were invoked: there was always a function behind
them. -/
structure Sound (w : World κ) : Prop where
  known : ∀ d ∈ w.journal.toList, d.about = 0 ∨ (w.worker? d.about).isSome
  called : ∀ x cause slot f args, Deed.called x cause slot f args ∈ w.journal.toList →
    w.InRange x → f.isSome

/-- The journal may be extended by calls that have a function behind them. -/
theorem Sound.extend {ds : List Deed} (h : Sound w)
    (hj : w'.journal.toList = w.journal.toList ++ ds)
    (hw : ∀ c, (w.worker? c).isSome → (w'.worker? c).isSome)
    (hknown : ∀ d ∈ ds, d.about = 0 ∨ (w'.worker? d.about).isSome)
    (hcalled : ∀ x cause slot f args, Deed.called x cause slot f args ∈ ds →
      w'.InRange x → f.isSome) : Sound w' where
  known d hm := by
    rw [hj, List.mem_append] at hm
    rcases hm with hm | hm
    · exact (h.known d hm).imp_right (hw _)
    · exact hknown d hm
  called x cause slot f args hm hr := by
    rw [hj, List.mem_append] at hm
    rcases hm with hm | hm
    · exact h.called x cause slot f args hm (hr.back hj)
    · exact hcalled x cause slot f args hm hr

theorem Sound.of_eq (h : Sound w) (hj : w'.journal = w.journal)
    (ho : ∀ x, w'.owner? x = w.owner? x) : Sound w' := by
  have hj' : w'.journal.toList = w.journal.toList ++ [] := by simp [hj]
  refine h.extend hj' (fun c hc ↦ ?_) (by simp) (by simp)
  have hmap (w : World κ) : (w.worker? c).isSome = (w.owner? c).isSome := by
    rw [owner?, Option.isSome_map]
  rwa [hmap, ho, ← hmap]

/-- Intervals that a context has after it was in control are those that it had, or new ones. -/
def Own (me : WorkerId) (w w' : World κ) : Prop :=
  w.intervalsGiven me ≤ w'.intervalsGiven me ∧ (w'.intervalsGiven me < UInt32.size →
    ∀ p ∈ (w'.scope me).timers.pairs,
      p ∈ (w.scope me).timers.pairs ∨ w.intervalsGiven me < p.1.toNat)

theorem Own.refl (me : WorkerId) (w : World κ) : Own me w w :=
  ⟨Nat.le_refl _, fun _ _ hp ↦ .inl hp⟩

theorem Own.trans (h : Own me w w') (h' : Own me w' w'') : Own me w w'' := by
  refine ⟨Nat.le_trans h.1 h'.1, fun hr p hp ↦ ?_⟩
  rcases h'.2 hr p hp with hp | hp
  · exact h.2 (Nat.lt_of_le_of_lt h'.1 hr) p hp
  · exact .inr (Nat.lt_of_le_of_lt h.1 hp)

theorem Untouched.own (h : Untouched x w w') : Own x w w' := by
  refine ⟨Nat.le_of_eq h.intervals.symm, fun _ p hp ↦ .inl ?_⟩
  rwa [h.pairs] at hp

/-! ## Changes that do not concern the books -/

/-- Changes that do not matter leave all books untouched. -/
theorem untouched_of_alike (h : Alike w w') : Untouched x w w' where
  awake := h.awake x
  scripted := by rw [scripted, scripted, h.kids, h.handles]
  desk := h.desk x
  next := by rw [h.timers]
  pairs := by rw [h.timers]
  inbox := h.callback x .inbox
  owner c hc := by rwa [h.owner?] at hc
  outbox c _ := h.callback c .outbox
  slots := by rw [slotsGiven, slotsGiven, h.journal]
  intervals := by rw [intervalsGiven, intervalsGiven, h.journal]

/-- Changes of a scope leave the books of others untouched. -/
theorem untouched_of_besides (h : Besides me w w') (hx : x ≠ me) : Untouched x w w' where
  awake := (h.awake x hx).1
  scripted := by rw [scripted, scripted, h.scope x hx, h.handles]
  desk := by rw [h.scope x hx]
  next := by rw [h.scope x hx]
  pairs := by rw [h.scope x hx]
  inbox := by rw [h.link]
  owner c hc := by rwa [h.owner?] at hc
  outbox c _ := by rw [h.link]
  slots := by rw [slotsGiven, slotsGiven, h.journal]
  intervals := by rw [intervalsGiven, intervalsGiven, h.journal]

theorem worker?_of_apart (h : Apart id x w w') (hx : x ≠ 0) : w'.worker? x = w.worker? x := by
  obtain ⟨k, hk⟩ := Option.isSome_iff_exists.1 (h.known.resolve_left hx)
  rw [h.frame.apart x k hk h.apart, hk]

/-- Nobody is given workers while others act. -/
theorem owner?_of_apart {c : WorkerId} (h : Apart id x w w') (hc : w'.owner? c = some x) :
    w.owner? c = some x := by
  cases hk : w.worker? c with
  | some k => exact h.frame.owner?_back (by rw [hk]; rfl) hc
  | none =>
    -- whoever is new is under `id`, and so is the one that has spawned it
    have hne : c ≠ id := by
      rintro rfl
      have := h.worker
      simp [hk] at this
    have hc' := worker?_isSome_of_owner? hc
    exact absurd ((h.frame.fresh c hk hc').owner_under hne hc) h.not_under

/-- What is done on behalf of others leaves the books untouched. -/
theorem untouched_of_apart (h : Apart id x w w') : Untouched x w w' := by
  have hid : id ≠ 0 := by
    rintro rfl
    have := h.worker
    simp at this
  have hscope : w'.scope x = w.scope x := by
    by_cases hx : x = 0
    · exact hx ▸ scope_zero_congr (h.frame.root hid)
    · exact scope_congr hx (worker?_of_apart h hx)
  obtain ⟨hslots, hintervals⟩ := given_of_unmentioned h.unmentioned
  refine ⟨fun ha ↦ ?_, by rw [scripted, scripted, hscope, h.frame.handles], by rw [hscope],
    by rw [hscope], by rw [hscope], ?_, fun c ↦ owner?_of_apart h, fun c hc ↦ ?_, hslots,
    hintervals⟩
  · rw [Awake] at ha ⊢
    split
    · rwa [if_pos (by assumption), h.frame.rooted] at ha
    · rename_i hx
      rwa [if_neg hx, worker?_of_apart h hx] at ha
  · by_cases hx : x = 0
    · subst hx
      rfl
    · rw [link_congr (worker?_of_apart h hx)]
  · have ho : w.owner? c = some x := hc.elim (owner?_of_apart h) ((h.shape.fits x).held c)
    by_cases hu : w.Under id c
    · by_cases hne : c = id
      · subst hne
        exact h.frame.mine
      · exact absurd (hu.owner_under hne ho) h.apart
    · obtain ⟨k, hk, -⟩ := owner?_eq_some_iff.1 ho
      rw [link_of_worker? hk, link_of_worker? (h.frame.apart c k hk hu)]

/-- The upkeep of the books. -/
def books : Upkeep κ where
  sound := Sound
  busy x w := w.Awake x → Kept [] [] x w
  rest x w := w.Awake x → Kept [] [] x w
  own := Own
  panics := True
  own_refl := Own.refl
  own_trans := Own.trans
  busy_of_rest h := h
  rest_of_own _ h _ := h
  ended _ _ hn ha := absurd ha hn
  alike_sound h hs := hs.of_eq h.journal h.owner?
  alike_busy h hk ha := (hk (h.awake _ ha)).untouched (untouched_of_alike h)
  alike_rest h hk ha := (hk (h.awake _ ha)).untouched (untouched_of_alike h)
  alike_own h := (untouched_of_alike h).own
  besides_sound h hs := hs.of_eq h.journal h.owner?
  besides_rest h hx hk ha := (hk ((h.awake _ hx).1 ha)).untouched (untouched_of_besides h hx)
  apart_busy h hk ha := (hk ((untouched_of_apart h).awake ha)).untouched (untouched_of_apart h)
  apart_rest h hk ha := (hk ((untouched_of_apart h).awake ha)).untouched (untouched_of_apart h)
  apart_own h := (untouched_of_apart h).own

end Books

end ScriptWorkers
