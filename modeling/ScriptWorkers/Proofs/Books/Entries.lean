import ScriptWorkers.Proofs.Books.Basic

/-!
# Entries in the books

What a context asks for is made of a few steps, each of which makes an entry in its books: a slot is
taken from the desk, handed to a place, taken back from it, returned to the desk.
`Books.Working hand free me` says how things stand between two of them, and there is a lemma for
every kind of step that says what is in hand afterwards.

## What is here

* `Exact.move`, `Exact.retain`, `Exact.forget`, `Exact.add`, `Exact.remove`: how slots change hands,
  as a matter of lists.
* The same for worlds: `Working.retain` and `Working.forget` for the desk, `Working.addTimer` and
  `Working.removeTimer` for intervals, `Working.exchange` for the places that listen.
* `untouched_setLink`, `untouched_setScope`, `untouched_noted`: steps that the books do not show.
-/

namespace ScriptWorkers

open World

variable {κ : Type}

namespace World

variable {w : World κ} {id x : WorkerId}

theorem view_link_setLink {β : Type} (F : Link → β) {l : Link} (h : x = id → F l = F (w.link id)) :
    F ((w.setLink id l).link x) = F (w.link x) := by
  by_cases hx : x = id
  · subst hx
    cases hk : w.worker? x with
    | some k => rw [link_setLink_self hk, h rfl]
    | none => rw [setLink, updateWorker_eq_self hk]
  · rw [link_setLink_ne hx]

theorem scripted_setLink {l : Link} : (w.setLink id l).scripted x = w.scripted x := by
  rw [scripted, scripted, scope_setLink, setLink, handles_updateWorker]

end World

namespace Books

variable {w w' : World κ} {c id me x : WorkerId} {hand : List Slot} {free : List WorkerId}

/-- The context `me` is at work on its books. -/
structure Working (hand : List Slot) (free : List WorkerId) (me : WorkerId) (w : World κ) :
    Prop where
  order : (Order.quiet me).inv w
  others : books.Others me w
  kept : Kept hand free me w

/-- At the beginning of a request nothing is in hand. -/
theorem working_of_quiet (h : (books.quiet me).inv w) : Working [] [] me w :=
  ⟨h.1, h.2.1, h.2.2 h.1.2⟩

/-! ## Changes that the books do not show -/

theorem untouched_noted {d : Deed} (hs : d.givesSlot x = false) (hi : d.givesInterval x = false) :
    Untouched x w (w.noted d) := by
  have hsame := same_noted w d
  refine ⟨hsame.awake.1, by rw [scripted, scripted, hsame.scope, hsame.handles],
    by rw [hsame.scope],
    by rw [hsame.scope], by rw [hsame.scope], by rw [link_congr hsame.worker?], fun c hc ↦ ?_,
    fun c _ ↦ ?_, ?_, ?_⟩
  · rwa [owner?_congr hsame.worker?] at hc
  · rw [link_congr hsame.worker?]
  · rw [slotsGiven_append (journal_noted w d)]
    simp [hs]
  · rw [intervalsGiven_append (journal_noted w d)]
    simp [hi]

/-- A link may change, except for the callbacks that the books are about. -/
theorem untouched_setLink {l : Link} (hin : x = id → l.inbox.callback = (w.link id).inbox.callback)
    (hout : w.owner? id = some x ∨ id ∈ (w.scope x).desk.workers →
      l.outbox.callback = (w.link id).outbox.callback) : Untouched x w (w.setLink id l) := by
  refine ⟨awake_setLink.1, scripted_setLink, by rw [scope_setLink], by rw [scope_setLink],
    by rw [scope_setLink], view_link_setLink (·.inbox.callback) hin, fun c hc ↦ ?_,
    fun c hc ↦ view_link_setLink (·.outbox.callback) ?_, ?_, ?_⟩
  · rwa [owner?_setLink] at hc
  · rintro rfl
    rw [owner?_setLink] at hc
    exact hout hc
  · rw [slotsGiven, slotsGiven, setLink, journal_updateWorker]
  · rw [intervalsGiven, intervalsGiven, setLink, journal_updateWorker]

/-- A scope may change, except for its desk, its intervals and its register. -/
theorem untouched_setScope {s : Scope κ} (ha : w.Awake me)
    (hscripted : s.kids.filter (· ∉ w.handles) = w.scripted me)
    (hdesk : s.desk = (w.scope me).desk) (hnext : s.timers.next = (w.scope me).timers.next)
    (hpairs : s.timers.pairs = (w.scope me).timers.pairs) : Untouched me w (w.setScope me s) := by
  have hscope : (w.setScope me s).scope me = s := scope_setScope_self ha.hasScope
  refine ⟨awake_setScope.1, ?_, by rw [hscope, hdesk], by rw [hscope, hnext],
    by rw [hscope, hpairs],
    by rw [link_setScope], fun c hc ↦ ?_, fun c _ ↦ by rw [link_setScope], ?_, ?_⟩
  · rw [scripted, hscope, handles_setScope, hscripted]
  · rwa [owner?_setScope] at hc
  · rw [slotsGiven, slotsGiven, journal_setScope]
  · rw [intervalsGiven, intervalsGiven, journal_setScope]

theorem untouched_box {side : Side} {f : Mailbox → Mailbox}
    (hf : ∀ b, (f b).callback = b.callback) : Untouched x w ((boxPlace id side).modify f w) := by
  rw [boxPlace_modify]
  cases side with
  | inbox => exact untouched_setLink (fun _ ↦ hf _) fun _ ↦ rfl
  | outbox => exact untouched_setLink (fun _ ↦ rfl) fun _ ↦ hf _

theorem Untouched.trans {w'' : World κ} (h : Untouched x w w') (h' : Untouched x w' w'') :
    Untouched x w w'' where
  awake ha := h.awake (h'.awake ha)
  scripted := h'.scripted.trans h.scripted
  desk := h'.desk.trans h.desk
  next := h'.next.trans h.next
  pairs := h'.pairs.trans h.pairs
  inbox := h'.inbox.trans h.inbox
  owner c hc := h.owner c (h'.owner c hc)
  outbox c hc := by
    rw [h'.outbox c (hc.imp_right (h.desk ▸ ·))]
    exact h.outbox c (hc.imp_left (h'.owner c))
  slots := h'.slots.trans h.slots
  intervals := h'.intervals.trans h.intervals

theorem Sound.noted {d : Deed} (h : Sound w) (hknown : d.about = 0 ∨ (w.worker? d.about).isSome)
    (hcalled : ∀ x cause slot f args, d = .called x cause slot f args → w.InRange x → f.isSome) :
    Sound (w.noted d) := by
  have hsame := same_noted w d
  refine h.extend (journal_noted w d) (fun c hc ↦ by rwa [hsame.worker?]) ?_ ?_
  · intro d' hd'
    rw [List.mem_singleton.1 hd', hsame.worker?]
    exact hknown
  · intro x cause slot f args hm hr
    exact hcalled x cause slot f args (List.mem_singleton.1 hm).symm (hr.back (journal_noted w d))

/-- If the books of the others are untouched, they stay at rest. -/
theorem others_of_untouched (h : books.Others me w) (hs : Sound w')
    (howner : ∀ c, w'.owner? c = w.owner? c) (hu : ∀ x, x ≠ me → Untouched x w w') :
    books.Others me w' := by
  refine ⟨hs, fun x hx hne ha ↦ ?_⟩
  have hx' : w.Under me x := by simpa only [Under, howner] using hx
  exact (h.2 x hx' hne ((hu x hne).awake ha)).untouched (hu x hne)

theorem others_noted {d : Deed} (h : books.Others me w) (ha : w.Awake me) (hd : d.about = me)
    (hcalled : ∀ x cause slot f args, d = .called x cause slot f args → w.InRange x → f.isSome) :
    books.Others me (w.noted d) := by
  refine others_of_untouched h (h.1.noted (hd ▸ ha.known) hcalled)
    (fun c ↦ owner?_congr (same_noted w d).worker?) fun x hx ↦ untouched_noted ?_ ?_
  · cases d <;> simp_all [Deed.about, Deed.givesSlot, Ne.symm hx]
  · cases d <;> simp_all [Deed.about, Deed.givesInterval, Ne.symm hx]

/-! ## Slots change hands -/

section Exact

variable {l : List Slot} {d : Desk} {t : Timers} {n m : Nat} {s : Slot}

/-- Below the bound a counter does not wrap around. -/
theorem toNat_next {n : Nat} (h : n + 1 < UInt32.size) : (UInt32.ofNat (n + 1)).toNat = n + 1 := by
  rw [UInt32.toNat_ofNat', Nat.mod_eq_of_lt h]

/-- Slots go from hand to a listening place, or back. -/
theorem Exact.move {hand' l' : List Slot} (h : Exact hand l d t n m)
    (hp : (hand ++ l).Perm (hand' ++ l')) : Exact hand' l' d t n m := by
  refine { h with slots := h.slots.trans ?_ }
  rw [← List.append_assoc, ← List.append_assoc]
  exact hp.append_right _

/-- A new slot is in hand, and nowhere else. -/
theorem Exact.retain {f : FunctionRef} (h : Exact hand l d t n m) (hn : n + 1 < UInt32.size)
    (hnext : d.next = UInt32.ofNat (n + 1)) :
    Exact (d.next :: hand) l (d.retain f) t (n + 1) m := by
  have hnat : d.next.toNat = n + 1 := by rw [hnext, toNat_next hn]
  have hfresh : d.next ∉ d.slots := by
    intro hm
    have := h.issued _ hm
    omega
  have hslots := Desk.slots_retain (f := f) hfresh
  refine { h with slots := ?_, nodup := ?_, issued := ?_ }
  · rw [hslots]
    exact h.slots.cons _
  · rw [hslots]
    exact List.nodup_cons.2 ⟨hfresh, h.nodup⟩
  · intro s hs
    rw [hslots, List.mem_cons] at hs
    rcases hs with rfl | hs
    · exact Nat.le_of_eq hnat
    · exact Nat.le_succ_of_le (h.issued s hs)

/-- What is returned to the desk is in hand no more. -/
theorem Exact.forget {old : Option Slot} (h : Exact (old.toList ++ hand) l d t n m) :
    Exact hand l (d.forget old) t n m := by
  cases old with
  | none => exact h
  | some s =>
    have hslots : (d.forget (some s)).slots = d.slots.erase s := Desk.slots_release h.nodup
    refine { h with slots := ?_, nodup := ?_, issued := ?_ }
    · have hperm := h.slots.erase s
      rwa [Option.toList_some, List.singleton_append, List.cons_append, List.erase_cons_head,
        ← hslots] at hperm
    · rw [hslots]
      exact h.nodup.erase s
    · intro s' hs'
      rw [hslots] at hs'
      exact h.issued s' (List.mem_of_mem_erase hs')

/-- A new interval takes the slot from hand. -/
theorem Exact.add {now : Float} {p : Option Float} (h : Exact (s :: hand) l d t n m)
    (hm : m + 1 < UInt32.size) (hnext : t.next = UInt32.ofNat (m + 1)) :
    Exact hand l d (t.add now s p) n (m + 1) := by
  have hnat : t.next.toNat = m + 1 := by rw [hnext, toNat_next hm]
  have hfresh : ∀ q ∈ t.pairs, q.1 ≠ t.next := by
    intro q hq he
    have := h.started q hq
    rw [he] at this
    omega
  have hpairs : (t.add now s p).pairs.Perm ((t.next, s) :: t.pairs) := Timers.perm_add hfresh
  refine { h with slots := h.slots.trans ?_, distinct := ?_, started := ?_ }
  · have hcallbacks : (t.add now s p).callbacks.Perm (s :: t.callbacks) := by
      rw [Timers.callbacks_eq, Timers.callbacks_eq]
      exact hpairs.map _
    refine (List.perm_append_comm_assoc [s] hand _).trans (List.Perm.append_left hand ?_)
    exact (List.perm_append_comm_assoc [s] l _).trans (hcallbacks.symm.append_left l)
  · refine ((hpairs.map (·.1)).nodup_iff).2 (List.nodup_cons.2 ⟨fun hq ↦ ?_, h.distinct⟩)
    obtain ⟨q, hq, he⟩ := List.mem_map.1 hq
    exact hfresh q hq he
  · intro q hq
    rcases List.mem_cons.1 (hpairs.mem_iff.1 hq) with rfl | hq
    · exact Nat.le_of_eq hnat
    · exact Nat.le_succ_of_le (h.started q hq)

/-- An interval that is removed puts its slot in hand. -/
theorem Exact.remove {i : UInt32} (h : Exact hand l d t n m) :
    Exact (((t.find? i).map (·.callback)).toList ++ hand) l d (t.remove i) n m := by
  refine { h with slots := h.slots.trans ?_, distinct := ?_, started := fun q hq ↦ ?_ }
  · rw [List.append_assoc]
    refine List.Perm.trans ?_ (List.perm_append_comm_assoc hand _ _)
    refine List.Perm.append_left hand (List.Perm.trans ?_ (List.perm_append_comm_assoc l _ _))
    exact (Timers.perm_remove h.distinct).append_left l
  · rw [Timers.pairs_remove]
    exact h.distinct.sublist (List.filter_sublist.map _)
  · rw [Timers.pairs_remove] at hq
    exact h.started q (List.mem_of_mem_filter hq)

end Exact

/-! ## Slots from and to the desk -/

/-- The desk and the intervals of a context change, perhaps after something has been put down. -/
theorem Kept.filed {w₁ : World κ} {s : Scope κ} {hand' : List Slot} (h : Kept hand free me w)
    (ha : w.Awake me) (hw : Same w w₁) (hkids : s.kids = (w.scope me).kids)
    (hworkers : s.desk.workers = (w.scope me).desk.workers)
    (hslot : s.desk.next = UInt32.ofNat (w₁.slotsGiven me + 1))
    (hinterval : s.timers.next = UInt32.ofNat (w₁.intervalsGiven me + 1))
    (hexact : w₁.InRange me → Exact hand' (w.listening me) s.desk s.timers (w₁.slotsGiven me)
      (w₁.intervalsGiven me)) : Kept hand' free me (w₁.setScope me s) := by
  have hscope : (w₁.setScope me s).scope me = s := scope_setScope_self (hw.awake.2 ha).hasScope
  have hlink (c : WorkerId) : (w₁.setScope me s).link c = w.link c := by
    rw [link_setScope, link_congr hw.worker?]
  have hslots : (w₁.setScope me s).slotsGiven me = w₁.slotsGiven me := by
    rw [slotsGiven, journal_setScope, slotsGiven]
  have hintervals : (w₁.setScope me s).intervalsGiven me = w₁.intervalsGiven me := by
    rw [intervalsGiven, journal_setScope, intervalsGiven]
  refine ⟨?_, fun c hc hn hf ↦ ?_, ?_, ?_, fun hr ↦ ?_⟩
  · rw [hscope, hworkers, h.held, scripted, scripted, hscope, hkids, handles_setScope, hw.handles]
  · rw [owner?_setScope, owner?_congr hw.worker?] at hc
    rw [hscope, hworkers] at hn
    rw [hlink]
    exact h.unheld c hc hn hf
  · rw [hscope, hslots, hslot]
  · rw [hscope, hintervals, hinterval]
  · rw [InRange, hslots, hintervals] at hr
    have hlistening : (w₁.setScope me s).listening me = w.listening me := by
      rw [World.listening, World.listening, hscope, hworkers]
      simp only [hlink]
    rw [hlistening, hscope, hslots, hintervals]
    exact hexact hr

theorem Working.filed {w₁ : World κ} {s : Scope κ} {hand' : List Slot} (h : Working hand free me w)
    (hw : Same w w₁) (hothers : books.Others me w₁)
    (horder : (Order.quiet me).inv (w₁.setScope me s))
    (hkept : Kept hand' free me (w₁.setScope me s))
    (hle : w.intervalsGiven me ≤ w₁.intervalsGiven me)
    (hpairs : w₁.intervalsGiven me < UInt32.size → ∀ p ∈ s.timers.pairs,
      p ∈ (w.scope me).timers.pairs ∨ w.intervalsGiven me < p.1.toNat) :
    Working hand' free me (w₁.setScope me s) ∧ Own me w (w₁.setScope me s) := by
  refine ⟨⟨horder, hothers.besides (besides_setScope s), hkept⟩, ?_, fun hr p hp ↦ ?_⟩
  · rwa [intervalsGiven, intervalsGiven, journal_setScope]
  · rw [intervalsGiven, journal_setScope] at hr
    rw [scope_setScope_self (hw.awake.2 h.order.2).hasScope] at hp
    exact hpairs hr p hp

/-- Keeping a function takes one step. -/
theorem run_retain (w : World κ) (me : WorkerId) (f : FunctionRef) :
    retain me f w = .ok (w.scope me).desk.next
      ((w.noted (.retained me (w.scope me).desk.next)).setScope me
        { w.scope me with desk := (w.scope me).desk.retain f }) := by
  show EStateM.Result.ok _ ((deskPlace me).modify (·.retain f) (w.noted _)) = _
  rw [deskPlace_modify, (same_noted w _).scope]
  rfl

/-- After a function has been kept its slot is in hand. -/
theorem Working.retain {f : FunctionRef} {s : Slot} (h : Working hand free me w)
    (hx : World.retain me f w = .ok s w') : Working (s :: hand) free me w' ∧ Own me w w' := by
  have horder := ((Order.keeps_retain f w).ok h.order hx).1
  rw [run_retain] at hx
  cases hx
  have hj := journal_noted w (.retained me (w.scope me).desk.next)
  have hslots : (w.noted (.retained me (w.scope me).desk.next)).slotsGiven me =
      w.slotsGiven me + 1 := by
    rw [slotsGiven_append hj]
    simp [Deed.givesSlot]
  have hintervals : (w.noted (.retained me (w.scope me).desk.next)).intervalsGiven me =
      w.intervalsGiven me := by
    rw [intervalsGiven_append hj]
    simp [Deed.givesInterval]
  refine h.filed (same_noted w _) (others_noted h.others h.order.2 rfl (by simp)) horder ?_
    (Nat.le_of_eq hintervals.symm) fun _ p hp ↦ .inl hp
  refine h.kept.filed h.order.2 (same_noted w _) rfl rfl ?_ ?_ fun hr ↦ ?_
  · rw [hslots, UInt32.ofNat_add, ← h.kept.nextSlot]
    rfl
  · rw [hintervals]
    exact h.kept.nextInterval
  · have he := h.kept.exact (hr.back hj)
    rw [hslots, hintervals]
    exact he.retain (hslots ▸ hr.1) h.kept.nextSlot

theorem Working.forget {old : Option Slot} {u : Unit} (h : Working (old.toList ++ hand) free me w)
    (hx : (deskPlace me).update (·.forget old) w = .ok u w') :
    Working hand free me w' ∧ Own me w w' := by
  have horder := ((Order.keeps_forget old w).ok h.order hx).1
  cases hx
  rw [deskPlace_modify] at horder ⊢
  have hnext : ((w.scope me).desk.forget old).next = (w.scope me).desk.next := by cases old <;> rfl
  have hworkers : ((w.scope me).desk.forget old).workers = (w.scope me).desk.workers := by
    cases old <;> rfl
  refine h.filed ⟨rfl, rfl, rfl⟩ h.others horder ?_ (Nat.le_refl _) fun _ p hp ↦ .inl hp
  refine h.kept.filed h.order.2 ⟨rfl, rfl, rfl⟩ rfl hworkers ?_ h.kept.nextInterval fun hr ↦ ?_
  · exact hnext.trans h.kept.nextSlot
  · exact (h.kept.exact hr).forget

/-! ## Intervals -/

theorem run_addTimer (w : World κ) (me : WorkerId) (s : Slot) (p : Option Float) :
    addTimer me s p w = .ok (w.scope me).timers.next
      ((w.noted (.timed me (w.scope me).timers.next)).setScope me
        { w.scope me with timers := (w.scope me).timers.add w.clock.now s p }) := by
  show EStateM.Result.ok _ ((timersPlace me).modify (·.add w.clock.now s p) (w.noted _)) = _
  rw [timersPlace_modify, (same_noted w _).scope]
  rfl

/-- An interval is started with the slot in hand. -/
theorem Working.addTimer {s : Slot} {p : Option Float} {i : UInt32}
    (h : Working (s :: hand) free me w) (hx : World.addTimer me s p w = .ok i w') :
    Working hand free me w' ∧ Own me w w' := by
  have horder := ((Order.keeps_addTimer s p w).ok h.order hx).1
  rw [run_addTimer] at hx
  cases hx
  have hj := journal_noted w (.timed me (w.scope me).timers.next)
  have hslots : (w.noted (.timed me (w.scope me).timers.next)).slotsGiven me = w.slotsGiven me := by
    rw [slotsGiven_append hj]
    simp [Deed.givesSlot]
  have hintervals : (w.noted (.timed me (w.scope me).timers.next)).intervalsGiven me =
      w.intervalsGiven me + 1 := by
    rw [intervalsGiven_append hj]
    simp [Deed.givesInterval]
  refine h.filed (same_noted w _) (others_noted h.others h.order.2 rfl (by simp)) horder ?_
    (hintervals ▸ Nat.le_succ _) fun hr q hq ↦ ?_
  · refine h.kept.filed h.order.2 (same_noted w _) rfl rfl ?_ ?_ fun hr ↦ ?_
    · rw [hslots]
      exact h.kept.nextSlot
    · rw [hintervals, UInt32.ofNat_add, ← h.kept.nextInterval]
      rfl
    · have he := h.kept.exact (hr.back hj)
      rw [hslots, hintervals]
      exact he.add (hintervals ▸ hr.2) h.kept.nextInterval
  · rcases Timers.mem_pairs_add hq with rfl | hq
    · -- the new one has a number that was not given out before
      refine .inr ?_
      rw [hintervals] at hr
      rw [h.kept.nextInterval, toNat_next hr]
      exact Nat.lt_succ_self _
    · exact .inl hq

/-- The slot of an interval that is stopped is in hand. -/
theorem Working.removeTimer {i : UInt32} {old : Option Slot} (h : Working hand free me w)
    (hx : World.removeTimer me i w = .ok old w') :
    Working (old.toList ++ hand) free me w' ∧ Own me w w' := by
  have horder := ((Order.keeps_removeTimer i w).ok h.order hx).1
  cases hx
  rw [timersPlace_modify] at horder ⊢
  refine h.filed ⟨rfl, rfl, rfl⟩ h.others horder ?_ (Nat.le_refl _) fun _ q hq ↦ .inl ?_
  · refine h.kept.filed h.order.2 ⟨rfl, rfl, rfl⟩ rfl rfl h.kept.nextSlot h.kept.nextInterval ?_
    exact fun hr ↦ (h.kept.exact hr).remove
  · rw [Timers.pairs_remove] at hq
    exact List.mem_of_mem_filter hq

/-! ## Places that slots are registered at -/

/-- If one place is given another slot, the two slots change places. -/
theorem filterMap_change {α β : Type} {f g : α → Option β} {a : α} : ∀ {l : List α}, l.Nodup →
    a ∈ l → (∀ b ∈ l, b ≠ a → g b = f b) →
    ((g a).toList ++ l.filterMap f).Perm ((f a).toList ++ l.filterMap g)
  | [], _, ha, _ => by cases ha
  | b :: rest, hn, ha, h => by
    rw [List.nodup_cons] at hn
    rw [← List.singleton_append, List.filterMap_append, List.filterMap_append]
    have hsingle (k : α → Option β) (c : α) : [c].filterMap k = (k c).toList := by
      cases hc : k c <;> simp [hc]
    rw [hsingle, hsingle]
    by_cases hb : b = a
    · subst hb
      have hrest : rest.filterMap g = rest.filterMap f :=
        List.filterMap_congr fun c hc ↦ h c (by simp [hc]) (by rintro rfl; exact hn.1 hc)
      rw [hrest]
      exact List.perm_append_comm_assoc _ _ _
    · have ha' := (List.mem_cons.1 ha).resolve_left (Ne.symm hb)
      have ih := filterMap_change hn.2 ha' fun c hc ↦ h c (by simp [hc])
      rw [h b (by simp) hb]
      refine (List.perm_append_comm_assoc _ _ _).trans (List.Perm.trans (ih.append_left _) ?_)
      exact List.perm_append_comm_assoc _ _ _

/-- The books after a link has changed: what listens now and what is in hand balance. -/
theorem Kept.relinked {l : Link} {hand' : List Slot} {free' : List WorkerId}
    (h : Kept hand free me w)
    (hlistening : (hand ++ w.listening me).Perm (hand' ++ (w.setLink id l).listening me))
    (hunheld : ∀ c, w.owner? c = some me → c ∉ (w.scope me).desk.workers → c ∉ free' →
      ((w.setLink id l).link c).outbox.callback = none) : Kept hand' free' me (w.setLink id l) := by
  have hslots : (w.setLink id l).slotsGiven me = w.slotsGiven me := by
    rw [slotsGiven, slotsGiven, setLink, journal_updateWorker]
  have hintervals : (w.setLink id l).intervalsGiven me = w.intervalsGiven me := by
    rw [intervalsGiven, intervalsGiven, setLink, journal_updateWorker]
  refine ⟨?_, fun c hc hn hf ↦ ?_, ?_, ?_, fun hr ↦ ?_⟩
  · rw [scope_setLink, h.held, scripted_setLink]
  · rw [owner?_setLink] at hc
    rw [scope_setLink] at hn
    exact hunheld c hc hn hf
  · rw [scope_setLink, hslots, h.nextSlot]
  · rw [scope_setLink, hintervals, h.nextInterval]
  · rw [InRange, hslots, hintervals] at hr
    rw [scope_setLink, hslots, hintervals]
    exact (h.exact hr).move hlistening

theorem Working.relinked {l : Link} {hand' : List Slot} {free' : List WorkerId}
    (h : Working hand free me w) (horder : (Order.quiet me).inv (w.setLink id l))
    (hid : id = me ∧ l.outbox.callback = (w.link id).outbox.callback ∨
      w.owner? id = some me ∧ l.inbox.callback = (w.link id).inbox.callback)
    (hkept : Kept hand' free' me (w.setLink id l)) :
    Working hand' free' me (w.setLink id l) ∧ Own me w (w.setLink id l) := by
  have hj : (w.setLink id l).journal = w.journal := journal_updateWorker _
  refine ⟨⟨horder, ?_, hkept⟩, ?_, fun _ p hp ↦ .inl ?_⟩
  · refine others_of_untouched h.others (h.others.1.of_eq hj fun _ ↦ owner?_setLink l)
      (fun _ ↦ owner?_setLink l) fun x hx ↦ untouched_setLink (fun he ↦ ?_) fun ho ↦ ?_
    · rcases hid with ⟨he', -⟩ | ⟨-, hin⟩
      · exact absurd (he.trans he') hx
      · exact hin
    · rcases hid with ⟨-, hout⟩ | ⟨ho', -⟩
      · exact hout
      · have hox := ho.elim (fun h ↦ h) ((h.order.1.fits x).held id)
        rw [ho', Option.some_inj] at hox
        exact absurd hox.symm hx
  · simp only [intervalsGiven, hj, Nat.le_refl]
  · rwa [scope_setLink] at hp

/-- The slot by which a worker listens to its owner is exchanged for another one. -/
theorem Working.exchange_inbox {cb old : Option Slot} (h : Working (cb.toList ++ hand) free me w)
    (hme : me ≠ 0) (hx : World.exchange (boxPlace me .inbox) cb w = .ok old w') :
    Working (old.toList ++ hand) free me w' ∧ Own me w w' := by
  have horder := ((Order.keeps_exchange_inbox cb w).ok h.order hx).1
  cases hx
  rw [boxPlace_modify] at horder ⊢
  obtain ⟨k, hk⟩ := Option.isSome_iff_exists.1 (h.order.2.known.resolve_left hme)
  have hlink := link_setLink_self (l := (w.link me).setBox .inbox
    (((w.link me).box .inbox).listen cb)) hk
  have hout (c : WorkerId) : ((w.setLink me ((w.link me).setBox .inbox
      (((w.link me).box .inbox).listen cb))).link c).outbox.callback = (w.link c).outbox.callback :=
    view_link_setLink (·.outbox.callback) fun _ ↦ rfl
  refine h.relinked horder (.inl ⟨rfl, rfl⟩) (h.kept.relinked ?_ fun c hc hn hf ↦ ?_)
  · rw [World.listening, World.listening, hlink, scope_setLink]
    simp only [hout]
    show List.Perm _ (((w.link me).inbox.callback.toList ++ hand) ++ (cb.toList ++ _))
    rw [List.perm_iff_count]
    intro s
    simp only [List.count_append]
    omega
  · rw [hout]
    exact h.kept.unheld c hc hn hf

theorem Working.exchange_outbox {cb old : Option Slot} (h : Working (cb.toList ++ hand) free me w)
    (hid : id ∈ (w.scope me).desk.workers)
    (hx : World.exchange (boxPlace id .outbox) cb w = .ok old w') :
    Working (old.toList ++ hand) free me w' ∧ Own me w w' := by
  have howner := (h.order.1.fits me).held id hid
  have horder := ((Order.keepsAt_exchange_kid howner cb).ok h.order hx).1
  cases hx
  rw [boxPlace_modify] at horder ⊢
  obtain ⟨k, hk, -⟩ := owner?_eq_some_iff.1 howner
  have hne : me ≠ id := Nat.ne_of_lt (h.order.1.owner_lt howner)
  have hnodup : (w.scope me).desk.workers.Nodup := by
    rw [h.kept.held]
    exact (h.order.1.fits me).nodup.filter _
  refine h.relinked horder (.inr ⟨howner, rfl⟩) (h.kept.relinked ?_ fun c hc hn hf ↦ ?_)
  · have hchange := filterMap_change (f := fun c ↦ (w.link c).outbox.callback)
      (g := fun c ↦ ((w.setLink id ((w.link id).setBox .outbox
        (((w.link id).box .outbox).listen cb))).link c).outbox.callback) hnodup hid
      fun c _ hc ↦ by rw [link_setLink_ne hc]
    rw [link_setLink_self hk] at hchange
    rw [World.listening, World.listening, link_setLink_ne hne, scope_setLink, List.perm_iff_count]
    intro s
    have hs : (cb.toList ++ _).count s = ((w.link id).outbox.callback.toList ++ _).count s :=
      hchange.count_eq s
    show _ = (((w.link id).outbox.callback.toList ++ hand) ++ _).count s
    simp only [List.count_append] at hs ⊢
    omega
  · rw [link_setLink_ne (by rintro rfl; exact hn hid)]
    exact h.kept.unheld c hc hn hf

/-- A handler is exchanged for another. -/
theorem Working.exchange {src : Source} {cb old : Option Slot}
    (h : Working (cb.toList ++ hand) free me w) (hsrc : mayHandle me (w.scope me).desk src = true)
    (hx : World.exchange (handlerPlace me src) cb w = .ok old w') :
    Working (old.toList ++ hand) free me w' ∧ Own me w w' := by
  cases src with
  | owner => exact h.exchange_inbox (by simpa [mayHandle] using hsrc) hx
  | worker id => exact h.exchange_outbox (by simpa [mayHandle, Desk.holds] using hsrc) hx

/-- A worker that has been let go of loses its callback. -/
theorem Working.silence {old : Option Slot} (h : Working hand [id] me w)
    (howner : w.owner? id = some me) (hid : id ∉ (w.scope me).desk.workers)
    (hx : World.exchange (boxPlace id .outbox) none w = .ok old w') :
    (Working hand [] me w' ∧ Own me w w') ∧ old = (w.link id).outbox.callback := by
  have horder := ((Order.keepsAt_exchange_kid howner none).ok h.order hx).1
  cases hx
  rw [boxPlace_modify] at horder ⊢
  obtain ⟨k, hk, -⟩ := owner?_eq_some_iff.1 howner
  have hne : me ≠ id := Nat.ne_of_lt (h.order.1.owner_lt howner)
  refine ⟨h.relinked horder (.inr ⟨howner, rfl⟩) (h.kept.relinked ?_ fun c hc hn _ ↦ ?_), rfl⟩
  · rw [World.listening, World.listening, link_setLink_ne hne, scope_setLink]
    have hsame : (w.scope me).desk.workers.filterMap (fun c ↦ ((w.setLink id ((w.link id).setBox
        .outbox (((w.link id).box .outbox).listen none))).link c).outbox.callback) =
        (w.scope me).desk.workers.filterMap fun c ↦ (w.link c).outbox.callback := by
      refine List.filterMap_congr fun c hc ↦ ?_
      rw [link_setLink_ne (by rintro rfl; exact hid hc)]
    rw [hsame]
  · by_cases hc' : c = id
    · subst hc'
      rw [link_setLink_self hk]
      rfl
    · rw [link_setLink_ne hc']
      exact h.kept.unheld c hc hn (by simpa using hc')

end Books

end ScriptWorkers
