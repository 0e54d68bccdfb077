import Mathlib.Data.Finset.Card
import Mathlib.Data.Finset.Dedup
import Mathlib.Data.Finset.Range
import Mathlib.Logic.Relation
import ScriptWorkers.Script.Clone

/-!
# The search for functions

Before a value is posted, the search follows the fields of its objects and looks for functions.  It
passes each object once, so it may come back to an object in the middle of its fields, or after
them; in both cases it leaves again at once.

* `Heap.Holds` is a field that the search follows, `Heap.DataOnly` says that none of those that can
  be reached is read by a function.
* `Heap.Closed` is the invariant of the search: whatever the objects hold that it has noted since,
  it has passed as well.  So when it is back where it has begun, all that can be reached has been
  passed (`Heap.Closed.cleared`).
* `Heap.unseen` objects become fewer with each step into a new one, which is why the search comes to
  its end (`searched`).
-/

namespace ScriptWorkers
namespace Script

open Relation

variable {α β : Type} {r r' r₁ : Realm}

/-! ## Pieces that ask for nothing -/

/-- The piece of a script asks nothing of the world and ends like this. -/
def Settles (x : Eval α) (r : Realm) (o : Except Stop α) (r' : Realm) : Prop :=
  x.run.run r = .done (o, r')

theorem settles_pure (a : α) : Settles (pure a : Eval α) r (.ok a) r := rfl

/-- Pieces one after the other. -/
theorem Settles.bind {x : Eval α} {f : α → Eval β} {a : α} {o : Except Stop β}
    (hx : Settles x r (.ok a) r₁) (hf : Settles (f a) r₁ o r') : Settles (x >>= f) r o r' := by
  show Plan.bind (x.run.run r) (fun p ↦ (ExceptT.bindCont f p.1).run p.2) = _
  rw [hx]
  exact hf

theorem Settles.bind_error {x : Eval α} {f : α → Eval β} {stop : Stop}
    (hx : Settles x r (.error stop) r') : Settles (x >>= f) r (.error stop) r' := by
  show Plan.bind (x.run.run r) (fun p ↦ (ExceptT.bindCont f p.1).run p.2) = _
  rw [hx]
  rfl

/-- The realm with the complaint about a value that cannot be posted. -/
def Realm.complained (r : Realm) (text : String) : Realm :=
  { r with heap := r.heap.push (.ofError .type (Units.ofString ("DataCloneError: " ++ text))) }

/-- A complaint is a new error object. -/
theorem settles_cloneError (text : String) : Settles (cloneError text : Eval α) r
    (.error (.thrown (.object r.heap.size))) (r.complained text) := rfl

/-! ## Fields -/

theorem Obj.mem_ownIndices {o : Obj} {i : Nat} :
    i ∈ o.ownIndices ↔ i ∈ o.innateItems.map (·.1) ∨ i ∈ o.items.indices := by
  rw [ownIndices]
  split
  · simp_all
  · simp

theorem Items.mem_indices {items : Items} {i : Nat} {f : Field} (h : items.get? i = some f) :
    i ∈ items.indices := by
  cases items with
  | words a | doubles a | values a =>
    simp only [get?, Option.map_eq_some_iff] at h
    obtain ⟨x, hx, -⟩ := h
    exact List.mem_range.2 (Array.getElem?_eq_some_iff.1 hx).1
  | sparse fields =>
    obtain ⟨l₁, l₂, rfl, -⟩ := List.lookup_eq_some_iff.1 h
    simp [indices]

theorem Obj.mem_innateItems {o : Obj} {i : Nat} {f : Field} (h : o.innateItem? i = some f) :
    i ∈ o.innateItems.map (·.1) := by
  rw [innateItem?] at h
  split at h
  next s hkind =>
    obtain ⟨u, hu, -⟩ := Option.map_eq_some_iff.1 h
    rw [innateItems, hkind, List.map_map]
    exact List.mem_map.2 ⟨(u, i), List.mem_zipIdx_iff_getElem?.2 hu, rfl⟩
  next t items hkind =>
    obtain ⟨u, hu, -⟩ := Option.map_eq_some_iff.1 h
    rw [innateItems, hkind, List.map_map]
    exact List.mem_map.2 ⟨(u, i), List.mem_zipIdx_iff_getElem?.2 (by simpa using hu), rfl⟩
  next => cases h

/-- What is found is there. -/
theorem mem_of_lookup {fields : List (Key × Field)} {k : Key} {f : Field}
    (h : fields.lookup k = some f) : (k, f) ∈ fields := by
  obtain ⟨l₁, l₂, rfl, -⟩ := List.lookup_eq_some_iff.1 h
  simp

/-- Where a field of an object may come from. -/
theorem Obj.own?_cases {o : Obj} {k : Key} {f : Field} (h : o.own? k = some f) :
    (∃ i, k = .index i ∧ (o.items.get? i = some f ∨ o.innateItem? i = some f)) ∨
      (∀ i, k ≠ .index i) ∧ ((k, f) ∈ o.fields ∨ (k, f) ∈ o.innateFields) := by
  cases k with
  | index i =>
    simp only [own?] at h
    split at h
    · cases h
      exact .inl ⟨i, rfl, .inl ‹_›⟩
    · exact .inl ⟨i, rfl, .inr h⟩
  | name | symbol =>
    simp only [own?] at h
    split at h
    · cases h
      exact .inr ⟨fun _ ↦ nofun, .inl (mem_of_lookup ‹_›)⟩
    · exact .inr ⟨fun _ ↦ nofun, .inr (mem_of_lookup h)⟩

/-- Every field of an object has its key among those of the object. -/
theorem Obj.mem_ownKeys {o : Obj} {k : Key} {f : Field} (h : o.own? k = some f) :
    k ∈ o.ownKeys := by
  rw [ownKeys, List.mem_append, List.mem_append]
  rcases own?_cases h with ⟨i, rfl, hi⟩ | ⟨-, hfield⟩
  · exact .inl (.inl (List.mem_map_of_mem
      (mem_ownIndices.2 (hi.symm.imp mem_innateItems Items.mem_indices))))
  · have hnamed : k ∈ (o.innateFields ++ o.fields).map (·.1) :=
      List.mem_map.2 ⟨(k, f), List.mem_append.2 hfield.symm, rfl⟩
    cases hk : k.isSymbol with
    | false => exact .inl (.inr (List.mem_filter.2 ⟨hnamed, by simp [hk]⟩))
    | true => exact .inr (List.mem_filter.2 ⟨hnamed, hk⟩)

/-- No field is read by a function, unless its key is a symbol. -/
def Obj.dataOnly (o : Obj) : Bool :=
  (o.ownKeys.filter (!·.isSymbol)).all fun k ↦ ((o.own? k).bind Field.value?).isSome

namespace Heap

variable {h : Heap} {seen seen' : List Ref} {u v : Value} {o : Ref}

/-- There is nothing beyond the last object. -/
theorem get_of_size_le (hle : h.size ≤ o) : h.get o = {} := by
  have hkept : h.kept o = {} := by
    rw [kept, Array.getD_eq_getD_getElem?, Array.getElem?_eq_none hle]
    rfl
  rw [get, hkept]

theorem lt_size_of_mem_ownKeys {k : Key} (hk : k ∈ (h.get o).ownKeys) : o < h.size := by
  by_contra hle
  rw [get_of_size_le (Nat.not_lt.1 hle)] at hk
  exact absurd hk List.not_mem_nil

/-- The first value is an object that holds the second one in a field of its own whose
key is no symbol. -/
def Holds (h : Heap) (a b : Value) : Prop :=
  ∃ o k flags, a = .object o ∧ k.isSymbol = false ∧ (h.get o).own? k = some (.data b flags)

/-- No field that can be reached from the value is read by a function. -/
def DataOnly (h : Heap) (v : Value) : Prop :=
  ∀ o, ReflTransGen h.Holds v (.object o) → ∀ k ∈ (h.get o).ownKeys, k.isSymbol = false →
    ∃ u flags, (h.get o).own? k = some (.data u flags)

/-- What a value holds is data as well. -/
theorem DataOnly.of_holds (hdata : h.DataOnly v) (hholds : h.Holds v u) : h.DataOnly u :=
  fun o hreach ↦ hdata o (.head hholds hreach)

theorem dataOnly_of_forall (hall : ∀ o < h.size, (h.get o).dataOnly = true) : h.DataOnly v := by
  intro o _ k hk hsymbol
  have hdata := List.all_eq_true.1 (hall o (lt_size_of_mem_ownKeys hk)) k
    (List.mem_filter.2 ⟨hk, by simp [hsymbol]⟩)
  obtain ⟨u, hu⟩ := Option.isSome_iff_exists.1 hdata
  obtain ⟨f, hf, hvalue⟩ := Option.bind_eq_some_iff.1 hu
  cases f with
  | data x flags => exact ⟨x, flags, hf⟩
  | accessor => cases hvalue

theorem isCallable_of_forall (hall : ∀ o < h.size, (h.get o).isCallable = false) :
    h.isCallable v = false := by
  cases v with
  | object o =>
    by_cases ho : o < h.size
    · exact hall o ho
    · show (h.get o).isCallable = false
      rw [get_of_size_le (Nat.not_lt.1 ho)]
      rfl
  | undefined | null | bool | number | bigint | string | symbol => rfl

/-! ## What has been passed -/

/-- The value is no function, and if it is an object, it has been noted. -/
def Cleared (h : Heap) (seen : List Ref) (v : Value) : Prop :=
  h.isCallable v = false ∧ ∀ o, v = .object o → o ∈ seen

/-- Whatever is held by the objects that have been noted since has been passed. -/
def Closed (h : Heap) (seen seen' : List Ref) : Prop :=
  ∀ o ∈ seen', o ∉ seen → ∀ u, h.Holds (.object o) u → h.Cleared seen' u

theorem Cleared.mono (hv : h.Cleared seen v) (hsub : seen ⊆ seen') : h.Cleared seen' v :=
  ⟨hv.1, fun o ho ↦ hsub (hv.2 o ho)⟩

theorem closed_refl : h.Closed seen seen := fun _ ho hnot ↦ absurd ho hnot

/-- Two searches one after the other. -/
theorem Closed.trans {seen₁ : List Ref} (h₁ : h.Closed seen seen₁) (h₂ : h.Closed seen₁ seen')
    (hsub : seen₁ ⊆ seen') : h.Closed seen seen' := by
  intro o ho hnot u hholds
  by_cases hmem : o ∈ seen₁
  · exact (h₁ o hmem hnot u hholds).mono hsub
  · exact h₂ o ho hmem u hholds

/-- When nothing had been noted before, all that can be reached has been passed. -/
theorem Closed.cleared (hclosed : h.Closed [] seen) (hv : h.Cleared seen v)
    (hreach : ReflTransGen h.Holds v u) : h.Cleared seen u := by
  induction hreach with
  | refl => exact hv
  | tail _ hholds ih =>
    obtain ⟨o, k, flags, rfl, -⟩ := id hholds
    exact hclosed o (ih.2 o rfl) List.not_mem_nil _ hholds

/-- How many objects have not been noted. -/
def unseen (h : Heap) (seen : List Ref) : Nat := (Finset.range h.size \ seen.toFinset).card

theorem unseen_mono (hsub : seen ⊆ seen') : h.unseen seen' ≤ h.unseen seen := by
  refine Finset.card_le_card (Finset.sdiff_subset_sdiff (Finset.Subset.refl _) fun o ho ↦ ?_)
  exact List.mem_toFinset.2 (hsub (List.mem_toFinset.1 ho))

/-- A new object is one less to come. -/
theorem unseen_cons_lt (ho : o < h.size) (hnot : o ∉ seen) :
    h.unseen (o :: seen) < h.unseen seen := by
  refine Finset.card_lt_card ⟨?_, fun hsub ↦ ?_⟩
  · refine Finset.sdiff_subset_sdiff (Finset.Subset.refl _) fun p hp ↦ ?_
    exact List.mem_toFinset.2 (List.mem_cons_of_mem o (List.mem_toFinset.1 hp))
  · have hmem : o ∈ Finset.range h.size \ seen.toFinset := by simp [ho, hnot]
    exact absurd (hsub hmem) (by simp)

theorem unseen_nil : h.unseen [] = h.size := by
  simp [unseen]

end Heap

/-! ## The search -/

variable {call : Caller} {o : Ref} {k : Key} {u v : Value} {flags : Flags} {seen : List Ref}

/-- To read a data field asks for nothing. -/
theorem settles_getMember (hown : (r.heap.get o).own? k = some (.data u flags)) :
    Settles (getMember call (.object o) k) r (.ok u) r := by
  have hfield : memberField r.heap (.object o) k = some (.data u flags) := by
    rw [memberField, Heap.lookup, Heap.find?, hown]
  have hheap : Settles Eval.heap r (.ok r.heap) r := rfl
  rw [getMember, if_neg (by simp [Value.isNothing])]
  refine hheap.bind ?_
  rw [hfield]
  exact settles_pure u

/-- How a search of values ends: all of them have been passed, or a function can be
reached from one. -/
inductive Searched (r : Realm) (seen : List Ref) (values : Value → Prop) (x : Eval (List Ref)) :
    Prop where
  | passed {seen' : List Ref} (settles : Settles x r (.ok seen') r) (grown : seen ⊆ seen')
    (cleared : ∀ v, values v → r.heap.Cleared seen' v) (closed : r.heap.Closed seen seen')
  | found {v u : Value}
    (settles : Settles x r (.error (.thrown (.object r.heap.size)))
      (r.complained "function could not be cloned"))
    (mem : values v) (reach : ReflTransGen r.heap.Holds v u) (callable : r.heap.isCallable u = true)

/-- The fields of an object one after the other. -/
theorem searched_fields (call : Caller) {n : Nat} : ∀ (ks : List Key) (seen : List Ref),
    (∀ k ∈ ks, ∃ u flags, (r.heap.get o).own? k = some (.data u flags) ∧
      ∀ seen', seen ⊆ seen' → Searched r seen' (· = u) (rejectFunctions call seen' u n)) →
    Searched r seen (fun u ↦ ∃ k ∈ ks, ∃ flags, (r.heap.get o).own? k = some (.data u flags))
      (ks.foldlM (fun seen k ↦ do rejectFunctions call seen (← getMember call (.object o) k) n)
        seen)
  | [], seen, _ => .passed (settles_pure seen) (List.Subset.refl _) (fun _ ⟨_, hk, _⟩ ↦ by cases hk)
      Heap.closed_refl
  | k :: ks, seen, hrec => by
    obtain ⟨u, flags, hown, hsearch⟩ := hrec k List.mem_cons_self
    rw [List.foldlM_cons]
    cases hsearch seen (List.Subset.refl _) with
    | found hsettles hmem hreach hcallable =>
      subst hmem
      exact .found ((settles_getMember hown).bind hsettles).bind_error
        ⟨k, List.mem_cons_self, flags, hown⟩ hreach hcallable
    | @passed seen₁ hsettles hgrown hcleared hclosed =>
      have hfirst : Settles (do rejectFunctions call seen (← getMember call (.object o) k) n) r
          (.ok seen₁) r := (settles_getMember hown).bind hsettles
      have hrest := searched_fields call ks seen₁ fun k' hk' ↦ by
        obtain ⟨u', flags', hown', hsearch'⟩ := hrec k' (List.mem_cons_of_mem k hk')
        exact ⟨u', flags', hown', fun seen' hsub ↦ hsearch' seen' (List.Subset.trans hgrown hsub)⟩
      cases hrest with
      | found hsettles' hmem hreach hcallable =>
        obtain ⟨k', hk', hown'⟩ := hmem
        exact .found (hfirst.bind hsettles') ⟨k', List.mem_cons_of_mem k hk',
          hown'⟩ hreach hcallable
      | passed hsettles' hgrown' hcleared' hclosed' =>
        refine .passed (hfirst.bind hsettles') (List.Subset.trans hgrown hgrown') ?_
          (hclosed.trans hclosed' hgrown')
        rintro v ⟨k', hk', flags', hown'⟩
        rcases List.mem_cons.1 hk' with rfl | hk'
        · rw [hown] at hown'
          cases hown'
          exact (hcleared u rfl).mono hgrown'
        · exact hcleared' v ⟨k', hk', flags', hown'⟩

/-- The search of an object that has not been noted is the search of its fields. -/
theorem searched_object {n : Nat} (hcalm : (r.heap.get o).isCallable = false) (hnot : o ∉ seen)
    (hfields : Searched r (o :: seen)
      (fun u ↦ ∃ k ∈ (r.heap.get o).ownKeys.filter (!·.isSymbol), ∃ flags,
        (r.heap.get o).own? k = some (.data u flags))
      (((r.heap.get o).ownKeys.filter (!·.isSymbol)).foldlM
        (fun seen k ↦ do rejectFunctions call seen (← getMember call (.object o) k) n)
        (o :: seen))) :
    Searched r seen (· = .object o) (rejectFunctions call seen (.object o) (n + 1)) := by
  have hobject : Settles (Eval.object o) r (.ok (r.heap.get o)) r := rfl
  have hrun {out : Except Stop (List Ref)} {r' : Realm}
      (hsettles : Settles (((r.heap.get o).ownKeys.filter (!·.isSymbol)).foldlM
        (fun seen k ↦ do rejectFunctions call seen (← getMember call (.object o) k) n) (o :: seen))
        r out r') : Settles (rejectFunctions call seen (.object o) (n + 1)) r out r' := by
    refine hobject.bind ?_
    simp only [if_neg (Bool.eq_false_iff.1 hcalm), if_neg (mt List.contains_iff_mem.1 hnot)]
    exact hsettles
  cases hfields with
  | found hsettles hmem hreach hcallable =>
    obtain ⟨k, hk, flags, hown⟩ := hmem
    have hsymbol : k.isSymbol = false := by simpa using (List.mem_filter.1 hk).2
    exact .found (hrun hsettles) rfl (.head ⟨o, k, flags, rfl, hsymbol, hown⟩ hreach) hcallable
  | passed hsettles hgrown hcleared hclosed =>
    refine .passed (hrun hsettles) (List.subset_of_cons_subset hgrown) ?_
      fun p hp hnot u hholds ↦ ?_
    · rintro _ rfl
      exact ⟨hcalm, fun _ heq ↦ by cases heq; exact hgrown List.mem_cons_self⟩
    · by_cases hpo : p = o
      · obtain ⟨_, k, flags, heq, hsymbol, hown⟩ := hholds
        cases heq
        subst hpo
        have hk : k ∈ (r.heap.get p).ownKeys.filter (!·.isSymbol) :=
          List.mem_filter.2 ⟨Obj.mem_ownKeys hown, by simp [hsymbol]⟩
        exact hcleared u ⟨k, hk, flags, hown⟩
      · exact hclosed p hp (by simp [hpo, hnot]) u hholds

/-- **The search comes to its end** if it may go one level deeper than there are objects left, and
then it has passed the value, or found a function. -/
theorem searched (call : Caller) : ∀ {n : Nat} {seen : List Ref} {v : Value}, r.heap.DataOnly v →
    r.heap.unseen seen + 1 < n → Searched r seen (· = v) (rejectFunctions call seen v n)
  | n + 1, seen, v, hdata, hn => by
    cases v with
    | object o =>
      have hobject : Settles (Eval.object o) r (.ok (r.heap.get o)) r := rfl
      by_cases hcallable : (r.heap.get o).isCallable = true
      · refine .found (v := .object o) (hobject.bind ?_) rfl .refl hcallable
        simp only [if_pos hcallable]
        exact settles_cloneError _
      by_cases hseen : o ∈ seen
      · have hsettles : Settles (rejectFunctions call seen (.object o) (n + 1)) r (.ok seen) r := by
          refine hobject.bind ?_
          simp only [if_neg hcallable, if_pos (List.contains_iff_mem.2 hseen)]
          exact settles_pure seen
        refine .passed hsettles (List.Subset.refl _) ?_ Heap.closed_refl
        rintro _ rfl
        exact ⟨Bool.eq_false_iff.2 hcallable, fun _ heq ↦ by cases heq; exact hseen⟩
      -- Each field that is followed leads one level down, with one object less to be noted.
      refine searched_object (Bool.eq_false_iff.2 hcallable) hseen
        (searched_fields call _ _ fun k hk ↦ ?_)
      obtain ⟨hk, hsymbol⟩ := List.mem_filter.1 hk
      have hsymbol : k.isSymbol = false := by simpa using hsymbol
      obtain ⟨u, flags, hown⟩ := hdata o .refl k hk hsymbol
      refine ⟨u, flags, hown, fun seen' hsub ↦ searched call ?_ ?_⟩
      · exact hdata.of_holds ⟨o, k, flags, rfl, hsymbol, hown⟩
      · have hless := Heap.unseen_cons_lt (Heap.lt_size_of_mem_ownKeys hk) hseen
        have hmono := Heap.unseen_mono (h := r.heap) hsub
        omega
    | undefined | null | bool | number | bigint | string | symbol =>
      refine .passed (settles_pure seen) (List.Subset.refl _) ?_ Heap.closed_refl
      rintro _ rfl
      exact ⟨rfl, fun _ heq ↦ by cases heq⟩

/-- **The search fails exactly if a function can be reached.** -/
theorem settles_rejectFunctions (call : Caller) (hdata : r.heap.DataOnly v) {n : Nat}
    (hn : r.heap.size + 2 ≤ n) :
    ((∃ u, ReflTransGen r.heap.Holds v u ∧ r.heap.isCallable u = true) →
      Settles (rejectFunctions call [] v n) r (.error (.thrown (.object r.heap.size)))
        (r.complained "function could not be cloned")) ∧
    ((∀ u, ReflTransGen r.heap.Holds v u → r.heap.isCallable u = false) →
      ∃ seen, Settles (rejectFunctions call [] v n) r (.ok seen) r) := by
  have hunseen : r.heap.unseen [] + 1 < n := by
    rw [Heap.unseen_nil]
    omega
  cases searched call hdata hunseen with
  | found hsettles hmem hreach hcallable =>
    subst hmem
    exact ⟨fun _ ↦ hsettles, fun hnone ↦ absurd hcallable (by simp [hnone _ hreach])⟩
  | passed hsettles _ hcleared hclosed =>
    refine ⟨fun ⟨u, hreach, hcallable⟩ ↦ ?_, fun _ ↦ ⟨_, hsettles⟩⟩
    have hpassed := hclosed.cleared (hcleared v rfl) hreach
    exact absurd hcallable (by simp [hpassed.1])

end Script
end ScriptWorkers
