import ScriptWorkers.Proofs.Cloning.Search

/-!
# The conversion to JSON

The conversion of a value goes into the elements of arrays and into all stored fields of other
objects.  On its way down it remembers the objects around it, and complains when it meets one of
them again, when it meets a symbol or a big number, or when a field has a symbol for its key.  An
object that it meets a second time on another way is converted a second time.

* `Obj.contents` are the values that the conversion of an object goes into, and `Heap.Carries` is
  one step of it.
* A value is a `Heap.Tree` if nothing is met that cannot stand in a message, and nothing inside
  itself.  Exactly then the conversion succeeds (`exists_jsonOf`).
* `Heap.Tree.acyclic_holds`: if arrays hold nothing but their elements, such a value has no
  cycles at all.
-/

namespace ScriptWorkers
namespace Script

open Relation

/-! ## One level -/

section Lists

variable {α β ε : Type}

/-- All of them succeed. -/
theorem exists_mapM {f : α → Except ε β} : ∀ {l : List α},
    (∃ ys, l.mapM f = .ok ys) ↔ ∀ x ∈ l, ∃ y, f x = .ok y
  | [] => by simp [pure, Except.pure]
  | x :: l => by
    rw [List.mapM_cons, List.forall_mem_cons, ← exists_mapM (l := l)]
    cases hx : f x with
    | error e => simp [bind, Except.bind]
    | ok y =>
      cases hl : l.mapM f with
      | error e => simp [bind, Except.bind]
      | ok ys => simp [bind, Except.bind, pure, Except.pure]

theorem exists_filterMapM {f : α → Except ε (Option β)} : ∀ {l : List α},
    (∃ ys, l.filterMapM f = .ok ys) ↔ ∀ x ∈ l, ∃ y, f x = .ok y
  | [] => by simp [pure, Except.pure]
  | x :: l => by
    rw [List.filterMapM_cons, List.forall_mem_cons, ← exists_filterMapM (l := l)]
    cases hx : f x with
    | error e => simp [bind, Except.bind]
    | ok y =>
      cases hl : l.filterMapM f with
      | error e => cases y <;> simp [bind, Except.bind]
      | ok ys => cases y <;> simp [bind, Except.bind, pure, Except.pure]

end Lists

namespace Obj

/-- The stored fields. -/
def stored (o : Obj) : List (Key × Field) :=
  o.items.toList.map (fun (i, f) ↦ (Key.index i, f)) ++ o.fields

/-- What the conversion of the object goes into. -/
def contents (o : Obj) : List Value :=
  match o.kind with
  | .array len => (List.range len).map fun i ↦ ((o.items.get? i).bind Field.value?).getD .undefined
  | .function _ => []
  | _ => o.stored.filterMap (·.2.value?)

/-- Only an array may have symbols for keys. -/
def Named (o : Obj) : Prop :=
  match o.kind with
  | .array _ | .function _ => True
  | _ => ∀ e ∈ o.stored, e.1.isSymbol = false

end Obj

namespace Heap

/-- The conversion of the first value goes into the second one. -/
def Carries (h : Heap) (a b : Value) : Prop := ∃ o, a = .object o ∧ b ∈ (h.get o).contents

/-- The value can stand in a message, whatever it holds. -/
def Fit (h : Heap) : Value → Prop
  | .bigint _ | .symbol _ => False
  | .object o => (h.get o).Named
  | _ => True

/-- Nothing is met that cannot stand in a message, and nothing inside itself. -/
structure Tree (h : Heap) (v : Value) : Prop where
  fit : ∀ u, ReflTransGen h.Carries v u → h.Fit u
  acyclic : ∀ u, ReflTransGen h.Carries v u → ¬ TransGen h.Carries u u

end Heap

variable {h : Heap} {above : List Ref} {u v : Value} {o : Ref} {n : Nat}

/-- A stored field in JSON, with its name. -/
def fieldJson (h : Heap) (above : List Ref) (n : Nat) (e : Key × Field) :
    Except String (Option (String × Json)) :=
  match e.1.units? with
  | none => .error "cannot convert Symbol to JSON"
  | some name =>
    match e.2 with
    | .accessor .. => .ok (some (name.text, Json.null))
    | .data x _ => (jsonOf h above x n).map fun j ↦ j.map fun j ↦ (name.text, j)

/-- A stored field can be converted if its key is no symbol and its value can be converted. -/
theorem exists_fieldJson {e : Key × Field} : (∃ y, fieldJson h above n e = .ok y) ↔
    e.1.isSymbol = false ∧ ∀ u, e.2.value? = some u → ∃ j, jsonOf h above u n = .ok j := by
  obtain ⟨k, f⟩ := e
  have hkey : k.isSymbol = false ↔ ∃ name, k.units? = some name := by
    cases k <;> simp [Key.isSymbol, Key.units?]
  rw [hkey]
  cases hk : k.units? with
  | none => simp [fieldJson, hk]
  | some name =>
    cases f with
    | accessor => simp [fieldJson, hk, Field.value?]
    | data x flags =>
      cases hx : jsonOf h above x n with
      | error e => simp [fieldJson, hk, hx, Field.value?, Except.map]
      | ok j => simp [fieldJson, hk, hx, Field.value?, Except.map]

section Levels

variable (hmem : o ∉ above)
include hmem

/-- One level of an array. -/
theorem jsonOf_array {len : Nat} (hkind : (h.get o).kind = .array len) :
    jsonOf h above (.object o) (n + 1) =
      ((h.get o).contents.mapM fun u ↦ jsonOf h (o :: above) u n).map fun parts ↦
        some (.arr (parts.map (·.getD .null))) := by
  rw [jsonOf, if_neg (mt List.contains_iff_mem.1 hmem), Obj.contents]
  simp only [hkind, List.mapM_map]
  rfl

/-- Functions are left out. -/
theorem jsonOf_function {c : Callable} (hkind : (h.get o).kind = .function c) :
    jsonOf h above (.object o) (n + 1) = .ok none := by
  rw [jsonOf, if_neg (mt List.contains_iff_mem.1 hmem)]
  simp only [hkind]

/-- One level of any other object. -/
theorem jsonOf_other (harray : ∀ len, (h.get o).kind ≠ .array len)
    (hfunction : ∀ c, (h.get o).kind ≠ .function c) :
    jsonOf h above (.object o) (n + 1) =
      ((h.get o).stored.filterMapM (fieldJson h (o :: above) n)).map fun parts ↦
        some (Json.object parts) := by
  rw [jsonOf, if_neg (mt List.contains_iff_mem.1 hmem)]
  dsimp only
  split
  · exact absurd ‹_› (harray _)
  · exact absurd ‹_› (hfunction _)
  · rfl

end Levels

theorem exists_map {α β ε : Type} {x : Except ε α} {f : α → β} :
    (∃ y, x.map f = .ok y) ↔ ∃ a, x = .ok a := by
  cases x <;> simp [Except.map]

theorem contents_of_other (harray : ∀ len, (h.get o).kind ≠ .array len)
    (hfunction : ∀ c, (h.get o).kind ≠ .function c) :
    (h.get o).contents = (h.get o).stored.filterMap (·.2.value?) ∧
      ((h.get o).Named ↔ ∀ e ∈ (h.get o).stored, e.1.isSymbol = false) := by
  rw [Obj.contents, Obj.Named]
  split
  · exact absurd ‹_› (harray _)
  · exact absurd ‹_› (hfunction _)
  · exact ⟨rfl, Iff.rfl⟩

/-- One level of the conversion. -/
theorem exists_jsonOf_object : (∃ j, jsonOf h above (.object o) (n + 1) = .ok j) ↔
    o ∉ above ∧ (h.get o).Named ∧ ∀ u ∈ (h.get o).contents, ∃ j,
      jsonOf h (o :: above) u n = .ok j := by
  by_cases hmem : o ∈ above
  · rw [jsonOf, if_pos (List.contains_iff_mem.2 hmem)]
    simp [hmem]
  by_cases harray : ∃ len, (h.get o).kind = .array len
  · obtain ⟨len, hkind⟩ := harray
    rw [jsonOf_array hmem hkind, exists_map, exists_mapM]
    simp [hmem, Obj.Named, hkind]
  by_cases hfunction : ∃ c, (h.get o).kind = .function c
  · obtain ⟨c, hkind⟩ := hfunction
    rw [jsonOf_function hmem hkind]
    simp [hmem, Obj.Named, Obj.contents, hkind]
  obtain ⟨hcontents, hnamed⟩ := contents_of_other (not_exists.1 harray) (not_exists.1 hfunction)
  rw [jsonOf_other hmem (not_exists.1 harray) (not_exists.1 hfunction), exists_map,
    exists_filterMapM, hcontents, hnamed]
  simp only [exists_fieldJson, List.mem_filterMap, hmem, not_false_eq_true, true_and]
  constructor
  · exact fun hall ↦ ⟨fun e he ↦ (hall e he).1, fun u ⟨e, he, hu⟩ ↦ (hall e he).2 u hu⟩
  · exact fun ⟨hkeys, hvalues⟩ e he ↦ ⟨hkeys e he, fun u hu ↦ hvalues u ⟨e, he, hu⟩⟩

/-! ## All levels -/

/-- The conversion goes into the contents. -/
theorem carries_iff : h.Carries (.object o) u ↔ u ∈ (h.get o).contents := by
  constructor
  · rintro ⟨_, heq, hu⟩
    cases heq
    exact hu
  · exact fun hu ↦ ⟨o, rfl, hu⟩

/-- What is reached from an object is the object itself, or reached from its contents. -/
theorem reaches_object {u : Value} : ReflTransGen h.Carries (.object o) u ↔
    u = .object o ∨ ∃ x ∈ (h.get o).contents, ReflTransGen h.Carries x u := by
  rw [ReflTransGen.cases_head_iff]
  simp only [carries_iff, eq_comm]

/-- A tree is made of trees that do not have it inside. -/
theorem tree_object : h.Tree (.object o) ↔ (h.get o).Named ∧ ∀ u ∈ (h.get o).contents,
    h.Tree u ∧ ¬ ReflTransGen h.Carries u (.object o) := by
  constructor
  · refine fun ht ↦ ⟨ht.fit _ .refl, fun u hu ↦ ⟨⟨fun x hx ↦ ?_, fun x hx ↦ ?_⟩, fun hback ↦ ?_⟩⟩
    · exact ht.fit x (.head (carries_iff.2 hu) hx)
    · exact ht.acyclic x (.head (carries_iff.2 hu) hx)
    · exact ht.acyclic _ .refl (.head' (carries_iff.2 hu) hback)
  · rintro ⟨hnamed, hparts⟩
    refine ⟨fun x hx ↦ ?_, fun x hx ↦ ?_⟩
    · rcases reaches_object.1 hx with rfl | ⟨u, hu, hx⟩
      · exact hnamed
      · exact (hparts u hu).1.fit x hx
    · rcases reaches_object.1 hx with rfl | ⟨u, hu, hx⟩
      · intro hcycle
        obtain ⟨u, hu, hback⟩ := TransGen.head'_iff.1 hcycle
        exact (hparts u (carries_iff.1 hu)).2 hback
      · exact (hparts u hu).1.acyclic x hx

/-- What is not on the heap holds nothing. -/
theorem lt_size_of_mem_contents (hu : u ∈ (h.get o).contents) : o < h.size := by
  by_contra hle
  rw [Heap.get_of_size_le (Nat.not_lt.1 hle)] at hu
  exact absurd hu List.not_mem_nil

section Simple

variable (hv : ∀ o, v ≠ .object o)
include hv

theorem reaches_simple (hreach : ReflTransGen h.Carries v u) : u = v := by
  rcases ReflTransGen.cases_head_iff.1 hreach with heq | ⟨_, ⟨o, ho, -⟩, -⟩
  · exact heq.symm
  · exact absurd ho (hv o)

theorem not_reaches_object : ¬ ReflTransGen h.Carries v (.object o) :=
  fun hreach ↦ hv o (reaches_simple hv hreach).symm

/-- What holds nothing is a tree, if it can stand in a message. -/
theorem tree_simple (hfit : h.Fit v) : h.Tree v := by
  refine ⟨fun u hu ↦ reaches_simple hv hu ▸ hfit, fun u hu hcycle ↦ ?_⟩
  obtain ⟨_, ⟨o, ho, -⟩, -⟩ := TransGen.head'_iff.1 hcycle
  exact hv o (reaches_simple hv hu ▸ ho)

end Simple

/-- **The conversion succeeds exactly for trees**, if it may go one level deeper than there are
objects that are not around the value. -/
theorem exists_jsonOf : ∀ {n : Nat} {above : List Ref} {v : Value}, h.unseen above + 1 < n →
    ((∃ j, jsonOf h above v n = .ok j) ↔
      h.Tree v ∧ ∀ o ∈ above, ¬ ReflTransGen h.Carries v (.object o))
  | n + 1, above, v, hn => by
    cases v with
    | object o =>
      rw [exists_jsonOf_object, tree_object]
      by_cases hmem : o ∈ above
      · exact iff_of_false (fun hall ↦ hall.1 hmem) fun hall ↦ hall.2 o hmem .refl
      -- What is inside has one object more around it.
      have hparts (u : Value) (hu : u ∈ (h.get o).contents) :
          (∃ j, jsonOf h (o :: above) u n = .ok j) ↔ h.Tree u ∧
            ¬ ReflTransGen h.Carries u (.object o) ∧
            ∀ p ∈ above, ¬ ReflTransGen h.Carries u (.object p) := by
        have hless := Heap.unseen_cons_lt (lt_size_of_mem_contents hu) hmem
        rw [exists_jsonOf (by omega), List.forall_mem_cons]
      constructor
      · rintro ⟨-, hnamed, hall⟩
        have hinner (u : Value) (hu : u ∈ (h.get o).contents) := (hparts u hu).1 (hall u hu)
        refine ⟨⟨hnamed, fun u hu ↦ ⟨(hinner u hu).1, (hinner u hu).2.1⟩⟩, fun p hp hreach ↦ ?_⟩
        rcases reaches_object.1 hreach with heq | ⟨u, hu, hreach⟩
        · cases heq
          exact hmem hp
        · exact (hinner u hu).2.2 p hp hreach
      · rintro ⟨⟨hnamed, hall⟩, habove⟩
        refine ⟨hmem, hnamed, fun u hu ↦ (hparts u hu).2 ⟨(hall u hu).1, (hall u hu).2, ?_⟩⟩
        exact fun p hp hreach ↦ habove p hp (.head (carries_iff.2 hu) hreach)
    | bigint x | symbol x =>
      refine iff_of_false (by simp [jsonOf]) fun ht ↦ ?_
      exact ht.1.fit _ .refl
    | undefined | null | bool x | number x | string x =>
      exact iff_of_true (by simp [jsonOf]) ⟨tree_simple nofun trivial,
        fun p _ ↦ not_reaches_object nofun⟩

/-! ## Cycles -/

theorem Items.mem_toList {items : Items} {i : Nat} {f : Field} (hf : items.get? i = some f) :
    (i, f) ∈ items.toList := by
  cases items with
  | words a | doubles a | values a =>
    obtain ⟨x, hx, rfl⟩ := Option.map_eq_some_iff.1 hf
    refine List.mem_map.2 ⟨(x, i), ?_, rfl⟩
    rw [List.mem_zipIdx_iff_getElem?, Array.getElem?_toList]
    exact hx
  | sparse fields =>
    obtain ⟨l₁, l₂, rfl, -⟩ := List.lookup_eq_some_iff.1 hf
    simp [toList]

namespace Obj

/-- A plain object, or an array that has nothing but its elements. -/
def Ordinary (o : Obj) : Prop :=
  o.kind = .plain ∨ ∃ len, o.kind = .array len ∧ o.fields = [] ∧ ∀ i f, o.items.get? i = some f →
    i < len

/-- The objects that it holds are converted with it. -/
theorem Ordinary.mem_contents {obj : Obj} {k : Key} {p : Ref} {flags : Flags} (hobj : obj.Ordinary)
    (hown : obj.own? k = some (.data (.object p) flags)) : .object p ∈ obj.contents := by
  rcases hobj with hkind | ⟨len, hkind, hfields, hlen⟩
  · have hstored : (k, .data (.object p) flags) ∈ obj.stored := by
      refine List.mem_append.2 ?_
      rcases own?_cases hown with ⟨i, rfl, hitem | hinnate⟩ | ⟨-, hfield | hinnate⟩
      · exact .inl (List.mem_map.2 ⟨_, Items.mem_toList hitem, rfl⟩)
      · simp [innateItem?, hkind] at hinnate
      · exact .inr hfield
      · simp [innateFields, hkind] at hinnate
    rw [contents, hkind]
    exact List.mem_filterMap.2 ⟨_, hstored, rfl⟩
  · rw [contents, hkind]
    rcases own?_cases hown with ⟨i, rfl, hitem | hinnate⟩ | ⟨-, hfield | hinnate⟩
    · exact List.mem_map.2 ⟨i, List.mem_range.2 (hlen i _ hitem), by simp [hitem, Field.value?]⟩
    · simp [innateItem?, hkind] at hinnate
    · simp [hfields] at hfield
    · simp [innateFields, hkind, Value.ofNat] at hinnate

end Obj

section Ordinary

variable (hordinary : ∀ o, ReflTransGen h.Holds v (.object o) → (h.get o).Ordinary)
include hordinary

/-- In ordinary objects the conversion goes wherever the search goes. -/
theorem carries_of_holds {p : Ref} (hreach : ReflTransGen h.Holds v u)
    (hholds : h.Holds u (.object p)) : h.Carries u (.object p) := by
  obtain ⟨o, k, flags, rfl, -, hown⟩ := hholds
  exact ⟨o, rfl, (hordinary o hreach).mem_contents hown⟩

theorem reaches_of_holds {p : Ref} (hreach : ReflTransGen h.Holds v u) (hu : u = .object p) :
    ReflTransGen h.Carries v u := by
  induction hreach generalizing p with
  | refl => exact .refl
  | tail hbefore hlast ih =>
    subst hu
    obtain ⟨o, -, -, ho, -⟩ := id hlast
    exact .tail (ih ho) (carries_of_holds hordinary hbefore hlast)

/-- So a cycle of the search is one of the conversion. -/
theorem cycle_of_holds {a : Value} {p : Ref} (hreach : ReflTransGen h.Holds v a)
    (hcycle : TransGen h.Holds a u) (hu : u = .object p) : TransGen h.Carries a u := by
  induction hcycle generalizing p with
  | single hlast =>
    subst hu
    exact .single (carries_of_holds hordinary hreach hlast)
  | tail hbefore hlast ih =>
    subst hu
    obtain ⟨o, -, -, ho, -⟩ := id hlast
    exact .tail (ih ho) (carries_of_holds hordinary (hreach.trans hbefore.to_reflTransGen) hlast)

/-- **A tree has no cycles**, if it is made of plain objects and of arrays that have nothing but
their elements. -/
theorem Heap.Tree.acyclic_holds (ht : h.Tree v) (hreach : ReflTransGen h.Holds v u) :
    ¬ TransGen h.Holds u u := by
  intro hcycle
  obtain ⟨-, ⟨o, -, -, ho, -⟩, -⟩ := TransGen.head'_iff.1 hcycle
  exact ht.acyclic u (reaches_of_holds hordinary hreach ho)
    (cycle_of_holds hordinary hreach hcycle ho)

end Ordinary

end Script
end ScriptWorkers
