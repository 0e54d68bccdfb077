import ScriptWorkers.Proofs.Wire.Scalars

/-!
# Values on the wire

Reading the text of a value gives the value back, unless it is nested too deep.  Then reading stops
at the first bracket that has no room left, and `Json.beyond` is the text before that bracket; so
the two cases are one statement, `Reads`, which is shown for one kind of value after the other.

## What is here

* `beyond_eq_none_iff`: the text goes nowhere too deep just if the value does not.
* `reads_null`, `reads_bool`, `reads_str`, `reads_int`: scalars need no room.
* `reads_arr`, `reads_obj`: the items and fields are read one after the other, up to the first of
  them that goes too deep.  Fields are put in order while they are read, and those that were in
  order stay as they are (`object_of_ascending`).
* `write_of_beyond`: the bracket that goes too deep does follow in the text.
-/

namespace ScriptWorkers.Json

/-! ## Nesting -/

mutual

/-- The text of a value before the first bracket that is nested more than `room` deep. -/
def beyond (room : Nat) : Json → Option (List Char)
  | arr items =>
    match room with
    | 0 => some []
    | room + 1 => (beyondItems room items).map ('[' :: ·)
  | obj fields =>
    match room with
    | 0 => some []
    | room + 1 => (beyondFields room fields).map ('{' :: ·)
  | _ => none

/-- The same for items with commas between them. -/
def beyondItems (room : Nat) : List Json → Option (List Char)
  | [] => none
  | v :: rest =>
    match beyond room v with
    | some t => some t
    | none => (beyondItems room rest).map (write v ++ ',' :: ·)

/-- The same for fields with commas between them. -/
def beyondFields (room : Nat) : List (String × Json) → Option (List Char)
  | [] => none
  | (k, v) :: rest =>
    match beyond room v with
    | some t => some (quoted k ++ ':' :: t)
    | none => (beyondFields room rest).map ((quoted k ++ ':' :: write v) ++ ',' :: ·)

end

mutual

/-- By induction on the value. -/
theorem beyond_eq_none_iff : ∀ (room : Nat) (v : Json), beyond room v = none ↔ depth v ≤ room
  | room, arr items => by
    cases room with
    | zero => simp [beyond, depth]
    | succ room => simp [beyond, depth, beyondItems_eq_none_iff room items]
  | room, obj fields => by
    cases room with
    | zero => simp [beyond, depth]
    | succ room => simp [beyond, depth, beyondFields_eq_none_iff room fields]
  | _, null | _, bool _ | _, int _ | _, float _ | _, str _ => by simp [beyond, depth]

theorem beyondItems_eq_none_iff : ∀ (room : Nat) (items : List Json),
    beyondItems room items = none ↔ depthItems items ≤ room
  | _, [] => by simp [beyondItems, depthItems]
  | room, v :: rest => by
    have hv := beyond_eq_none_iff room v
    have hrest := beyondItems_eq_none_iff room rest
    rw [beyondItems, depthItems, Nat.max_le, ← hv, ← hrest]
    cases beyond room v <;> simp

theorem beyondFields_eq_none_iff : ∀ (room : Nat) (fields : List (String × Json)),
    beyondFields room fields = none ↔ depthFields fields ≤ room
  | _, [] => by simp [beyondFields, depthFields]
  | room, (k, v) :: rest => by
    have hv := beyond_eq_none_iff room v
    have hrest := beyondFields_eq_none_iff room rest
    rw [beyondFields, depthFields, Nat.max_le, ← hv, ← hrest]
    cases beyond room v <;> simp

end

/-! ## Reading -/

/-- What reading a text comes to: `a` and what follows it, or the first bracket that there is no
room for, if there is a text before that. -/
def outcome {α : Type} (before : Option (List Char)) (text rest : List Char) (a : α) :
    Except Stop (α × List Char) :=
  match before with
  | none => .ok (a, rest)
  | some t => .error (.tooDeep (text.drop t.length))

/-- The text of the value is read back as far as there is room, whatever follows it. -/
structure Reads (v : Json) : Prop where
  starts : ∃ c cs, write v = c :: cs ∧ isBlank c = false ∧ c ≠ ']'
  value : ∀ room fuel rest, 2 * (write v).length ≤ fuel → Closes rest →
    value room (write v ++ rest) fuel = outcome (beyond room v) (write v ++ rest) rest v

section Parts

variable {room fuel : Nat} {rest cs : List Char} {c : Char} {v : Json} {e : Stop}

theorem skipBlanks_cons (h : isBlank c = false) : skipBlanks (c :: cs) = c :: cs :=
  List.dropWhile_cons_of_neg (by simp [h])

theorem expect_append (word rest : List Char) : expect word (word ++ rest) = .ok rest := by
  rw [expect, if_pos (List.isPrefixOf_iff_prefix.2 (List.prefix_append word rest)), List.drop_left]

theorem closes_comma : Closes (',' :: rest) := closes_cons rfl (by decide) (by decide) (by decide)

theorem closes_bracket : Closes (']' :: rest) := closes_cons rfl (by decide) (by decide) (by decide)

theorem closes_brace : Closes ('}' :: rest) := closes_cons rfl (by decide) (by decide) (by decide)

/-- What was read before counts for the place where reading stops. -/
theorem outcome_bind {α β : Type} {before : Option (List Char)} {text : List Char} {a : α}
    (f : α → β) (front : List Char) :
    (outcome before text rest a >>= fun r ↦ pure (f r.1, r.2) : Except Stop (β × List Char)) =
      outcome (before.map (front ++ ·)) (front ++ text) rest (f a) := by
  cases before with
  | none => rfl
  | some t =>
    show Except.error _ = Except.error _
    simp only [List.length_append, List.drop_length_add_append]

/-! ### Scalars -/

theorem reads_null : Reads null where
  starts := ⟨'n', _, rfl, rfl, by decide⟩
  value room fuel rest hf _ := by
    cases fuel with
    | zero => exact absurd hf (by decide)
    | succ fuel =>
      show Except.map _ (expect "ull".toList ("ull".toList ++ rest)) = _
      rw [expect_append]
      rfl

theorem reads_bool (b : Bool) : Reads (bool b) := by
  cases b with
  | true =>
    refine ⟨⟨'t', _, rfl, rfl, by decide⟩, fun room fuel rest hf _ ↦ ?_⟩
    cases fuel with
    | zero => exact absurd hf (by decide)
    | succ fuel =>
      show Except.map _ (expect "rue".toList ("rue".toList ++ rest)) = _
      rw [expect_append]
      rfl
  | false =>
    refine ⟨⟨'f', _, rfl, rfl, by decide⟩, fun room fuel rest hf _ ↦ ?_⟩
    cases fuel with
    | zero => exact absurd hf (by decide)
    | succ fuel =>
      show Except.map _ (expect "alse".toList ("alse".toList ++ rest)) = _
      rw [expect_append]
      rfl

theorem stringBody_text (s : String) (rest : List Char) :
    stringBody [] ((s.toList.flatMap escape ++ ['"']) ++ rest) = some (s.toList, rest) := by
  rw [List.append_assoc]
  exact stringBody_quoted s.toList [] rest

/-- Every string is read back. -/
theorem reads_str (s : String) : Reads (str s) where
  starts := ⟨'"', _, rfl, rfl, by decide⟩
  value room fuel rest hf _ := by
    cases fuel with
    | zero => simp [write, quoted] at hf
    | succ fuel =>
      rw [write, quoted, List.cons_append, value, skipBlanks_cons rfl]
      simp only [stringBody_text, String.ofList_toList]
      rfl

theorem intText_eq_cons (i : Int) : ∃ c cs, intText i = c :: cs ∧ (c = '-' ∨ c.isDigit = true) := by
  cases i with
  | negSucc n => exact ⟨'-', _, rfl, .inl rfl⟩
  | ofNat n =>
    obtain ⟨c, ds, h, hc, -⟩ := digitText_eq_cons n closes_nil.ends
    exact ⟨c, ds, h, .inr hc⟩

section Numbers

variable (hc : c = '-' ∨ c.isDigit = true)
include hc

theorem ne_of_starts_number {x : Char} (hx : x ≠ '-' ∧ x.isDigit = false) : c ≠ x := by
  rintro rfl
  rcases hc with h | h
  · exact hx.1 h
  · rw [hx.2] at h
    cases h

theorem isBlank_of_starts_number : isBlank c = false := by
  simp only [isBlank, Bool.or_eq_false_iff, decide_eq_false_iff_not]
  exact ⟨⟨⟨ne_of_starts_number hc (by decide), ne_of_starts_number hc (by decide)⟩,
    ne_of_starts_number hc (by decide)⟩, ne_of_starts_number hc (by decide)⟩

/-- What starts with a digit or a minus is read as a number. -/
theorem value_of_number (h : number (c :: cs) = some (v, rest)) :
    value room (c :: cs) (fuel + 1) = .ok (v, rest) := by
  rw [value, skipBlanks_cons (isBlank_of_starts_number hc)]
  split
  · rename_i heq
    cases heq
  · rename_i heq
    cases heq
    exact absurd rfl (ne_of_starts_number hc (x := '"') (by decide))
  · rename_i heq
    cases heq
    exact absurd rfl (ne_of_starts_number hc (x := '[') (by decide))
  · rename_i heq
    cases heq
    exact absurd rfl (ne_of_starts_number hc (x := '{') (by decide))
  · rename_i heq
    cases heq
    rw [if_neg (ne_of_starts_number hc (by decide)), if_neg (ne_of_starts_number hc (by decide)),
      if_neg (ne_of_starts_number hc (by decide)), h]

end Numbers

/-- Whole numbers that have a place in 64 bits are read back. -/
theorem reads_int {i : Int} (hlow : -(UInt64.size : Int) ≤ 2 * i) (hhigh : i < UInt64.size) :
    Reads (int i) := by
  obtain ⟨c, cs, htext, hc⟩ := intText_eq_cons i
  refine ⟨⟨c, cs, htext, isBlank_of_starts_number hc, ne_of_starts_number hc (by decide)⟩,
    fun room fuel rest hf hr ↦ ?_⟩
  cases fuel with
  | zero => simp [write, htext] at hf
  | succ fuel =>
    have hnumber := number_intText hlow hhigh hr
    rw [htext, List.cons_append] at hnumber
    rw [write, htext, List.cons_append]
    exact value_of_number hc hnumber

/-! ### Arrays -/

theorem values_more (h : value room cs fuel = .ok (v, ',' :: rest)) :
    values room cs (fuel + 1) = (values room rest fuel >>= fun r ↦ pure (v :: r.1, r.2)) := by
  rw [values, h]
  rfl

theorem values_last (h : value room cs fuel = .ok (v, ']' :: rest)) :
    values room cs (fuel + 1) = .ok ([v], rest) := by
  rw [values, h]
  rfl

theorem values_error (h : value room cs fuel = .error e) :
    values room cs (fuel + 1) = .error e := by
  rw [values, h]
  rfl

/-- By induction on the items. -/
theorem values_writeItems (room : Nat) (rest : List Char) : ∀ (items : List Json) (v : Json)
    (fuel : Nat), Reads v → (∀ u ∈ items, Reads u) →
    2 * (separated (writeItems (v :: items))).length + 1 ≤ fuel →
    values room (separated (writeItems (v :: items)) ++ ']' :: rest) fuel =
      outcome (beyondItems room (v :: items))
        (separated (writeItems (v :: items)) ++ ']' :: rest) rest (v :: items)
  | [], v, fuel + 1, hv, _, hf => by
    have hvalue := hv.value room fuel (']' :: rest) (Nat.le_of_succ_le_succ hf) closes_bracket
    rw [beyondItems]
    cases h : beyond room v with
    | none =>
      rw [h] at hvalue
      exact values_last hvalue
    | some t =>
      rw [h] at hvalue
      exact values_error hvalue
  | u :: items, v, fuel + 1, hv, hitems, hf => by
    have htext : separated (writeItems (v :: u :: items)) =
        write v ++ ',' :: separated (writeItems (u :: items)) := rfl
    rw [htext, List.length_append, List.length_cons] at hf
    rw [htext, List.append_assoc, List.cons_append, beyondItems]
    have hvalue := hv.value room fuel (',' :: (separated (writeItems (u :: items)) ++ ']' :: rest))
      (by omega) closes_comma
    cases h : beyond room v with
    | none =>
      rw [h] at hvalue
      rw [values_more hvalue, values_writeItems room rest items u fuel (hitems u (by simp))
        (fun x hx ↦ hitems x (by simp [hx])) (by omega), outcome_bind (v :: ·) (write v ++ [','])]
      simp
    | some t =>
      rw [h] at hvalue
      exact values_error hvalue

theorem value_array (hblank : isBlank c = false) (hc : c ≠ ']') :
    value (room + 1) ('[' :: c :: cs) (fuel + 1) =
      (values room (c :: cs) fuel >>= fun r ↦ pure (arr r.1, r.2)) := by
  rw [value, skipBlanks_cons rfl]
  simp only [skipBlanks_cons hblank]
  split
  · rename_i heq
    cases heq
    exact absurd rfl hc
  · rfl

/-- Arrays of values that are read back. -/
theorem reads_arr {items : List Json} (h : ∀ v ∈ items, Reads v) : Reads (arr items) where
  starts := ⟨'[', _, rfl, rfl, by decide⟩
  value room fuel rest hf _ := by
    rw [write, List.length_cons, List.length_append, List.length_singleton] at hf
    rw [write, List.cons_append, List.append_assoc, List.singleton_append]
    match room, fuel, items with
    | 0, fuel + 1, _ => rfl
    | room + 1, fuel + 1, [] => rfl
    | room + 1, fuel + 1, v :: items =>
      obtain ⟨c, cs, hc, hblank, hne⟩ := (h v (by simp)).starts
      obtain ⟨cs', hcs⟩ : ∃ cs', separated (writeItems (v :: items)) ++ ']' :: rest = c :: cs' := by
        cases items <;> simp [writeItems, separated, hc]
      have hvalues := values_writeItems room rest items v fuel (h v (by simp))
        (fun u hu ↦ h u (by simp [hu])) (by omega)
      rw [hcs] at hvalues ⊢
      rw [value_array hblank hne, hvalues, outcome_bind arr ['[']]
      rfl

/-! ### Objects -/

theorem members_more (k : String) (h : value room cs fuel = .ok (v, ',' :: rest)) :
    members room (quoted k ++ ':' :: cs) (fuel + 1) =
      (members room rest fuel >>= fun r ↦ pure ((k, v) :: r.1, r.2)) := by
  rw [quoted, List.cons_append, members, skipBlanks_cons rfl]
  simp only [stringBody_text, skipBlanks_cons (show isBlank ':' = false from rfl), h,
    String.ofList_toList]
  rfl

theorem members_last (k : String) (h : value room cs fuel = .ok (v, '}' :: rest)) :
    members room (quoted k ++ ':' :: cs) (fuel + 1) = .ok ([(k, v)], rest) := by
  rw [quoted, List.cons_append, members, skipBlanks_cons rfl]
  simp only [stringBody_text, skipBlanks_cons (show isBlank ':' = false from rfl), h,
    String.ofList_toList]
  rfl

theorem members_error (k : String) (h : value room cs fuel = .error e) :
    members room (quoted k ++ ':' :: cs) (fuel + 1) = .error e := by
  rw [quoted, List.cons_append, members, skipBlanks_cons rfl]
  simp only [stringBody_text, skipBlanks_cons (show isBlank ':' = false from rfl), h]
  rfl

/-- By induction on the fields. -/
theorem members_writeFields (room : Nat) (rest : List Char) : ∀ (fields : List (String × Json))
    (k : String) (v : Json) (fuel : Nat), Reads v → (∀ f ∈ fields, Reads f.2) →
    2 * (separated (writeFields ((k, v) :: fields))).length + 1 ≤ fuel →
    members room (separated (writeFields ((k, v) :: fields)) ++ '}' :: rest) fuel =
      outcome (beyondFields room ((k, v) :: fields))
        (separated (writeFields ((k, v) :: fields)) ++ '}' :: rest) rest ((k, v) :: fields)
  | [], k, v, fuel + 1, hv, _, hf => by
    have htext : separated (writeFields [(k, v)]) = quoted k ++ ':' :: write v := rfl
    rw [htext, List.length_append, List.length_cons] at hf
    rw [htext, List.append_assoc, List.cons_append, beyondFields]
    have hvalue := hv.value room fuel ('}' :: rest) (by omega) closes_brace
    cases h : beyond room v with
    | none =>
      rw [h] at hvalue
      exact members_last k hvalue
    | some t =>
      rw [h] at hvalue
      rw [members_error k hvalue]
      simp [outcome, List.drop_length_add_append]
  | (l, u) :: fields, k, v, fuel + 1, hv, hfields, hf => by
    have htext : separated (writeFields ((k, v) :: (l, u) :: fields)) =
        quoted k ++ ':' :: write v ++ ',' :: separated (writeFields ((l, u) :: fields)) := rfl
    rw [htext] at hf
    simp only [List.length_append, List.length_cons] at hf
    rw [htext, List.append_assoc, List.append_assoc, List.cons_append, List.cons_append,
      beyondFields]
    have hvalue := hv.value room fuel
      (',' :: (separated (writeFields ((l, u) :: fields)) ++ '}' :: rest)) (by omega) closes_comma
    cases h : beyond room v with
    | none =>
      rw [h] at hvalue
      rw [members_more k hvalue, members_writeFields room rest fields l u fuel
        (hfields (l, u) (by simp)) (fun f hf ↦ hfields f (by simp [hf])) (by omega),
        outcome_bind ((k, v) :: ·) (quoted k ++ ':' :: write v ++ [','])]
      simp
    | some t =>
      rw [h] at hvalue
      rw [members_error k hvalue]
      simp [outcome, List.drop_length_add_append]

/-- The names of the fields stand in ascending order. -/
def Ascending (fields : List (String × Json)) : Prop := fields.Pairwise fun f g ↦ f.1 < g.1

theorem mem_insertField {k : String} {f : String × Json} : ∀ {fields : List (String × Json)},
    f ∈ insertField k v fields → f = (k, v) ∨ f ∈ fields
  | [], h => .inl (List.mem_singleton.1 h)
  | (l, u) :: fields, h => by
    rw [insertField] at h
    split at h
    · simpa using h
    split at h
    · rcases List.mem_cons.1 h with h | h
      · exact .inl h
      · exact .inr (List.mem_cons_of_mem _ h)
    · rcases List.mem_cons.1 h with h | h
      · exact .inr (h ▸ List.mem_cons_self)
      · exact (mem_insertField h).imp_right (List.mem_cons_of_mem _)

/-- Fields stay in order. -/
theorem ascending_insertField {k : String} : ∀ {fields : List (String × Json)}, Ascending fields →
    Ascending (insertField k v fields)
  | [], _ => List.pairwise_singleton _ _
  | (l, u) :: fields, h => by
    obtain ⟨hhead, htail⟩ := List.pairwise_cons.1 h
    rw [insertField]
    by_cases hlt : k < l
    · rw [if_pos hlt]
      refine List.pairwise_cons.2 ⟨fun f hf ↦ ?_, h⟩
      rcases List.mem_cons.1 hf with rfl | hf
      · exact hlt
      · exact String.lt_trans hlt (hhead f hf)
    rw [if_neg hlt]
    by_cases heq : k = l
    · rw [if_pos heq]
      exact List.pairwise_cons.2 ⟨fun f hf ↦ heq ▸ hhead f hf, htail⟩
    · rw [if_neg heq]
      refine List.pairwise_cons.2 ⟨fun f hf ↦ ?_, ascending_insertField htail⟩
      rcases mem_insertField hf with rfl | hf
      · exact Std.lt_of_le_of_ne (String.not_lt.1 hlt) (Ne.symm heq)
      · exact hhead f hf

/-- A name above all others is put last. -/
theorem insertField_of_lt {k : String} : ∀ {fields : List (String × Json)},
    (∀ f ∈ fields, f.1 < k) → insertField k v fields = fields ++ [(k, v)]
  | [], _ => rfl
  | (l, u) :: fields, h => by
    have hl : l < k := h (l, u) (by simp)
    have hne : k ≠ l := fun heq ↦ String.lt_irrefl k (heq ▸ hl)
    rw [insertField, if_neg (String.lt_asymm hl), if_neg hne,
      insertField_of_lt fun f hf ↦ h f (by simp [hf])]
    rfl

/-- The fields of an object are in order, and they are among the given ones. -/
theorem object_eq_obj (given : List (String × Json)) : ∃ fields, object given = obj fields ∧
    Ascending fields ∧ ∀ f ∈ fields, f ∈ given := by
  suffices h : ∀ (given acc : List (String × Json)), Ascending acc →
      Ascending (given.foldl (fun acc f ↦ insertField f.1 f.2 acc) acc) ∧
        ∀ f ∈ given.foldl (fun acc f ↦ insertField f.1 f.2 acc) acc, f ∈ acc ∨ f ∈ given by
    obtain ⟨hasc, hmem⟩ := h given [] .nil
    exact ⟨_, rfl, hasc, fun f hf ↦ (hmem f hf).resolve_left List.not_mem_nil⟩
  intro given
  induction given with
  | nil => exact fun acc h ↦ ⟨h, fun f hf ↦ .inl hf⟩
  | cons g given ih =>
    intro acc h
    obtain ⟨hasc, hmem⟩ := ih _ (ascending_insertField h)
    refine ⟨hasc, fun f hf ↦ ?_⟩
    rcases hmem f hf with hf | hf
    · exact (mem_insertField hf).symm.imp_right fun (h : f = g) ↦ h ▸ List.mem_cons_self
    · exact .inr (List.mem_cons_of_mem _ hf)

/-- Fields that are in order stay as they are. -/
theorem object_of_ascending {fields : List (String × Json)} (h : Ascending fields) :
    object fields = obj fields := by
  suffices hfold : ∀ (fields acc : List (String × Json)), Ascending (acc ++ fields) →
      fields.foldl (fun acc f ↦ insertField f.1 f.2 acc) acc = acc ++ fields from
    congrArg obj (hfold fields [] h)
  intro fields
  induction fields with
  | nil => simp
  | cons f fields ih =>
    intro acc hasc
    have hlt : ∀ g ∈ acc, g.1 < f.1 := fun g hg ↦
      (List.pairwise_append.1 hasc).2.2 g hg f List.mem_cons_self
    rw [List.foldl_cons, insertField_of_lt hlt, ih _ (by simpa using hasc)]
    simp

theorem value_object : value (room + 1) ('{' :: '"' :: cs) (fuel + 1) =
    (members room ('"' :: cs) fuel >>= fun r ↦ pure (object r.1, r.2)) := rfl

/-- Objects with fields in order, of values that are read back. -/
theorem reads_obj {fields : List (String × Json)} (h : ∀ f ∈ fields, Reads f.2)
    (hasc : Ascending fields) : Reads (obj fields) where
  starts := ⟨'{', _, rfl, rfl, by decide⟩
  value room fuel rest hf _ := by
    rw [write, List.length_cons, List.length_append, List.length_singleton] at hf
    rw [write, List.cons_append, List.append_assoc, List.singleton_append]
    match room, fuel, fields with
    | 0, fuel + 1, _ => rfl
    | room + 1, fuel + 1, [] => rfl
    | room + 1, fuel + 1, (k, v) :: fields =>
      obtain ⟨cs, hcs⟩ : ∃ cs, separated (writeFields ((k, v) :: fields)) ++ '}' :: rest =
          '"' :: cs := by
        cases fields <;> simp [writeFields, separated, quoted]
      have hmembers := members_writeFields room rest fields k v fuel (h (k, v) (by simp))
        (fun f hf ↦ h f (by simp [hf])) (by omega)
      rw [hcs] at hmembers ⊢
      rw [value_object, hmembers, outcome_bind object ['{'], object_of_ascending hasc]
      rfl

end Parts

/-! ## The bracket that is nested too deep -/

mutual

/-- What stands after the text before a bracket is that bracket. -/
theorem write_of_beyond : ∀ {room : Nat} {v : Json} {before : List Char},
    beyond room v = some before →
    ∃ bracket after, write v = before ++ bracket :: after ∧ (bracket = '[' ∨ bracket = '{')
  | 0, arr items, before, h => by
    cases h
    exact ⟨'[', _, rfl, .inl rfl⟩
  | 0, obj fields, before, h => by
    cases h
    exact ⟨'{', _, rfl, .inr rfl⟩
  | room + 1, arr items, before, h => by
    obtain ⟨t, ht, rfl⟩ := Option.map_eq_some_iff.1 h
    obtain ⟨bracket, after, htext, hb⟩ := separated_of_beyondItems ht
    exact ⟨bracket, after ++ [']'], by simp [write, htext], hb⟩
  | room + 1, obj fields, before, h => by
    obtain ⟨t, ht, rfl⟩ := Option.map_eq_some_iff.1 h
    obtain ⟨bracket, after, htext, hb⟩ := separated_of_beyondFields ht
    exact ⟨bracket, after ++ ['}'], by simp [write, htext], hb⟩

theorem separated_of_beyondItems : ∀ {room : Nat} {items : List Json} {before : List Char},
    beyondItems room items = some before → ∃ bracket after,
      separated (writeItems items) = before ++ bracket :: after ∧ (bracket = '[' ∨ bracket = '{')
  | room, [v], before, h => by
    rw [beyondItems] at h
    cases hv : beyond room v with
    | none => simp [hv, beyondItems] at h
    | some t =>
      rw [hv] at h
      cases h
      exact write_of_beyond hv
  | room, v :: u :: items, before, h => by
    have htext : separated (writeItems (v :: u :: items)) =
        write v ++ ',' :: separated (writeItems (u :: items)) := rfl
    rw [beyondItems] at h
    cases hv : beyond room v with
    | none =>
      rw [hv] at h
      obtain ⟨t, ht, rfl⟩ := Option.map_eq_some_iff.1 h
      obtain ⟨bracket, after, hrest, hb⟩ := separated_of_beyondItems ht
      exact ⟨bracket, after, by simp [htext, hrest], hb⟩
    | some t =>
      rw [hv] at h
      cases h
      obtain ⟨bracket, after, hwrite, hb⟩ := write_of_beyond hv
      exact ⟨bracket, after ++ ',' :: separated (writeItems (u :: items)),
        by simp [htext, hwrite], hb⟩

theorem separated_of_beyondFields : ∀ {room : Nat} {fields : List (String × Json)}
    {before : List Char}, beyondFields room fields = some before → ∃ bracket after,
      separated (writeFields fields) = before ++ bracket :: after ∧ (bracket = '[' ∨ bracket = '{')
  | room, [(k, v)], before, h => by
    rw [beyondFields] at h
    cases hv : beyond room v with
    | none => simp [hv, beyondFields] at h
    | some t =>
      rw [hv] at h
      cases h
      obtain ⟨bracket, after, hwrite, hb⟩ := write_of_beyond hv
      exact ⟨bracket, after, by simp [writeFields, separated, hwrite], hb⟩
  | room, (k, v) :: (l, u) :: fields, before, h => by
    have htext : separated (writeFields ((k, v) :: (l, u) :: fields)) =
        quoted k ++ ':' :: write v ++ ',' :: separated (writeFields ((l, u) :: fields)) := rfl
    rw [beyondFields] at h
    cases hv : beyond room v with
    | none =>
      rw [hv] at h
      obtain ⟨t, ht, rfl⟩ := Option.map_eq_some_iff.1 h
      obtain ⟨bracket, after, hrest, hb⟩ := separated_of_beyondFields ht
      exact ⟨bracket, after, by simp [htext, hrest], hb⟩
    | some t =>
      rw [hv] at h
      cases h
      obtain ⟨bracket, after, hwrite, hb⟩ := write_of_beyond hv
      exact ⟨bracket, after ++ ',' :: separated (writeFields ((l, u) :: fields)),
        by simp [htext, hwrite], hb⟩

end

end ScriptWorkers.Json
