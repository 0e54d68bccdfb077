import ScriptWorkers.Proofs.Wire.Values

/-!
# What is posted is what arrives

A value is posted as its text and read again when it is delivered.

* `Json.Portable` are the values with whole numbers for their numbers: null, truth values, whole
  numbers that have a place in 64 bits, strings, and arrays and objects of such values.
* `wire_round_trip` says that each of them is written, and read back exactly if it is nested at most
  127 deep; otherwise the bracket that goes deeper is refused, and the error tells its place.

Reading goes by `Json.Reads`, which every portable value has (`Portable.reads`).  `read_write` and
`read_write_of_beyond` are its two cases for a whole text.
-/

namespace ScriptWorkers

namespace Json

/-- A value whose numbers are whole and have a place in 64 bits. -/
inductive Portable : Json → Prop where
  | null : Portable null
  | bool (b : Bool) : Portable (bool b)
  /-- A number with a sign, or one that needs all the bits. -/
  | int {i : Int} (low : -(UInt64.size : Int) ≤ 2 * i) (high : i < UInt64.size) : Portable (int i)
  | str (s : String) : Portable (str s)
  | arr {items : List Json} (each : ∀ v ∈ items, Portable v) : Portable (arr items)
  /-- An object, its fields given in any order. -/
  | object {fields : List (String × Json)} (each : ∀ f ∈ fields, Portable f.2) :
    Portable (object fields)

/-- By induction on the value. -/
theorem Portable.reads {v : Json} (h : v.Portable) : Reads v := by
  induction h with
  | null => exact reads_null
  | bool b => exact reads_bool b
  | int low high => exact reads_int low high
  | str s => exact reads_str s
  | arr _ ih => exact reads_arr ih
  | @object given _ ih =>
    obtain ⟨fields, hobject, hasc, hmem⟩ := object_eq_obj given
    rw [hobject]
    exact reads_obj (fun f hf ↦ ih f (hmem f hf)) hasc

theorem byteLength_append (cs ds : List Char) :
    byteLength (cs ++ ds) = byteLength cs + byteLength ds := by
  induction cs with
  | nil => exact (Nat.zero_add _).symm
  | cons c cs ih =>
    show c.utf8Size + byteLength (cs ++ ds) = c.utf8Size + byteLength cs + byteLength ds
    rw [ih, Nat.add_assoc]

variable {v : Json} {before : List Char}

theorem value_write (h : v.Portable) : value (depthLimit - 1) v.write (2 * v.write.length + 2) =
    outcome (beyond (depthLimit - 1) v) v.write [] v := by
  have hvalue := h.reads.value (depthLimit - 1) (2 * v.write.length + 2) [] (by omega) closes_nil
  rwa [List.append_nil] at hvalue

/-- A value that is not nested too deep is read back. -/
theorem read_write (h : v.Portable) (hdepth : v.depth < depthLimit) : read v.write = .ok v := by
  have hroom : beyond (depthLimit - 1) v = none :=
    (beyond_eq_none_iff _ v).2 (Nat.le_pred_of_lt hdepth)
  rw [read, value_write h, hroom]
  rfl

/-- One that is, is refused at the first bracket that goes deeper. -/
theorem read_write_of_beyond (h : v.Portable) (hb : beyond (depthLimit - 1) v = some before) :
    read v.write = .error (.tooDeep (byteLength before + 1)) := by
  obtain ⟨bracket, after, htext, -⟩ := write_of_beyond hb
  have hcolumn : byteLength v.write - byteLength (v.write.drop before.length) =
      byteLength before := by
    rw [htext, List.drop_left, byteLength_append, Nat.add_sub_cancel]
  rw [read, value_write h, hb]
  simp only [outcome, hcolumn]

end Json

/-- **Values make the round trip up to the nesting limit.**  Every value of whole numbers, however
large, can be encoded.  If arrays and objects are nested at most 127 deep in it, the message is
decoded to the same value.  Otherwise the message is refused for the first bracket that goes deeper,
at the byte where it stands. -/
theorem wire_round_trip (v : Json) (h : v.Portable) : ∃ m, Message.encode (.json v) = .ok m ∧
    (v.depth ≤ 127 → m.decode = .ok v) ∧
    (128 ≤ v.depth → ∃ before bracket after, m.text.toList = before ++ bracket :: after ∧
      (bracket = '[' ∨ bracket = '{') ∧ v.beyond 127 = some before ∧
      m.decode = .error ⟨"recursion limit exceeded at line 1 column " ++
        toString (Json.byteLength before + 1)⟩) := by
  have htext : (Message.ofJson v).text.toList = v.write := String.toList_ofList
  refine ⟨Message.ofJson v, rfl, fun hdepth ↦ ?_, fun hdepth ↦ ?_⟩
  · rw [Message.decode, Json.parse, htext, Json.read_write h (Nat.lt_succ_of_le hdepth)]
  · obtain ⟨before, hb⟩ : ∃ before, v.beyond 127 = some before := by
      refine Option.ne_none_iff_exists'.1 fun hroom ↦ ?_
      have := (Json.beyond_eq_none_iff 127 v).1 hroom
      omega
    obtain ⟨bracket, after, hwrite, hbracket⟩ := Json.write_of_beyond hb
    refine ⟨before, bracket, after, htext.trans hwrite, hbracket, hb, ?_⟩
    rw [Message.decode, Json.parse, htext, Json.read_write_of_beyond h hb]
    rfl

/-! ## A parcel and a tower -/

/-- A value with both ends of the whole numbers, and with names and texts that have to be
escaped. -/
def parcel : Json :=
  .object [("to\n\"", .arr [.int 18446744073709551615, .int (-9223372036854775808),
    .str "\\ü\x01"]), ("from", .object [])]

/-- Arrays in arrays. -/
def tower (height : Nat) : Json := Json.wrapped (fun v ↦ .arr [v]) .null height

theorem portable_parcel : parcel.Portable := by
  refine .object fun f hf ↦ ?_
  simp only [List.mem_cons, List.not_mem_nil, or_false] at hf
  rcases hf with rfl | rfl
  · refine .arr fun v hv ↦ ?_
    simp only [List.mem_cons, List.not_mem_nil, or_false] at hv
    rcases hv with rfl | rfl | rfl
    · exact .int (by decide) (by decide)
    · exact .int (by decide) (by decide)
    · exact .str _
  · exact .object fun _ hf ↦ absurd hf List.not_mem_nil

theorem portable_tower : ∀ height, (tower height).Portable
  | 0 => .null
  | height + 1 => .arr fun _ hv ↦ List.mem_singleton.1 hv ▸ portable_tower height

/-- The parcel arrives, and so does a tower of 127 levels; one more is refused at its last
bracket. -/
theorem parcel_and_tower : (∃ m, Message.encode (.json parcel) = .ok m ∧ m.decode = .ok parcel) ∧
    (∃ m, Message.encode (.json (tower 127)) = .ok m ∧ m.decode = .ok (tower 127)) ∧
    ∃ m, Message.encode (.json (tower 128)) = .ok m ∧
      m.decode = .error ⟨"recursion limit exceeded at line 1 column 128"⟩ := by
  obtain ⟨m, hm, harrives, -⟩ := wire_round_trip parcel portable_parcel
  obtain ⟨low, hlow, hfits, -⟩ := wire_round_trip (tower 127) (portable_tower 127)
  obtain ⟨high, hhigh, -, hrefused⟩ := wire_round_trip (tower 128) (portable_tower 128)
  obtain ⟨before, _, _, -, -, hbefore, herror⟩ := hrefused (by decide +kernel)
  have hbytes : Json.byteLength before = 127 := by
    have htower : (tower 128).beyond 127 = some (List.replicate 127 '[') := by decide +kernel
    rw [Option.some.inj (hbefore.symm.trans htower)]
    decide +kernel
  rw [hbytes] at herror
  exact ⟨⟨m, hm, harrives (by decide +kernel)⟩, ⟨low, hlow, hfits (by decide +kernel)⟩,
    ⟨high, hhigh, herror⟩⟩

end ScriptWorkers
