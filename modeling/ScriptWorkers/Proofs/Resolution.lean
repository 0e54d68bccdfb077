import ScriptWorkers.Proofs.Location

/-!
# Names below the root

The loader takes two lead-ins off a script name before it looks whether the name is an absolute
path, and an absolute path displaces the root.

* `Path.components` are what paths are compared by.  Joining a relative path to a root adds
  components behind those of the root (`Path.components_join`), so the path stays below it.
* A name is absolute after the lead-ins have been taken off if it was so before, or if a further
  slash stood behind its `./` (`Path.isAbsolute_bare_iff`).

So a relative name stays below every root if and only if it does not start with `.//`:
`relative_names_stay_below_root_iff`.
-/

namespace ScriptWorkers

namespace Path

variable {root path front cs id : List Char}

/-! ## Components -/

/-- The component that a path may have in front of its steps: the top of the tree, or a dot that
stands for where one is. -/
def opening (path : List Char) : List (List Char) :=
  if isAbsolute path then [['/']]
  else if (pieces path).head? = some ['.'] then [['.']]
  else []

/-- The components that paths are compared by. -/
def components (path : List Char) : List (List Char) := opening path ++ steps path

theorem pieces_append (front cs : List Char) :
    pieces (front ++ '/' :: cs) = pieces front ++ pieces cs := by
  simp only [pieces, cut_eq_splitOn]
  exact List.splitOn_append_cons_self front cs

/-- Steps of a path that goes on. -/
theorem steps_append (front cs : List Char) :
    steps (front ++ '/' :: cs) = steps front ++ steps cs := by
  rw [steps, pieces_append, List.filter_append]
  rfl

theorem pieces_ne_nil (path : List Char) : pieces path ≠ [] := by
  rw [pieces, cut_eq_splitOn]
  exact List.splitOn_ne_nil _ _

theorem isAbsolute_append (h : front ≠ []) : isAbsolute (front ++ cs) = isAbsolute front := by
  cases front with
  | nil => exact absurd rfl h
  | cons c front => rw [Bool.eq_iff_iff, isAbsolute_iff, isAbsolute_iff]; simp

/-- What a path starts with is said before its first slash. -/
theorem opening_append (h : front ≠ []) : opening (front ++ '/' :: cs) = opening front := by
  have hhead : (pieces (front ++ '/' :: cs)).head? = (pieces front).head? := by
    rw [pieces_append, List.head?_append, List.head?_eq_some_head (pieces_ne_nil front)]
    rfl
  rw [opening, opening, isAbsolute_append h, hhead]

theorem components_append (h : front ≠ []) :
    components (front ++ '/' :: cs) = components front ++ steps cs := by
  rw [components, components, opening_append h, steps_append, List.append_assoc]

/-- A slash at the end of a path adds no component. -/
theorem components_append_slash (front : List Char) (cs : List Char) :
    components (front ++ '/' :: cs) = components (front ++ ['/']) ++ steps cs := by
  by_cases h : front = []
  · subst h
    rw [components, components, steps_append, steps_append [] []]
    rfl
  · rw [components_append h, components_append h]
    exact congrArg (· ++ steps cs) (List.append_nil _).symm

/-- A relative path below a root has the components of the root in front of its own. -/
theorem components_join (hroot : root ≠ []) (hpath : isAbsolute path = false) :
    components (join root path) = components root ++ steps path := by
  rw [join, hpath, if_neg Bool.false_ne_true]
  split
  · rename_i hlast
    have hlast : root.getLast? = some '/' := by simpa [hroot] using hlast
    obtain ⟨front, rfl⟩ := List.getLast?_eq_some_iff.1 hlast
    rw [List.append_assoc, List.singleton_append, components_append_slash]
  · exact components_append hroot

/-- **A relative path stays below the root.** -/
theorem components_prefix_join (hpath : isAbsolute path = false) :
    components root <+: components (join root path) := by
  by_cases hroot : root = []
  · subst hroot
    exact List.nil_prefix
  · rw [components_join hroot hpath]
    exact List.prefix_append _ _

/-- And it is absolute just if the root is. -/
theorem isAbsolute_join (hpath : isAbsolute path = false) :
    isAbsolute (join root path) = isAbsolute root := by
  rw [join, hpath, if_neg Bool.false_ne_true]
  by_cases hroot : root = []
  · subst hroot
    exact hpath
  · split
    · exact isAbsolute_append hroot
    · exact isAbsolute_append hroot

/-! ## Lead-ins -/

/-- What a script name says without its scheme. -/
def schemeless (id : List Char) : List Char := dropLead "file://".toList id

theorem dropLead_eq_drop {lead : List Char} (h : lead <+: cs) :
    dropLead lead cs = cs.drop lead.length :=
  if_pos (by simpa using h)

/-- The second lead-in uncovers an absolute path if another slash stands behind it. -/
theorem isAbsolute_bare_iff :
    isAbsolute (bare id) = true ↔ isAbsolute (schemeless id) = true ∨
      ".//".toList <+: schemeless id := by
  show isAbsolute (dropLead "./".toList (schemeless id)) = true ↔ _
  generalize schemeless id = cs
  by_cases h : "./".toList <+: cs
  · rw [dropLead_eq_drop h, isAbsolute_iff]
    obtain ⟨rest, rfl⟩ := h
    rw [List.drop_left]
    constructor
    · rintro ⟨tail, rfl⟩
      exact .inr ⟨tail, rfl⟩
    · rintro (habs | ⟨tail, htail⟩)
      · cases habs
      · have hsplit : "./".toList ++ '/' :: tail = "./".toList ++ rest := htail
        exact ⟨tail, (List.append_cancel_left hsplit).symm⟩
  · rw [dropLead_eq_self _ h]
    refine ⟨.inl, fun hcs ↦ hcs.resolve_right fun hlong ↦ h ?_⟩
    exact List.IsPrefix.trans ⟨['/'], rfl⟩ hlong

/-- With two slashes after the dot, an absolute path is left. -/
theorem bare_of_doubled (h : ".//".toList <+: schemeless id) : bare id = (schemeless id).drop 2 :=
  dropLead_eq_drop (List.IsPrefix.trans ⟨['/'], rfl⟩ h)

end Path

/-! ## Resolving -/

open ScriptWorkers.Path

theorem toList_resolve (root id : String) :
    (resolve root id).toList = join root.toList (bare id.toList) :=
  String.toList_ofList

/-- **A relative name stays below the root, unless it starts with `.//`.**  Take a name that is
no absolute path once its scheme has been taken off.  There is a relative path that the loader
joins to every root, so that the components of the root are in front of those of the result, if
and only if the name does not start with a dot and two slashes.  If it does, what follows the
first slash is the result whatever the root is; so a result is absolute if the root is, or
because of those two slashes. -/
theorem relative_names_stay_below_root_iff (id : String)
    (hrel : isAbsolute (schemeless id.toList) = false) :
    ((∃ rel, isAbsolute rel = false ∧ ∀ root : String,
        (resolve root id).toList = join root.toList rel ∧
          components root.toList <+: components (resolve root id).toList) ↔
      ¬ ".//".toList <+: schemeless id.toList) ∧
    ∀ root : String,
      (".//".toList <+: schemeless id.toList →
        (resolve root id).toList = (schemeless id.toList).drop 2) ∧
      (isAbsolute (resolve root id).toList = true ↔
        isAbsolute root.toList = true ∨ ".//".toList <+: schemeless id.toList) := by
  have hbare : isAbsolute (bare id.toList) = true ↔ ".//".toList <+: schemeless id.toList := by
    rw [isAbsolute_bare_iff, hrel]
    simp
  have hdisplaced (root : String) (h : ".//".toList <+: schemeless id.toList) :
      (resolve root id).toList = bare id.toList := by
    rw [toList_resolve, join, if_pos (hbare.2 h)]
  refine ⟨⟨?_, fun hlead ↦ ?_⟩, fun root ↦ ⟨fun hlead ↦ ?_, ?_⟩⟩
  · rintro ⟨rel, hrel, hall⟩ hlead
    -- below the root without a name a relative path stays relative
    have hempty : isAbsolute (bare id.toList) = isAbsolute rel := by
      rw [← hdisplaced "" hlead, (hall "").1, isAbsolute_join hrel, hrel]
      rfl
    rw [hbare.2 hlead, hrel] at hempty
    cases hempty
  · have hbelow : isAbsolute (bare id.toList) = false := Bool.eq_false_iff.2 (mt hbare.1 hlead)
    refine ⟨bare id.toList, hbelow, fun root ↦ ⟨toList_resolve root id, ?_⟩⟩
    rw [toList_resolve]
    exact components_prefix_join hbelow
  · rw [hdisplaced root hlead, bare_of_doubled hlead]
  · by_cases hlead : ".//".toList <+: schemeless id.toList
    · rw [hdisplaced root hlead]
      exact iff_of_true (hbare.2 hlead) (.inr hlead)
    · rw [toList_resolve, isAbsolute_join (Bool.eq_false_iff.2 (mt hbare.1 hlead))]
      exact (or_iff_left hlead).symm

/-- Both lead-ins are taken off a name, and the rest is looked for below the root. -/
theorem both_lead_ins_stay_below :
    isAbsolute (schemeless "file://./lib/a.js".toList) = false ∧
      ¬ ".//".toList <+: schemeless "file://./lib/a.js".toList ∧
      (∃ rel, isAbsolute rel = false ∧ ∀ root : String,
        (resolve root "file://./lib/a.js").toList = join root.toList rel ∧
          components root.toList <+: components (resolve root "file://./lib/a.js").toList) ∧
      resolve "/srv" "file://./lib/a.js" = "/srv/lib/a.js" := by
  have hrel : isAbsolute (schemeless "file://./lib/a.js".toList) = false := by decide
  have hlead : ¬ ".//".toList <+: schemeless "file://./lib/a.js".toList := by decide
  exact ⟨hrel, hlead, (relative_names_stay_below_root_iff _ hrel).1.2 hlead, by decide⟩

/-- With a second slash behind the dot, a relative name leaves the root. -/
theorem doubled_slash_leaves_root :
    isAbsolute (schemeless ".//etc/passwd".toList) = false ∧
      resolve "assets" ".//etc/passwd" = "/etc/passwd" ∧
      ¬ components "assets".toList <+: components (resolve "assets" ".//etc/passwd").toList :=
  ⟨by decide, by decide, by decide⟩

end ScriptWorkers
