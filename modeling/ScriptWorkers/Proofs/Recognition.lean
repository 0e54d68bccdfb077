import ScriptWorkers.Proofs.Resolution

/-!
# Two ways to tell a script with types

A script is taken to have types by the end of its name, and the types are taken out by the extension
of its file name.  The one looks at nothing but the last characters; the other goes by the last
component of the path, and there by the last dot, if something stands before it.

* `Dialect.fileName?_append`: the file name is what follows the last slash.
* `Dialect.extension?_append`: the extension is what follows the last dot, unless the
  dot comes first.
* `Dialect.ofName_of_typed`: so the two agree as soon as something stands before the ending.

They disagree on a file whose name is nothing but an ending: `typed_names_have_types_iff`.
-/

namespace ScriptWorkers

open ScriptWorkers.Path

namespace Dialect

variable {dir file stem ext : List Char} {name : String}

/-! ## Names that end like those of scripts with types -/

/-- The extensions of scripts with types. -/
def typedExtensions : List (List Char) := ["ts".toList, "mts".toList, "cts".toList]

/-- By the last characters alone. -/
theorem isTypeScript_iff :
    isTypeScript name = true ↔ ∃ front, ∃ ext ∈ typedExtensions,
      name.toList = front ++ '.' :: ext := by
  simp only [isTypeScript, typedExtensions, List.any_cons, List.any_nil, Bool.or_false,
    Bool.or_eq_true,
    List.isSuffixOf_iff_suffix, List.IsSuffix, List.mem_cons, List.not_mem_nil, or_false]
  constructor
  · rintro (⟨front, h⟩ | ⟨front, h⟩ | ⟨front, h⟩)
    · exact ⟨front, _, .inl rfl, h.symm⟩
    · exact ⟨front, _, .inr (.inl rfl), h.symm⟩
    · exact ⟨front, _, .inr (.inr rfl), h.symm⟩
  · rintro ⟨front, ext, rfl | rfl | rfl, h⟩
    · exact .inl ⟨front, h.symm⟩
    · exact .inr (.inl ⟨front, h.symm⟩)
    · exact .inr (.inr ⟨front, h.symm⟩)

theorem plain_of_typed (h : ext ∈ typedExtensions) : '.' ∉ ext ∧ '/' ∉ ext ∧ ext ≠ [] := by
  have hall : ∀ ext ∈ typedExtensions, '.' ∉ ext ∧ '/' ∉ ext ∧ ext ≠ [] := by decide
  exact hall ext h

/-- What stands for a directory in front of a file name. -/
def IsDirectory (dir : List Char) : Prop := dir = [] ∨ dir.getLast? = some '/'

/-- Every path is a directory and a file name. -/
theorem exists_directory (cs : List Char) : ∃ dir rest, cs = dir ++ rest ∧ IsDirectory dir ∧
    '/' ∉ rest := by
  induction cs with
  | nil => exact ⟨[], [], rfl, .inl rfl, List.not_mem_nil⟩
  | cons c cs ih =>
    obtain ⟨dir, rest, rfl, hdir, hrest⟩ := ih
    rcases hdir with rfl | hlast
    · by_cases hc : c = '/'
      · exact ⟨[c], rest, rfl, .inr (by simp [hc]), hrest⟩
      · exact ⟨[], c :: rest, rfl, .inl rfl, by simp [Ne.symm hc, hrest]⟩
    · refine ⟨c :: dir, rest, rfl, .inr ?_, hrest⟩
      rw [List.getLast?_cons, hlast]
      rfl

theorem mem_endings_iff (hext : ext ∈ typedExtensions) :
    stem ++ '.' :: ext ∈ [".ts".toList, ".mts".toList, ".cts".toList] ↔ stem = [] := by
  show stem ++ '.' :: ext ∈ typedExtensions.map ('.' :: ·) ↔ _
  rw [List.mem_map]
  constructor
  · rintro ⟨ext', hext', heq⟩
    cases stem with
    | nil => rfl
    | cons c stem =>
      -- an ending has no dot but the one at its front
      obtain ⟨-, rfl⟩ := List.cons.inj heq
      exact absurd (List.mem_append_right stem List.mem_cons_self) (plain_of_typed hext').1
  · rintro rfl
    exact ⟨ext, hext, rfl⟩

/-! ## File names and extensions -/

/-- What follows the last slash. -/
def lastPiece (path : List Char) : List Char := (pieces path).getLastD []

/-- The file name is the last piece. -/
theorem pieces_append_file (hdir : IsDirectory dir) (hslash : '/' ∉ file) :
    ∃ above, pieces (dir ++ file) = above ++ [file] := by
  have hfile : pieces file = [file] := by
    rw [pieces, cut_eq_splitOn, List.splitOn_eq_singleton hslash]
  rcases hdir with rfl | hlast
  · exact ⟨[], hfile⟩
  · obtain ⟨front, rfl⟩ := List.getLast?_eq_some_iff.1 hlast
    exact ⟨pieces front, by rw [List.append_assoc, List.singleton_append, pieces_append, hfile]⟩

theorem lastPiece_append (hdir : IsDirectory dir) (hslash : '/' ∉ file) :
    lastPiece (dir ++ file) = file := by
  obtain ⟨above, h⟩ := pieces_append_file hdir hslash
  rw [lastPiece, h, List.getLastD_concat]

/-- The file name is what follows the last slash. -/
theorem fileName?_append (hdir : IsDirectory dir) (hslash : '/' ∉ file) (hne : file ≠ [])
    (hdot : file ≠ ['.']) (hdots : file ≠ ['.', '.']) : fileName? (dir ++ file) = some file := by
  obtain ⟨above, h⟩ := pieces_append_file hdir hslash
  have hlast : (steps (dir ++ file)).getLast? = some file := by
    rw [steps, h, List.filter_append, List.filter_cons_of_pos (by simp [hne, hdot]),
      List.filter_nil, List.getLast?_concat]
  rw [fileName?, hlast]
  split
  · rename_i heq
    exact absurd (Option.some.inj heq) hdots
  · rfl

/-- The extension is what follows the last dot, unless the file name starts with that dot. -/
theorem extension?_append (h : '.' ∉ ext) :
    extension? (stem ++ '.' :: ext) = if stem = [] then none else some ext := by
  have htake : ((stem ++ '.' :: ext).reverse.takeWhile (· ≠ '.')).reverse = ext := by
    have hall : ∀ c ∈ ext.reverse, decide (c ≠ '.') = true := by
      intro c hc
      have hne : c ≠ '.' := fun heq ↦ h (heq ▸ List.mem_reverse.1 hc)
      simpa using hne
    have hrev : (stem ++ '.' :: ext).reverse = ext.reverse ++ '.' :: stem.reverse := by simp
    rw [hrev, List.takeWhile_append_of_pos hall, List.takeWhile_cons_of_neg (by simp),
      List.append_nil, List.reverse_reverse]
  rw [extension?]
  simp only [htake, List.length_append, List.length_cons]
  cases stem with
  | nil => simp
  | cons c stem => simp

/-- These extensions stand for scripts with types. -/
theorem hasTypes_of_typed (h : ext ∈ typedExtensions) (file : List Char) :
    ∃ d, ofFile? file ext = some d ∧ d.hasTypes = true := by
  have hext : ∃ d, ofExtension? (String.ofList ext) = some d ∧ d.hasTypes = true := by
    have hall : ∀ ext ∈ typedExtensions,
        ((ofExtension? (String.ofList ext)).any fun d ↦ d.hasTypes) = true := by decide
    exact (Option.any_eq_true _ _).1 (hall ext h)
  obtain ⟨d, hd, htypes⟩ := hext
  rw [ofFile?, hd]
  by_cases hdef : announcesDefinitions file ext = true
  · exact ⟨_, by rw [Option.map_some, if_pos hdef], rfl⟩
  · exact ⟨d, by rw [Option.map_some, if_neg hdef], htypes⟩

/-- A file whose name ends like that of a script with types. -/
theorem ofName_of_typed (hdir : IsDirectory dir) (hext : ext ∈ typedExtensions) (hstem : '/' ∉ stem)
    (hname : name.toList = dir ++ (stem ++ '.' :: ext)) :
    (stem ≠ [] → ∃ d, ofName name = .ok d ∧ d.hasTypes = true) ∧
      (stem = [] → ofName name = .error noExtension) := by
  obtain ⟨hplain, hslash, hne⟩ := plain_of_typed hext
  obtain ⟨c, rest, rfl⟩ := List.exists_cons_of_ne_nil hne
  have hc : c ≠ '.' := fun h ↦ hplain (h ▸ List.mem_cons_self)
  have hfile : fileName? name.toList = some (stem ++ '.' :: c :: rest) := by
    rw [hname]
    refine fileName?_append hdir ?_ (by simp) ?_ ?_
    · simpa [hstem] using hslash
    · cases stem <;> simp
    · rcases stem with _ | ⟨a, _ | ⟨b, stem⟩⟩ <;> simp [hc]
  rw [ofName, hfile]
  simp only [extension?_append hplain]
  constructor
  · intro hstem
    obtain ⟨d, hd, htypes⟩ := hasTypes_of_typed hext (stem ++ '.' :: c :: rest)
    refine ⟨d, ?_, htypes⟩
    rw [if_neg hstem, Option.bind_some, hd]
  · intro hstem
    rw [if_pos hstem, Option.bind_none]

end Dialect

/-! ## Taking the types out -/

open ScriptWorkers.Dialect

/-- A name that tells nothing is refused. -/
theorem strip_of_ofName_error {name : String} {e : StripError} (h : ofName name = .error e)
    (minify : Bool) (source : String) : TypeScript.strip minify source name = .error e := by
  rw [TypeScript.strip, h]
  rfl

/-- Once the dialect is known, the source can be to blame, but not the name. -/
theorem strip_ne_sourceType {name : String} {d : Dialect} (h : ofName name = .ok d) (minify : Bool)
    (source text : String) : TypeScript.strip minify source name ≠ .error (.sourceType text) := by
  intro heq
  rw [TypeScript.strip, h] at heq
  cases hparse : TypeScript.parse d source with
  | none =>
    simp only [bind, Except.bind, hparse] at heq
    cases heq
  | some parsed =>
    simp only [bind, Except.bind, hparse] at heq
    cases heq

/-- **A script that is told by its name to have types is stripped of them, unless its file name is
nothing but the ending.**  Whatever directories and dots the name has, its dialect is one with
types, and no source under that name is refused for the name, if and only if what follows its last
slash is none of `.ts`, `.mts` and `.cts`.  Under such a name every source is refused, so it does
not compile either. -/
theorem typed_names_have_types_iff (name : String) (h : isTypeScript name = true) :
    (((∃ d, Script.dialectOf name = .ok d ∧ d.hasTypes = true) ∧
        ∀ minify source text, TypeScript.strip minify source name ≠ .error (.sourceType text)) ↔
      lastPiece name.toList ∉ [".ts".toList, ".mts".toList, ".cts".toList]) ∧
    (lastPiece name.toList ∈ [".ts".toList, ".mts".toList, ".cts".toList] →
      (∀ minify source, TypeScript.strip minify source name = .error noExtension) ∧
        ∀ code, Script.compile code name = .failed) := by
  obtain ⟨front, ext, hext, hname⟩ := isTypeScript_iff.1 h
  obtain ⟨dir, stem, rfl, hdir, hstem⟩ := exists_directory front
  rw [List.append_assoc] at hname
  obtain ⟨htyped, hlone⟩ := ofName_of_typed hdir hext hstem hname
  have hlast : lastPiece name.toList = stem ++ '.' :: ext := by
    rw [hname]
    exact lastPiece_append hdir (by simpa [hstem] using (plain_of_typed hext).2.1)
  have hdialect : Script.dialectOf name = ofName name := if_pos h
  rw [hlast, mem_endings_iff hext, hdialect]
  refine ⟨⟨?_, fun hne ↦ ?_⟩, fun hnil ↦ ⟨?_, fun code ↦ ?_⟩⟩
  · rintro ⟨⟨d, hd, -⟩, -⟩ hnil
    rw [hlone hnil] at hd
    cases hd
  · obtain ⟨d, hd, htypes⟩ := htyped hne
    exact ⟨⟨d, hd, htypes⟩, strip_ne_sourceType hd⟩
  · exact strip_of_ofName_error (hlone hnil)
  · rw [Script.compile, hdialect, hlone hnil]

/-- Neither a directory that looks like a script nor dots all over the file name come in between. -/
theorem dotted_name_has_types :
    isTypeScript "lib.js/..v2.d.mts" = true ∧
      lastPiece "lib.js/..v2.d.mts".toList ∉ [".ts".toList, ".mts".toList, ".cts".toList] ∧
      (∃ d, Script.dialectOf "lib.js/..v2.d.mts" = .ok d ∧ d.hasTypes = true) ∧
      ∀ minify source text,
        TypeScript.strip minify source "lib.js/..v2.d.mts" ≠ .error (.sourceType text) := by
  have htyped : isTypeScript "lib.js/..v2.d.mts" = true := by decide
  have hlast : lastPiece "lib.js/..v2.d.mts".toList ∉ [".ts".toList, ".mts".toList,
      ".cts".toList] := by
    decide
  exact ⟨htyped, hlast, (typed_names_have_types_iff _ htyped).1.2 hlast⟩

/-- A script that is called nothing but `.ts` counts as one with types and is refused for its
name. -/
theorem bare_ending_is_refused :
    isTypeScript "lib/.ts" = true ∧
      TypeScript.strip false "let x: number = 1;" "lib/.ts" = .error noExtension ∧
      ∃ text, noExtension = .sourceType text := by
  have hname : ofName "lib/.ts" = .error noExtension := rfl
  exact ⟨by decide, strip_of_ofName_error hname false _, _, rfl⟩

end ScriptWorkers
