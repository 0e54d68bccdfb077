import ScriptWorkers.CommandLine.Execute

/-!
# Where a script is

The command line splits the path of a script into a root and a name below it, and the loader puts
the two together again.  A path that something in a tree of files has is `Files.absolute` of a list
of names (`Files.canonical_eq_absolute`), so both are told in terms of names:

* `Path.locate_absolute`: the root is taken off name by name, and what is left is joined by slashes,
  with a slash for each backslash;
* `Path.bare_unpieces`: nothing in such a rest looks like a lead-in to the loader, because no name
  is empty or a dot;
* `Path.absolute_append`: joining the rest to the root gives the path back.

So only backslashes come in between: `located_path_resolves_iff`.
-/

namespace ScriptWorkers

namespace Path

variable {p cs : List Char} {ps above below : Spot}

/-- A name that something in a directory can have. -/
structure IsName (p : List Char) : Prop where
  ne_nil : p ≠ []
  no_slash : '/' ∉ p
  ne_dot : p ≠ ['.']
  ne_dots : p ≠ ['.', '.']

/-! ## Pieces -/

/-- Pieces are those of the library. -/
theorem cut_eq_splitOn (sep : Char) (cs : List Char) : cut sep cs = cs.splitOn sep := by
  induction cs with
  | nil => rfl
  | cons c cs ih =>
    rw [cut, ih, List.splitOn_cons_eq_if_modifyHead]
    cases h : cs.splitOn sep with
    | nil => exact absurd h (List.splitOn_ne_nil _ _)
    | cons p ps => by_cases hc : c = sep <;> simp [hc]

theorem unpieces_cons (hne : ps ≠ []) : unpieces (p :: ps) = p ++ '/' :: unpieces ps := by
  cases ps with
  | nil => exact absurd rfl hne
  | cons q ps => rfl

theorem unpieces_eq_intercalate (ps : Spot) : unpieces ps = ['/'].intercalate ps := by
  induction ps with
  | nil => rfl
  | cons p ps ih =>
    cases ps with
    | nil => simp [unpieces]
    | cons q ps =>
      rw [unpieces_cons (by simp), ih, List.intercalate_cons_cons, List.append_assoc,
        List.singleton_append]

/-- Pieces that are joined can be told apart again. -/
theorem pieces_unpieces (hne : ps ≠ []) (h : ∀ p ∈ ps, '/' ∉ p) : pieces (unpieces ps) = ps := by
  rw [pieces, cut_eq_splitOn, unpieces_eq_intercalate]
  exact List.splitOn_intercalate '/' h hne

theorem pieces_append_slash (h : '/' ∉ p) : pieces (p ++ '/' :: cs) = p :: pieces cs := by
  rw [pieces, pieces, cut_eq_splitOn, cut_eq_splitOn]
  exact List.splitOn_append_cons_self_of_not_mem h cs

theorem no_slash_of_mem_pieces : ∀ {cs : List Char}, ∀ p ∈ pieces cs, '/' ∉ p := by
  intro cs
  induction cs with
  | nil => simp [pieces, cut]
  | cons c cs ih =>
    intro p hp
    rw [pieces, cut_eq_splitOn, List.splitOn_cons_eq_if_modifyHead] at hp
    rw [pieces, cut_eq_splitOn] at ih
    cases h : cs.splitOn '/' with
    | nil => exact absurd h (List.splitOn_ne_nil _ _)
    | cons q qs =>
      rw [h] at hp ih
      by_cases hc : c = '/'
      · simp only [hc, beq_self_eq_true, if_true, List.mem_cons] at hp
        rcases hp with rfl | hp
        · exact List.not_mem_nil
        · exact ih p (List.mem_cons.2 hp)
      · simp only [beq_iff_eq, if_neg hc, List.modifyHead_cons, List.mem_cons] at hp
        rcases hp with rfl | hp
        · simp [Ne.symm hc, ih q]
        · exact ih p (List.mem_cons_of_mem q hp)

theorem unpieces_append (ha : above ≠ []) (hb : below ≠ []) :
    unpieces (above ++ below) = unpieces above ++ '/' :: unpieces below := by
  induction above with
  | nil => exact absurd rfl ha
  | cons p above ih =>
    cases above with
    | nil => exact unpieces_cons hb
    | cons q above =>
      rw [List.cons_append, unpieces_cons (by simp), unpieces_cons (by simp), ih (by simp),
        List.append_assoc, List.cons_append]

theorem mem_unpieces {c : Char} (hc : c ≠ '/') : c ∈ unpieces ps ↔ ∃ p ∈ ps, c ∈ p := by
  induction ps with
  | nil => simp [unpieces]
  | cons p ps ih =>
    cases ps with
    | nil => simp [unpieces]
    | cons q ps =>
      rw [unpieces_cons (by simp), List.mem_append, List.mem_cons, ih]
      simp [hc]

/-! ## Splitting -/

/-- The steps of an absolute path are its names. -/
theorem steps_absolute (h : ∀ p ∈ ps, IsName p) : steps (Files.absolute ps) = ps := by
  have hcut : pieces ([] ++ '/' :: unpieces ps) = [] :: pieces (unpieces ps) :=
    pieces_append_slash List.not_mem_nil
  rw [Files.absolute, steps, show '/' :: unpieces ps = [] ++ '/' :: unpieces ps from rfl, hcut]
  cases ps with
  | nil => rfl
  | cons p ps =>
    rw [pieces_unpieces (by simp) fun q hq ↦ (h q hq).no_slash]
    refine (List.filter_cons_of_neg (by simp)).trans (List.filter_eq_self.2 fun q hq ↦ ?_)
    simp [(h q hq).ne_nil, (h q hq).ne_dot]

theorem strip_append {α : Type} [DecidableEq α] (l m : List α) : strip l (l ++ m) = some m := by
  induction l with
  | nil => rfl
  | cons a l ih => simp [strip, ih]

/-- A script below the root is split into the root and the names that are left. -/
theorem locate_absolute {assets : Option (List Char)} (h : ∀ p ∈ above ++ below, IsName p)
    (hb : below ≠ [])
    (ha : assets = some (Files.absolute above) ∨ assets = none ∧ below.length = 1) :
    locate (Files.absolute (above ++ below)) assets =
      some (Files.absolute above, slashed (unpieces below)) := by
  have hroot : assets.getD (parent (Files.absolute (above ++ below))) = Files.absolute above := by
    rcases ha with rfl | ⟨rfl, hone⟩
    · rfl
    · obtain ⟨p, rfl⟩ := List.length_eq_one_iff.1 hone
      show '/' :: unpieces _ = _
      rw [steps_absolute h, List.dropLast_concat, Files.absolute]
  have habove : ∀ p ∈ above, IsName p := fun p hp ↦ h p (List.mem_append_left _ hp)
  rw [locate, if_neg (by simp [steps_absolute h, hb])]
  simp only [hroot, steps_absolute h, steps_absolute habove, strip_append, Option.map_some]

/-! ## Putting together -/

theorem dropLead_eq_self (lead : List Char) (h : ¬ lead <+: cs) : dropLead lead cs = cs :=
  if_neg (by simpa using h)

theorem isAbsolute_iff : isAbsolute cs = true ↔ ∃ rest, cs = '/' :: rest := by
  constructor
  · intro h
    unfold isAbsolute at h
    split at h
    · exact ⟨_, rfl⟩
    · cases h
  · rintro ⟨rest, rfl⟩
    rfl

section Names

variable (hb : below ≠ []) (h : ∀ p ∈ below, IsName p)
include hb h

/-- A rest is a relative path. -/
theorem isAbsolute_unpieces : isAbsolute (unpieces below) = false := by
  rw [← Bool.not_eq_true, isAbsolute_iff]
  rintro ⟨rest, hrest⟩
  have hp := pieces_unpieces hb fun p hp ↦ (h p hp).no_slash
  have hempty : [] ∈ below := by
    rw [← hp, hrest, show '/' :: rest = [] ++ '/' :: rest from rfl,
      pieces_append_slash List.not_mem_nil]
    exact List.mem_cons_self
  exact (h [] hempty).ne_nil rfl

/-- No name is empty or a dot, so the loader finds nothing to take off. -/
theorem bare_unpieces : bare (unpieces below) = unpieces below := by
  have hp := pieces_unpieces hb fun p hp ↦ (h p hp).no_slash
  have hscheme : ¬ "file://".toList <+: unpieces below := by
    rintro ⟨rest, hrest⟩
    have hcut : pieces ("file:".toList ++ '/' :: ([] ++ '/' :: rest)) =
        "file:".toList :: [] :: pieces rest := by
      rw [pieces_append_slash (by decide), pieces_append_slash List.not_mem_nil]
    have hempty : [] ∈ below := by
      rw [← hp, ← hrest]
      show [] ∈ pieces ("file:".toList ++ '/' :: ([] ++ '/' :: rest))
      rw [hcut]
      simp
    exact (h [] hempty).ne_nil rfl
  have hdot : ¬ "./".toList <+: unpieces below := by
    rintro ⟨rest, hrest⟩
    have hmem : ['.'] ∈ below := by
      rw [← hp, ← hrest]
      show ['.'] ∈ pieces (['.'] ++ '/' :: rest)
      rw [pieces_append_slash (by decide)]
      exact List.mem_cons_self
    exact (h ['.'] hmem).ne_dot rfl
  rw [bare, dropLead_eq_self _ hscheme, dropLead_eq_self _ hdot]

end Names

theorem getLast?_absolute (h : ∀ p ∈ above, IsName p) (ha : above ≠ []) :
    (Files.absolute above).getLast? ≠ some '/' := by
  obtain ⟨front, last, rfl⟩ := List.eq_nil_or_concat above |>.resolve_left ha
  have hname := h last (by simp)
  have hlast : (Files.absolute (front ++ [last])).getLast? = last.getLast? := by
    rw [Files.absolute]
    cases front with
    | nil => simp [unpieces, List.getLast?_cons, List.getLast?_eq_some_getLast hname.ne_nil]
    | cons p front =>
      rw [unpieces_append (by simp) (by simp)]
      simp [unpieces, List.getLast?_cons, List.getLast?_append,
        List.getLast?_eq_some_getLast hname.ne_nil]
  rw [show front.concat last = front ++ [last] by simp, hlast]
  exact fun hc ↦ hname.no_slash (List.mem_of_getLast? hc)

/-- Joining what is below to the root is the path of both. -/
theorem absolute_append (h : ∀ p ∈ above ++ below, IsName p) (hb : below ≠ []) :
    join (Files.absolute above) (unpieces below) = Files.absolute (above ++ below) := by
  have hbelow : ∀ p ∈ below, IsName p := fun p hp ↦ h p (List.mem_append_right _ hp)
  rw [join, isAbsolute_unpieces hb hbelow, if_neg Bool.false_ne_true]
  by_cases ha : above = []
  · subst ha
    rfl
  · have hlast := getLast?_absolute (fun p hp ↦ h p (List.mem_append_left _ hp)) ha
    rw [if_neg (by simpa [Files.absolute] using hlast), Files.absolute, Files.absolute,
      unpieces_append ha hb]
    rfl

/-- Of two relative paths below a root only one leads to a place. -/
theorem join_inj {root a b : List Char} (ha : isAbsolute a = false) (hb : isAbsolute b = false)
    (h : join root a = join root b) : a = b := by
  rw [join, join, ha, hb, if_neg Bool.false_ne_true, if_neg Bool.false_ne_true] at h
  split at h
  · exact List.append_cancel_left h
  · exact (List.cons.inj (List.append_cancel_left h)).2

theorem not_mem_slashed (cs : List Char) : '\\' ∉ slashed cs := by
  rw [slashed, List.mem_map]
  rintro ⟨c, -, hc⟩
  split at hc
  · exact absurd hc (by decide)
  · rename_i hne
    exact hne hc

/-- Without backslashes nothing is replaced. -/
theorem slashed_eq_self (h : '\\' ∉ cs) : slashed cs = cs := by
  refine (List.map_congr_left fun c hc ↦ if_neg ?_).trans (List.map_id cs)
  rintro rfl
  exact h hc

theorem dropLead_sublist (lead cs : List Char) : (dropLead lead cs).Sublist cs := by
  rw [dropLead]
  split
  · exact List.drop_sublist _ cs
  · exact List.Sublist.refl cs

theorem bare_sublist (cs : List Char) : (bare cs).Sublist cs :=
  (dropLead_sublist _ _).trans (dropLead_sublist _ cs)

/-- The loader gets back to the path unless a backslash has become a slash. -/
theorem join_bare_slashed_iff (h : ∀ p ∈ above ++ below, IsName p) (hb : below ≠ []) :
    join (Files.absolute above) (bare (slashed (unpieces below))) =
      Files.absolute (above ++ below) ↔
      ∀ p ∈ below, '\\' ∉ p := by
  have hbelow : ∀ p ∈ below, IsName p := fun p hp ↦ h p (List.mem_append_right _ hp)
  have hmem : '\\' ∈ unpieces below ↔ ∃ p ∈ below, '\\' ∈ p := mem_unpieces (by decide)
  have hclean : '\\' ∉ bare (slashed (unpieces below)) := fun hc ↦
    not_mem_slashed _ ((bare_sublist _).mem hc)
  constructor
  · intro heq p hp hc
    have hin : '\\' ∈ unpieces below := hmem.2 ⟨p, hp, hc⟩
    rw [← absolute_append h hb] at heq
    cases habs : isAbsolute (bare (slashed (unpieces below))) with
    | false =>
      rw [join_inj habs (isAbsolute_unpieces hb hbelow) heq] at hclean
      exact hclean hin
    | true =>
      -- the root has been displaced, and with it every backslash
      rw [join, habs, if_pos rfl] at heq
      rw [heq, absolute_append h hb, Files.absolute, List.mem_cons,
        mem_unpieces (by decide)] at hclean
      exact hclean (.inr ⟨p, List.mem_append_right _ hp, hc⟩)
  · intro hfree
    have hout : '\\' ∉ unpieces below := fun hc ↦ by
      obtain ⟨p, hp, hc⟩ := hmem.1 hc
      exact hfree p hp hc
    rw [slashed_eq_self hout, bare_unpieces hb hbelow, absolute_append h hb]

theorem resolve_absolute (root : String) (s : Spot) :
    resolve root (String.ofList (Files.absolute s)) = String.ofList (Files.absolute s) := by
  have hbare : bare (Files.absolute s) = Files.absolute s := by
    have hscheme : ¬ "file://".toList <+: Files.absolute s := by
      rintro ⟨rest, hrest⟩
      exact absurd (List.cons.inj hrest).1 (by decide)
    have hdot : ¬ "./".toList <+: Files.absolute s := by
      rintro ⟨rest, hrest⟩
      exact absurd (List.cons.inj hrest).1 (by decide)
    rw [bare, dropLead_eq_self _ hscheme, dropLead_eq_self _ hdot]
  have habs : isAbsolute (Files.absolute s) = true := rfl
  rw [resolve, String.toList_ofList, hbare, join, if_pos habs]

end Path

/-! ## Canonical paths -/

namespace Files

open ScriptWorkers.Path

variable {γ : Type} {t : Files γ}

/-- By induction on the pieces: what is passed on the way has a name. -/
theorem names_of_walk : ∀ {ps : List (List Char)} {here s : Spot}, t.walk here ps = .ok s →
    (∀ p ∈ here, IsName p) → (∀ p ∈ ps, '/' ∉ p) → ∀ p ∈ s, IsName p
  | [], here, s, h, hhere, _ => by
    cases h
    exact hhere
  | p :: rest, here, s, h, hhere, hps => by
    have hrest : ∀ q ∈ rest, '/' ∉ q := fun q hq ↦ hps q (List.mem_cons_of_mem p hq)
    rw [walk] at h
    split at h
    · split at h
      · exact names_of_walk h hhere hrest
      · rename_i hstay
        split at h
        · exact names_of_walk h (fun q hq ↦ hhere q (List.dropLast_subset here hq)) hrest
        · rename_i hup
          split at h
          · cases h
          · split at h
            · refine names_of_walk h (fun q hq ↦ ?_) hrest
              rcases List.mem_append.1 hq with hq | hq
              · exact hhere q hq
              · obtain rfl := List.mem_singleton.1 hq
                simp only [Bool.or_eq_true, List.isEmpty_iff, beq_iff_eq, not_or] at hstay hup
                exact ⟨hstay.1, hps q List.mem_cons_self, hstay.2, hup⟩
            · cases h
    · cases h

/-- The paths that things in a tree have are made of names. -/
theorem canonical_eq_absolute {working : Spot} {path c : List Char}
    (hw : ∀ p ∈ working, IsName p) (h : t.canonical working path = .ok c) :
    ∃ s, c = absolute s ∧ ∀ p ∈ s, IsName p := by
  rw [canonical] at h
  cases hf : t.find working path with
  | error e =>
    rw [hf] at h
    cases h
  | ok s =>
    rw [hf] at h
    cases h
    refine ⟨s, rfl, ?_⟩
    rw [find] at hf
    split at hf
    · cases hf
    · split at hf
      · cases hf
      · split at hf
        · cases hf
        · refine names_of_walk hf (fun p hp ↦ ?_) no_slash_of_mem_pieces
          split at hp
          · cases hp
          · exact hw p hp

end Files

/-! ## Both together -/

open ScriptWorkers.Path ScriptWorkers.Files

/-- Names that stand for the same path are names of the same script. -/
theorem Loader.load_congr {root id id' : String} (working : Spot) (tree : Files Contents)
    (h : resolve root id = resolve root id') :
    (Loader.files root working tree).load id = (Loader.files root working tree).load id' := by
  dsimp only [Loader.load]
  rw [h]

/-- What the command line runs is what it has located. -/
theorem CommandLine.run_of_located {files : Files Contents} {working : Spot} {script : String}
    {dir : Option String} {s root id : List Char} {assets : Option (List Char)}
    (settings : Settings) (hscript : files.canonical working script.toList = .ok s)
    (hdir : (dir.mapM fun a ↦ files.canonical working a.toList) = .ok assets)
    (h : locate s assets = some (root, id)) :
    run files working script dir settings =
      runBelow files working settings (String.ofList root) (String.ofList id) := by
  simp only [run, hscript, hdir, h]

/-- **The command line and the loader agree on which file a script is, up to backslashes.**  The
paths that things in a tree of files have are lists of names.  Take such a path of a script, and as
the root the directory it is in or another one above it that is given.  Then the loader resolves the
name that the script gets to that very path if and only if no name below the root holds a backslash.
The command runs the script of that name below that root, and without backslashes this loads what
the path itself does. -/
theorem located_path_resolves_iff (files : Files Contents) (working : Spot)
    (hworking : ∀ p ∈ working, IsName p) :
    (∀ path c, files.canonical working path = .ok c → ∃ s, c = absolute s ∧ ∀ p ∈ s, IsName p) ∧
    ∀ (above below : Spot) (assets : Option (List Char)), (∀ p ∈ above ++ below, IsName p) →
      below ≠ [] → (assets = some (absolute above) ∨ assets = none ∧ below.length = 1) →
      ∃ id, locate (absolute (above ++ below)) assets = some (absolute above, id) ∧
        (resolve (String.ofList (absolute above)) (String.ofList id) =
          String.ofList (absolute (above ++ below)) ↔ ∀ p ∈ below, '\\' ∉ p) ∧
        ∀ (script : String) (dir : Option String) (settings : Settings),
          files.canonical working script.toList = .ok (absolute (above ++ below)) →
          (dir.mapM fun a ↦ files.canonical working a.toList) = .ok assets →
          CommandLine.run files working script dir settings =
            CommandLine.runBelow files working settings (String.ofList (absolute above))
              (String.ofList id) ∧
          ((∀ p ∈ below, '\\' ∉ p) →
            (Loader.files (String.ofList (absolute above)) working files).load (String.ofList id) =
              (Loader.files (String.ofList (absolute above)) working files).load
                (String.ofList (absolute (above ++ below)))) := by
  refine ⟨fun path c h ↦ canonical_eq_absolute hworking h,
    fun above below assets hnames hbelow hassets ↦ ?_⟩
  have hlocate := locate_absolute hnames hbelow hassets
  have hiff : resolve (String.ofList (absolute above)) (String.ofList (slashed (unpieces below))) =
      String.ofList (absolute (above ++ below)) ↔ ∀ p ∈ below, '\\' ∉ p := by
    rw [resolve, String.toList_ofList, String.toList_ofList, String.ofList_inj]
    exact join_bare_slashed_iff hnames hbelow
  refine ⟨slashed (unpieces below), hlocate, hiff,
    fun script dir settings hscript hdir ↦ ⟨?_, fun hfree ↦ ?_⟩⟩
  · exact CommandLine.run_of_located settings hscript hdir hlocate
  · refine Loader.load_congr working files ?_
    rw [hiff.2 hfree, resolve_absolute]

/-- A tree with a script two directories down. -/
def library : Files Contents :=
  ⟨[(["srv".toList, "lib".toList, "a.js".toList], some (.program [.str "a"]))]⟩

/-- The script is found from the upper directory. -/
theorem library_script_found :
    (∃ s, "/srv/lib/a.js".toList = absolute s ∧ ∀ p ∈ s, IsName p) ∧
      resolve "/srv" "lib/a.js" = "/srv/lib/a.js" ∧
      (Loader.files "/srv" ["srv".toList] library).load "lib/a.js" =
        (Loader.files "/srv" ["srv".toList] library).load "/srv/lib/a.js" := by
  have hcheck : ∀ p ∈ ["srv".toList, "lib".toList, "a.js".toList],
      p ≠ [] ∧ '/' ∉ p ∧ p ≠ ['.'] ∧ p ≠ ['.', '.'] := by decide
  have hnames : ∀ p ∈ ["srv".toList] ++ ["lib".toList, "a.js".toList], IsName p := fun p hp ↦
    ⟨(hcheck p hp).1, (hcheck p hp).2.1, (hcheck p hp).2.2.1, (hcheck p hp).2.2.2⟩
  have hfree : ∀ p ∈ ["lib".toList, "a.js".toList], '\\' ∉ p := by decide
  have hfound : library.canonical ["srv".toList] "lib/a.js".toList = .ok "/srv/lib/a.js".toList :=
    rfl
  obtain ⟨hpaths, hlocated⟩ := located_path_resolves_iff library ["srv".toList] fun p hp ↦
    hnames p (List.mem_append_left _ hp)
  obtain ⟨id, hid, hiff, hrun⟩ := hlocated ["srv".toList] ["lib".toList, "a.js".toList]
    (some "/srv".toList) hnames (by decide) (.inl rfl)
  obtain rfl : "lib/a.js".toList = id := by
    have hname : locate "/srv/lib/a.js".toList (some "/srv".toList) =
      some ("/srv".toList, "lib/a.js".toList) := by decide
    exact congrArg Prod.snd (Option.some.inj (hname.symm.trans hid))
  refine ⟨hpaths _ _ hfound, hiff.2 hfree, ?_⟩
  exact (hrun "lib/a.js" (some "/srv") {} hfound rfl).2 hfree

/-- Two scripts whose paths differ in nothing but a backslash. -/
def lookalikes : Files Contents :=
  ⟨[(["a\\b.js".toList], some (.program [.str "given"])),
    (["a".toList, "b.js".toList], some (.program [.str "other"]))]⟩

/-- A script with a backslash in its name is taken for one in a directory. -/
theorem backslash_misleads :
    lookalikes.canonical [] "a\\b.js".toList = .ok "/a\\b.js".toList ∧
      locate "/a\\b.js".toList none = some ("/".toList, "a/b.js".toList) ∧
      resolve "/" "a/b.js" ≠ "/a\\b.js" ∧
      (Loader.files "/" [] lookalikes).load "/a\\b.js" = .ok (.program [.str "given"]) ∧
      (Loader.files "/" [] lookalikes).load "a/b.js" = .ok (.program [.str "other"]) :=
  ⟨rfl, by decide, by decide, rfl, rfl⟩

end ScriptWorkers
