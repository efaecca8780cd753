import Mathlib.Data.List.Forall2
import Mathlib.Data.List.Nodup
import SchemaStructs.Proofs.Rust.Characters
import SchemaStructs.Proofs.Sorting
import SchemaStructs.Proofs.Text.Cutting

/-!
# Imports read back

Paths that are imported together stand under their parents, one line for each. A line is read back
as the path that it names or, where names are listed in braces, as those names after what stands
before the braces. Read back, the lines give the paths, each once: no two lines have a path in
common, since a path has one parent only, even if that is the parent of another path or itself a
path.
-/

namespace SchemaStructs.Rust

open Comparison Text

/-! ## Parents and names -/

/-- The path is cut at its last separator: no other name that is left behind a separator is
shorter. -/
structure IsSplit (path parent name : String) : Prop where
  path_eq : path = parent ++ "::" ++ name
  shortest : ∀ parent' name', path = parent' ++ "::" ++ name' →
    name.toList.length ≤ name'.toList.length

theorem toList_joined (s separator t : String) :
    (s ++ separator ++ t).toList = s.toList ++ separator.toList ++ t.toList := by
  rw [String.toList_append, String.toList_append]

/-- A path has one parent and one name. -/
theorem IsSplit.unique {path parent name parent' name' : String} (h : IsSplit path parent name)
    (h' : IsSplit path parent' name') : parent = parent' ∧ name = name' := by
  have hlist : parent.toList ++ "::".toList ++ name.toList = parent'.toList ++ "::".toList ++
      name'.toList := by
    rw [← toList_joined, ← toList_joined, ← h.path_eq, ← h'.path_eq]
  have hlength := Nat.le_antisymm (h.shortest _ _ h'.path_eq) (h'.shortest _ _ h.path_eq)
  obtain ⟨hparent, hname⟩ := List.append_inj' hlist hlength
  exact ⟨String.toList_inj.1 (List.append_cancel_right hparent), String.toList_inj.1 hname⟩

/-- A reversed path is cut at the first place where a separator stands. -/
theorem eq_of_cutReversed_eq {s name : List Char} {parent : Option (List Char)}
    (h : cutReversed s = (name, parent)) :
    (∀ above, parent = some above → s = name ++ ':' :: ':' :: above) ∧
      ∀ before above, s = before ++ ':' :: ':' :: above → parent.isSome = true ∧
        name.length ≤ before.length := by
  fun_induction cutReversed s generalizing name parent with
  | case1 =>
    cases h
    simp
  | case2 c =>
    cases h
    refine ⟨fun above habove => (by cases habove), fun before above hsplit => ?_⟩
    have hlength := congrArg List.length hsplit
    simp only [List.length_append, List.length_cons, List.length_nil] at hlength
    omega
  | case3 c d rest hseparator =>
    cases h
    rw [Bool.and_eq_true, beq_iff_eq, beq_iff_eq] at hseparator
    obtain ⟨rfl, rfl⟩ := hseparator
    simp
  | case4 c d rest hseparator name' parent' hcut ih =>
    cases h
    obtain ⟨hsplit, hshortest⟩ := ih hcut
    refine ⟨fun above habove => by rw [hsplit above habove, List.cons_append],
      fun before above heq => ?_⟩
    -- No cut is at the head, so every other cut is one of the rest too.
    cases before with
    | nil =>
      obtain ⟨rfl, hrest⟩ := List.cons.inj heq
      obtain ⟨rfl, -⟩ := List.cons.inj hrest
      simp at hseparator
    | cons b before =>
      obtain ⟨-, hrest⟩ := List.cons.inj heq
      obtain ⟨hsome, hle⟩ := hshortest before above hrest
      exact ⟨hsome, Nat.succ_le_succ hle⟩

/-- A path with a separator is split at the last one. -/
theorem isSplit_splitPath {path : String} (h : ∃ parent name, path = parent ++ "::" ++ name) :
    IsSplit path (splitPath path).1 (splitPath path).2 := by
  have hreverse : ∀ parent name : String, path = parent ++ "::" ++ name →
      path.toList.reverse = name.toList.reverse ++ ':' :: ':' :: parent.toList.reverse := by
    rintro parent name rfl
    rw [toList_joined]
    simp
  cases hcut : cutReversed path.toList.reverse with
  | mk name above =>
    obtain ⟨hsplit, hshortest⟩ := eq_of_cutReversed_eq hcut
    obtain ⟨parent', name', hpath⟩ := h
    obtain ⟨above, rfl⟩ := Option.isSome_iff_exists.1 (hshortest _ _ (hreverse _ _ hpath)).1
    have hparts : splitPath path = (.ofList above.reverse, .ofList name.reverse) := by
      simp only [splitPath, hcut, Option.getD_some]
    rw [hparts]
    constructor
    case path_eq =>
      have hlist := congrArg List.reverse (hsplit above rfl)
      refine String.toList_inj.1 ?_
      rw [List.reverse_reverse] at hlist
      rw [hlist, toList_joined]
      simp
    case shortest =>
      intro parent'' name'' hpath'
      simpa using (hshortest _ _ (hreverse _ _ hpath')).2

/-- The characters that have a meaning in a `use` line beside those of its paths. -/
def useMarks : List Char := ['\x7b', '\x7d', ',', ';', ' ']

/-- A path that can be imported has a separator, and no mark of a `use` line. -/
structure IsImportable (path : String) : Prop where
  separated : ∃ parent name, path = parent ++ "::" ++ name
  unmarked : AllChars (· ∉ useMarks) path

theorem IsImportable.isSplit_iff {path parent name : String} (h : IsImportable path) :
    IsSplit path parent name ↔ splitPath path = (parent, name) := by
  have hsplit := isSplit_splitPath h.separated
  constructor
  · intro hparts
    obtain ⟨hparent, hname⟩ := hsplit.unique hparts
    exact Prod.ext hparent hname
  · intro hparts
    rwa [hparts] at hsplit

/-! ## Reading a line -/

/-- The names listed in braces, with blanks before them. -/
def listedNames (list : List Char) : List (List Char) :=
  (splitAtEach ',' list).map (·.dropWhile (· == ' '))

/-- The paths between the keyword of a `use` line and its semicolon. -/
def bodyPaths? (body : List Char) : Option (List String) :=
  match cutFirst '\x7b' body with
  | (path, none) => some [.ofList path]
  | (start, some rest) =>
    ("\x7d".toList.isSuffixOf? rest).map fun list => (listedNames list).map fun name =>
      .ofList (start ++ name)

/-- The paths that a `use` line brings in. -/
def usedPaths? (line : String) : Option (List String) :=
  ("use ".toList.isPrefixOf? line.toList).bind fun rest =>
    (";".toList.isSuffixOf? rest).bind bodyPaths?

theorem usedPaths?_of_toList_eq {line : String} {body : List Char}
    (h : line.toList = "use ".toList ++ (body ++ ";".toList)) :
    usedPaths? line = bodyPaths? body := by
  have hkeyword : "use ".toList.isPrefixOf? line.toList = some (body ++ ";".toList) :=
    List.isPrefixOf?_eq_some_iff_append_eq.2 h.symm
  have hend : ";".toList.isSuffixOf? (body ++ ";".toList) = some body :=
    List.isSuffixOf?_eq_some_iff_append_eq.2 rfl
  rw [usedPaths?, hkeyword, Option.bind_some, hend, Option.bind_some]

theorem dropWhile_blank_of_not_mem {name : List Char} (h : ' ' ∉ name) :
    name.dropWhile (· == ' ') = name := by
  cases name with
  | nil => rfl
  | cons c name =>
    rw [List.dropWhile_cons_of_neg]
    rw [beq_iff_eq]
    rintro rfl
    exact h List.mem_cons_self

theorem listedNames_cons_blank (list : List Char) :
    listedNames (' ' :: list) = listedNames list := by
  rw [listedNames, listedNames, splitAtEach, if_neg (by decide)]
  cases hparts : splitAtEach ',' list with
  | nil => exact absurd hparts (splitAtEach_ne_nil ',' list)
  | cons part parts => simp

/-- Names without commas and blanks are read back from their list. -/
theorem listedNames_intercalate {names : List String} (hne : names ≠ [])
    (h : ∀ name ∈ names, ',' ∉ name.toList ∧ ' ' ∉ name.toList) :
    listedNames (", ".intercalate names).toList = names.map String.toList := by
  induction names with
  | nil => exact absurd rfl hne
  | cons name rest ih =>
    obtain ⟨⟨hcomma, hblank⟩, hrest⟩ := List.forall_mem_cons.1 h
    have hfirst := dropWhile_blank_of_not_mem hblank
    cases rest with
    | nil => rw [String.intercalate_singleton, listedNames, splitAtEach_of_not_mem hcomma,
        List.map_singleton, hfirst, List.map_singleton]
    | cons next rest =>
      have hlist : (", ".intercalate (name :: next :: rest)).toList =
          name.toList ++ ',' :: ' ' :: (", ".intercalate (next :: rest)).toList := by
        rw [String.intercalate_cons_of_ne_nil (by simp), toList_joined]
        simp
      rw [hlist, listedNames, splitAtEach_append_cons, splitAtEach_of_not_mem hcomma,
        List.map_append, List.map_singleton, hfirst]
      exact congrArg (name.toList :: ·) ((listedNames_cons_blank _).trans (ih (by simp) hrest))

/-- Both forms of a line, with braces and without, are read back as the names after their parent. -/
theorem usedPaths?_useLine {parent : String} {names : List String} (hne : names ≠ [])
    (hparent : AllChars (· ∉ useMarks) parent)
    (hnames : ∀ name ∈ names, AllChars (· ∉ useMarks) name) :
    usedPaths? (useLine parent names) = some (names.map fun name => parent ++ "::" ++ name) := by
  have hstart : '\x7b' ∉ parent.toList ++ "::".toList := by
    rw [List.mem_append, not_or]
    exact ⟨fun hmem => hparent _ hmem (by decide), by decide⟩
  have hread : ∀ name : String, String.ofList (parent.toList ++ "::".toList ++ name.toList) =
      parent ++ "::" ++ name :=
    fun name => by rw [← toList_joined, String.ofList_toList]
  unfold useLine
  split
  case h_1 name =>
    have hline : (s!"use {parent}::{name};").toList =
        "use ".toList ++ (parent.toList ++ "::".toList ++ name.toList ++ ";".toList) := by
      simp [toString]
    have hpath : '\x7b' ∉ parent.toList ++ "::".toList ++ name.toList := by
      rw [List.mem_append, not_or]
      exact ⟨hstart, fun hmem => hnames name List.mem_cons_self _ hmem (by decide)⟩
    rw [usedPaths?_of_toList_eq hline, bodyPaths?, cutFirst_of_not_mem hpath]
    simp only [hread, List.map_singleton]
  case h_2 =>
    have hline (list : String) : (s!"use {parent}::\x7b{list}\x7d;").toList =
        "use ".toList ++ (parent.toList ++ "::".toList ++
          '\x7b' :: (list.toList ++ "\x7d".toList) ++ ";".toList) := by
      simp [toString]
    have hlist := listedNames_intercalate hne fun name hname =>
      ⟨fun hmem => hnames name hname _ hmem (by decide),
        fun hmem => hnames name hname _ hmem (by decide)⟩
    have hclosed (list : List Char) : "\x7d".toList.isSuffixOf? (list ++ "\x7d".toList) =
        some list :=
      List.isSuffixOf?_eq_some_iff_append_eq.2 rfl
    rw [usedPaths?_of_toList_eq (hline _), bodyPaths?, cutFirst_append_cons hstart]
    simp only [hclosed, Option.map_some, hlist, List.map_map, Function.comp_def, hread]

theorem mapM_usedPaths? {α : Type} {xs : List α} {line : α → String} {used : α → List String}
    (h : ∀ x ∈ xs, usedPaths? (line x) = some (used x)) :
    (xs.map line).mapM usedPaths? = some (xs.map used) := by
  induction xs with
  | nil => rfl
  | cons x rest ih =>
    obtain ⟨hx, hrest⟩ := List.forall_mem_cons.1 h
    rw [List.map_cons, List.mapM_cons, hx, ih hrest]
    rfl

/-- The paths that the lines bring in, line by line. -/
def importedPaths? (lines : List String) : Option (List String) :=
  (lines.mapM usedPaths?).map List.flatten

/-! ## Lines and paths -/

/-- The parents in the order of the lines. -/
def importParents (paths : List String) : List String :=
  sortedSet .text ((paths.map splitPath).map Prod.fst)

/-- The names under a parent in the order of its line. -/
def importNames (paths : List String) (parent : String) : List String :=
  sortedSet .text (((paths.map splitPath).filter (·.1 == parent)).map Prod.snd)

/-- The paths under a parent in the order of its line. -/
def pathsUnder (paths : List String) (parent : String) : List String :=
  (importNames paths parent).map fun name => parent ++ "::" ++ name

theorem groupImports_eq (paths : List String) :
    groupImports paths = (importParents paths).map fun parent =>
      useLine parent (importNames paths parent) :=
  rfl

variable {paths : List String}

theorem mem_importParents {parent : String} :
    parent ∈ importParents paths ↔ ∃ path ∈ paths, (splitPath path).1 = parent := by
  simp [importParents]

theorem mem_importNames {parent name : String} :
    name ∈ importNames paths parent ↔ ∃ path ∈ paths, splitPath path = (parent, name) := by
  simp [importNames, Prod.ext_iff, and_assoc]

/-- The line has the names of the paths that are under the parent, in ascending order and without
repetition. -/
def IsLineOf (paths : List String) (parent line : String) : Prop :=
  ∃ names : List String, names.Pairwise (Before text) ∧
    (∀ name, name ∈ names ↔ ∃ path ∈ paths, IsSplit path parent name) ∧
    usedPaths? line = some (names.map fun name => parent ++ "::" ++ name)

section Importable

variable (h : ∀ path ∈ paths, IsImportable path)

include h

theorem mem_importParents_iff {parent : String} :
    parent ∈ importParents paths ↔ ∃ path ∈ paths, ∃ name, IsSplit path parent name := by
  rw [mem_importParents]
  constructor
  · rintro ⟨path, hpath, rfl⟩
    exact ⟨path, hpath, (splitPath path).2, isSplit_splitPath (h path hpath).separated⟩
  · rintro ⟨path, hpath, name, hsplit⟩
    exact ⟨path, hpath, by rw [(h path hpath).isSplit_iff.1 hsplit]⟩

theorem mem_importNames_iff {parent name : String} :
    name ∈ importNames paths parent ↔ ∃ path ∈ paths, IsSplit path parent name := by
  rw [mem_importNames]
  exact exists_congr fun path => and_congr_right fun hpath => (h path hpath).isSplit_iff.symm

theorem allChars_parts {path parent name : String} (hpath : path ∈ paths)
    (hsplit : IsSplit path parent name) :
    AllChars (· ∉ useMarks) parent ∧ AllChars (· ∉ useMarks) name := by
  have hparts := allChars_splitPath (h path hpath).unmarked
  rwa [(h path hpath).isSplit_iff.1 hsplit] at hparts

/-- The line of a parent is read back as the paths with that parent. -/
theorem usedPaths?_line {parent : String} (hparent : parent ∈ importParents paths) :
    usedPaths? (useLine parent (importNames paths parent)) = some (pathsUnder paths parent) := by
  obtain ⟨path, hpath, name, hsplit⟩ := (mem_importParents_iff h).1 hparent
  refine usedPaths?_useLine (List.ne_nil_of_mem ((mem_importNames_iff h).2 ⟨path, hpath, hsplit⟩))
    (allChars_parts h hpath hsplit).1 fun name' hname' => ?_
  obtain ⟨path', hpath', hsplit'⟩ := (mem_importNames_iff h).1 hname'
  exact (allChars_parts h hpath' hsplit').2

theorem mem_pathsUnder {parent path : String} :
    path ∈ pathsUnder paths parent ↔ path ∈ paths ∧ ∃ name, IsSplit path parent name := by
  rw [pathsUnder, List.mem_map]
  constructor
  · rintro ⟨name, hname, rfl⟩
    obtain ⟨path, hpath, hsplit⟩ := (mem_importNames_iff h).1 hname
    rw [← hsplit.path_eq]
    exact ⟨hpath, name, hsplit⟩
  · rintro ⟨hpath, name, hsplit⟩
    exact ⟨name, (mem_importNames_iff h).2 ⟨path, hpath, hsplit⟩, hsplit.path_eq.symm⟩

/-- No path has two parents, so that none is in two lines. -/
theorem nodup_flatMap_pathsUnder : ((importParents paths).flatMap (pathsUnder paths)).Nodup := by
  rw [List.nodup_flatMap]
  constructor
  · intro parent _
    have hinjective : (fun name : String => parent ++ "::" ++ name).Injective :=
      fun _ _ heq => (String.append_right_inj _).1 heq
    exact (nodup_sortedSet text_linear _).map hinjective
  · refine (pairwise_sortedSet text_linear _).imp fun {parent parent'} hbefore path hpath hpath' =>
      ?_
    obtain ⟨-, name, hsplit⟩ := (mem_pathsUnder h).1 hpath
    obtain ⟨-, name', hsplit'⟩ := (mem_pathsUnder h).1 hpath'
    exact hbefore.2 (hsplit.unique hsplit').1

theorem mem_flatMap_pathsUnder {path : String} :
    path ∈ (importParents paths).flatMap (pathsUnder paths) ↔ path ∈ paths := by
  rw [List.mem_flatMap]
  constructor
  · rintro ⟨parent, -, hmem⟩
    exact ((mem_pathsUnder h).1 hmem).1
  · intro hpath
    have hsplit := isSplit_splitPath (h path hpath).separated
    exact ⟨(splitPath path).1, (mem_importParents_iff h).2 ⟨path, hpath, _, hsplit⟩,
      (mem_pathsUnder h).2 ⟨hpath, _, hsplit⟩⟩

end Importable

/-- Neither order nor repetition of the paths makes a difference. -/
theorem groupImports_eq_of_mem_iff {paths' : List String}
    (h : ∀ path, path ∈ paths' ↔ path ∈ paths) : groupImports paths' = groupImports paths := by
  have hparents : importParents paths' = importParents paths :=
    sortedSet_eq_of_mem_iff text_linear fun parent => by simp [h]
  have hnames (parent : String) : importNames paths' parent = importNames paths parent :=
    sortedSet_eq_of_mem_iff text_linear fun name => by simp [h]
  rw [groupImports_eq, groupImports_eq, hparents]
  exact List.map_congr_left fun parent _ => by rw [hnames]

/-- Read back, the lines give the paths, each once. There is one line for each parent, in ascending
order, with the names under it in ascending order. The lines are the same for all lists of the same
paths. -/
theorem groupImports_expands (h : ∀ path ∈ paths, IsImportable path) :
    (∃ imported, importedPaths? (groupImports paths) = some imported ∧ imported.Nodup ∧
      ∀ path, path ∈ imported ↔ path ∈ paths) ∧
    (∃ parents : List String, parents.Pairwise (Before text) ∧
      (∀ parent, parent ∈ parents ↔ ∃ path ∈ paths, ∃ name, IsSplit path parent name) ∧
      List.Forall₂ (IsLineOf paths) parents (groupImports paths)) ∧
    ∀ paths' : List String, (∀ path, path ∈ paths' ↔ path ∈ paths) →
      groupImports paths' = groupImports paths := by
  have hread := fun parent (hparent : parent ∈ importParents paths) => usedPaths?_line h hparent
  refine ⟨⟨(importParents paths).flatMap (pathsUnder paths), ?imported, nodup_flatMap_pathsUnder h,
      fun _ => mem_flatMap_pathsUnder h⟩,
    ⟨importParents paths, pairwise_sortedSet text_linear _, fun _ => mem_importParents_iff h,
      ?lines⟩,
    fun _ => groupImports_eq_of_mem_iff⟩
  case imported =>
    rw [importedPaths?, groupImports_eq, mapM_usedPaths? hread, Option.map_some, List.flatMap_def]
  case lines =>
    rw [groupImports_eq, List.forall₂_map_right_iff, List.forall₂_same]
    exact fun parent hparent => ⟨importNames paths parent, pairwise_sortedSet text_linear _,
      fun _ => mem_importNames_iff h, hread parent hparent⟩

/-- A path and the parent of others, brought in twice and out of order. -/
def nestedPaths : List String :=
  ["uuid::Uuid", "chrono::naive::NaiveDate", "chrono::Utc", "chrono::naive", "chrono::DateTime",
    "chrono::naive"]

theorem nestedPaths_expand :
    (∀ path ∈ nestedPaths, IsImportable path) ∧
      groupImports nestedPaths =
        ["use chrono::\x7bDateTime, Utc, naive\x7d;", "use chrono::naive::NaiveDate;",
          "use uuid::Uuid;"] ∧
      ∃ imported, importedPaths? (groupImports nestedPaths) = some imported ∧ imported.Nodup ∧
        ∀ path, path ∈ imported ↔ path ∈ nestedPaths := by
  have hparts : ∀ path ∈ nestedPaths,
      path = (splitPath path).1 ++ "::" ++ (splitPath path).2 ∧
        AllChars (· ∉ useMarks) path := by decide
  have himportable : ∀ path ∈ nestedPaths, IsImportable path :=
    fun path hpath => ⟨⟨_, _, (hparts path hpath).1⟩, (hparts path hpath).2⟩
  exact ⟨himportable, by decide, (groupImports_expands himportable).1⟩

end SchemaStructs.Rust
