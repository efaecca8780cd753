import Mathlib.Data.List.Perm.Subperm
import SchemaStructs.Files.Publication
import SchemaStructs.Proofs.Files.Creation

/-!
# Staged files

A staging directory is made under a name that is not taken. When all files are written it holds
exactly them and the directories they need, and nothing outside of it has changed.
-/

namespace SchemaStructs.Files

open FileTree

/-! ## Names of files -/

/-- A relative name without empty components and dots. -/
def IsFileName (name : String) : Prop :=
  ∀ c ∈ (Text.splitAtEach '/' name.toList).map String.ofList, c ≠ "" ∧ c ≠ "." ∧ c ≠ ".."

instance (name : String) : Decidable (IsFileName name) :=
  inferInstanceAs (Decidable (∀ c ∈ _, _))

namespace IsFileName

variable {name name' : String}

theorem components_eq (h : IsFileName name) :
    Path.components name = (Text.splitAtEach '/' name.toList).map String.ofList := by
  apply List.filter_eq_self.2
  intro c hc
  simp [(h c hc).1, (h c hc).2.1]

theorem noDots (h : IsFileName name) : ∀ c ∈ Path.components name, c ≠ "." ∧ c ≠ ".." := by
  intro c hc
  rw [h.components_eq] at hc
  exact (h c hc).2

theorem isAbsolute_eq_false (h : IsFileName name) : Path.isAbsolute name = false := by
  unfold Path.isAbsolute
  cases hname : name.toList with
  | nil => rfl
  | cons c rest =>
    have hc : c ≠ '/' := by
      rintro rfl
      exact (h "" (by simp [hname, Text.splitAtEach])).1 rfl
    simpa using hc

/-- Different names have different components. -/
theorem eq_of_components_eq (h : IsFileName name) (h' : IsFileName name')
    (he : Path.components name = Path.components name') : name = name' := by
  rw [h.components_eq, h'.components_eq] at he
  have hsplit : Text.splitAtEach '/' name.toList = Text.splitAtEach '/' name'.toList :=
    List.map_injective_iff.2 (fun _ _ hs => String.ofList_injective hs) he
  rw [← String.toList_inj, ← Text.intercalate_splitAtEach '/' name.toList, hsplit,
    Text.intercalate_splitAtEach]

end IsFileName

namespace FileTree

theorem not_append_singleton_isPrefix (p : Path) (c : String) : ¬ p ++ [c] <+: p := by
  intro h
  have hlength := h.length_le
  rw [List.length_append, List.length_singleton] at hlength
  omega

/-! ## Trees that hold files -/

/-- Below a path there are exactly the given files and the directories they need. -/
structure Holds (tree : FileTree) (path : Path) (files : FileSet) : Prop where
  root : tree.at? path = some .directory
  file : ∀ f ∈ files, tree.at? (path ++ Path.components f.1) = some (.file f.2)
  directory : ∀ f ∈ files, ∀ q, q <+: Path.components f.1 → q ≠ Path.components f.1 →
    tree.at? (path ++ q) = some .directory
  nothingElse : ∀ rest, rest ≠ [] → (∀ f ∈ files, ¬ rest <+: Path.components f.1) →
    tree.at? (path ++ rest) = none

namespace Holds

variable {tree tree' : FileTree} {path path' : Path} {files files' : FileSet}

/-- What stands at a path below one that holds files. -/
theorem at?_cases (h : Holds tree path files) (rest : Path) :
    (∃ f ∈ files, rest = Path.components f.1 ∧ tree.at? (path ++ rest) = some (.file f.2)) ∨
      tree.at? (path ++ rest) = some .directory ∨ tree.at? (path ++ rest) = none := by
  by_cases hrest : rest = []
  · subst hrest
    rw [List.append_nil]
    exact Or.inr (Or.inl h.root)
  by_cases hneeded : ∃ f ∈ files, rest <+: Path.components f.1
  · obtain ⟨f, hf, hinitial⟩ := hneeded
    by_cases he : rest = Path.components f.1
    · exact Or.inl ⟨f, hf, he, he ▸ h.file f hf⟩
    · exact Or.inr (Or.inl (h.directory f hf rest hinitial he))
  · refine Or.inr (Or.inr (h.nothingElse rest hrest ?_))
    intro f hf hinitial
    exact hneeded ⟨f, hf, hinitial⟩

theorem ne_link (h : Holds tree path files) (rest : Path) (text : String) :
    tree.at? (path ++ rest) ≠ some (.link text) := by
  rcases h.at?_cases rest with ⟨f, -, -, he⟩ | he | he <;> simp [he]

/-- What is held stands in a directory. -/
theorem at?_of_append_singleton (h : Holds tree path files) {rest : Path} {c : String}
    (hc : tree.at? (path ++ (rest ++ [c])) ≠ none) : tree.at? (path ++ rest) = some .directory := by
  by_cases hneeded : ∃ f ∈ files, rest ++ [c] <+: Path.components f.1
  · obtain ⟨f, hf, hinitial⟩ := hneeded
    refine h.directory f hf rest ((List.prefix_append _ _).trans hinitial) ?_
    rintro rfl
    exact not_append_singleton_isPrefix _ c hinitial
  · refine absurd (h.nothingElse _ (by simp) ?_) hc
    intro f hf hinitial
    exact hneeded ⟨f, hf, hinitial⟩

/-- The files say what stands at every path. -/
theorem at?_eq (h : Holds tree path files) (h' : Holds tree' path' files) (rest : Path) :
    tree.at? (path ++ rest) = tree'.at? (path' ++ rest) := by
  by_cases hrest : rest = []
  · subst hrest
    rw [List.append_nil, List.append_nil, h.root, h'.root]
  by_cases hneeded : ∃ f ∈ files, rest <+: Path.components f.1
  · obtain ⟨f, hf, hinitial⟩ := hneeded
    by_cases he : rest = Path.components f.1
    · rw [he, h.file f hf, h'.file f hf]
    · rw [h.directory f hf rest hinitial he, h'.directory f hf rest hinitial he]
  · have hnot : ∀ f ∈ files, ¬ rest <+: Path.components f.1 :=
      fun f hf hinitial => hneeded ⟨f, hf, hinitial⟩
    rw [h.nothingElse rest hrest hnot, h'.nothingElse rest hrest hnot]

theorem congr (h : Holds tree path files) (hmem : ∀ f, f ∈ files ↔ f ∈ files') :
    Holds tree path files' where
  root := h.root
  file f hf := h.file f ((hmem f).2 hf)
  directory f hf := h.directory f ((hmem f).2 hf)
  nothingElse rest hrest hnot := h.nothingElse rest hrest fun f hf => hnot f ((hmem f).1 hf)

/-- The same files are held where the same entries stand. -/
theorem move (h : Holds tree path files)
    (hsame : ∀ rest, tree'.at? (path' ++ rest) = tree.at? (path ++ rest)) :
    Holds tree' path' files where
  root := by simpa using (hsame []).trans (by simpa using h.root)
  file f hf := (hsame _).trans (h.file f hf)
  directory f hf q hq hne := (hsame q).trans (h.directory f hf q hq hne)
  nothingElse rest hrest hnot := (hsame rest).trans (h.nothingElse rest hrest hnot)

/-- One more file. Neither it nor a directory that it needs is an earlier file, and no earlier file
needs a directory in its place. -/
theorem write (h : Holds tree path files) {f : String × String}
    (hdistinct : ∀ g ∈ files, Path.components g.1 ≠ Path.components f.1)
    (hwrites : Writes tree tree' path (Path.components f.1) f.2) :
    Holds tree' path (files ++ [f]) := by
  -- A path on the way to the new file is a directory, before or after.
  have hway : ∀ q, q <+: Path.components f.1 → q ≠ Path.components f.1 →
      tree'.at? (path ++ q) = some .directory := by
    intro q hq hne
    by_cases hnil : q = []
    · subst hnil
      rw [List.append_nil, hwrites.other, h.root]
      intro q _ hq he
      simp [hq] at he
    · exact hwrites.made q hq hnil hne
  have hother : ∀ rest, (¬ rest <+: Path.components f.1 ∨ rest = []) →
      tree'.at? (path ++ rest) = tree.at? (path ++ rest) := by
    intro rest hrest
    apply hwrites.other
    intro q hq hne he
    obtain rfl := List.append_cancel_left he
    rcases hrest with hnot | hnil
    · exact hnot hq
    · exact hne hnil
  constructor
  case root => simpa using (hother [] (Or.inr rfl)).trans (by simpa using h.root)
  case file =>
    intro g hg
    rcases List.mem_append.1 hg with hg | hg
    · by_cases hinitial : Path.components g.1 <+: Path.components f.1
      · -- The directory that the new file needs would be an earlier file.
        by_cases hnil : Path.components g.1 = []
        · have hfile := h.file g hg
          rw [hnil, List.append_nil, h.root] at hfile
          cases hfile
        · have hfree := hwrites.free _ hinitial hnil (hdistinct g hg)
          rw [h.file g hg] at hfree
          simp at hfree
      · rw [hother _ (Or.inl hinitial), h.file g hg]
    · obtain rfl := List.mem_singleton.1 hg
      exact hwrites.written
  case directory =>
    intro g hg q hq hne
    rcases List.mem_append.1 hg with hg | hg
    · by_cases hinitial : q <+: Path.components f.1
      · by_cases he : q = Path.components f.1
        · exact absurd (he ▸ h.directory g hg q hq hne) hwrites.notDirectory
        · exact hway q hinitial he
      · rw [hother q (Or.inl hinitial), h.directory g hg q hq hne]
    · obtain rfl := List.mem_singleton.1 hg
      exact hway q hq hne
  case nothingElse =>
    intro rest hrest hnot
    have hf : ¬ rest <+: Path.components f.1 := hnot f (by simp)
    rw [hother rest (Or.inl hf), h.nothingElse rest hrest fun g hg => hnot g (by simp [hg])]

end Holds

end FileTree

namespace Publication

variable {tree tree' : FileTree}

/-! ## A run of writes -/

theorem stageFile_spec {staging : Path} {done : FileSet} {f : String × String}
    (hname : IsFileName f.1) (hholds : Holds tree staging done)
    (h : stageFile staging tree f = (tree', .ok ())) :
    Writes tree tree' staging (Path.components f.1) f.2 := by
  have hbase : fileBase staging f.1 = staging := by simp [fileBase, hname.isAbsolute_eq_false]
  rw [stageFile, hbase] at h
  exact writeFile_spec hname.noDots (fun q _ _ text => hholds.ne_link q text) h

/-- After all files are written the staging directory holds them, and the rest is as it was. -/
theorem stageFiles_spec {staging : Path} {done files : FileSet}
    (hnames : ∀ f ∈ files, IsFileName f.1)
    (hdistinct : ((done ++ files).map fun f => Path.components f.1).Nodup)
    (hholds : Holds tree staging done) (h : stageFiles staging tree files = (tree', .ok ())) :
    Holds tree' staging (done ++ files) ∧
      ∀ p, ¬ staging <+: p → tree'.at? p = tree.at? p := by
  induction files generalizing tree done with
  | nil =>
    cases h
    exact ⟨by simpa using hholds, fun _ _ => rfl⟩
  | cons f rest ih =>
    obtain ⟨hname, hnames⟩ := List.forall_mem_cons.1 hnames
    have hsplit : done ++ f :: rest = done ++ [f] ++ rest := by simp
    unfold stageFiles at h
    split at h
    · rename_i middle hstage
      have hwrites := stageFile_spec hname hholds hstage
      have hfresh : ∀ g ∈ done, Path.components g.1 ≠ Path.components f.1 := by
        intro g hg
        rw [List.map_append, List.nodup_append] at hdistinct
        exact hdistinct.2.2 _ (List.mem_map_of_mem hg) _ (by simp)
      rw [hsplit] at hdistinct ⊢
      obtain ⟨hholds', hother⟩ := ih hnames hdistinct (hholds.write hfresh hwrites) h
      refine ⟨hholds', fun p hp => ?_⟩
      rw [hother p hp, hwrites.other p]
      rintro q - - rfl
      exact hp (List.prefix_append _ _)
    · rename_i failed hfailed
      exact absurd h (hfailed _)

/-! ## Names that are not taken -/

theorem suffix_injective : Function.Injective suffix := by
  intro n m h
  have hvalue : ∀ k, Nat.ofDigitChars 10 (suffix k).toList 0 = k := by
    intro k
    have hzeros : ∀ z, Nat.ofDigitChars 10 (List.replicate z '0') 0 = 0 := by
      intro z
      induction z with
      | zero => rfl
      | succ z ih => simpa [List.replicate_succ, Nat.ofDigitChars] using ih
    rw [suffix, String.toList_ofList, Nat.ofDigitChars, List.foldl_append]
    show Nat.ofDigitChars 10 (Nat.toDigits 10 k) (Nat.ofDigitChars 10 (List.replicate _ '0') 0) = k
    rw [hzeros, Nat.ofDigitChars_toDigits (by decide) (by decide)]
  rw [← hvalue n, h, hvalue m]

theorem toList_stagingName (name s : String) :
    (stagingName name s).toList = '.' :: (name.toList ++ ".staging-".toList ++ s.toList) := by
  simp [stagingName, toString, String.toList_append]

theorem toList_backupName (name s : String) :
    (backupName name s).toList = '.' :: (name.toList ++ ".previous-".toList ++ s.toList) := by
  simp [backupName, toString, String.toList_append]

theorem stagingName_inj {name s s' : String} (h : stagingName name s = stagingName name s') :
    s = s' := by
  rw [← String.toList_inj, toList_stagingName, toList_stagingName] at h
  exact String.toList_inj.1 (List.append_cancel_left (List.cons_injective h))

theorem backupName_inj {name s s' : String} (h : backupName name s = backupName name s') :
    s = s' := by
  rw [← String.toList_inj, toList_backupName, toList_backupName] at h
  exact String.toList_inj.1 (List.append_cancel_left (List.cons_injective h))

theorem stagingName_ne_backupName (name s s' : String) :
    stagingName name s ≠ backupName name s' := by
  intro h
  rw [← String.toList_inj, toList_stagingName, toList_backupName] at h
  have hrest := List.cons_injective h
  rw [List.append_assoc, List.append_assoc] at hrest
  have hcharacters := List.append_cancel_left hrest
  simp at hcharacters

theorem stagingName_ne (name s : String) : stagingName name s ≠ name := by
  intro h
  have hlength := congrArg (List.length ∘ String.toList) h
  simp [toList_stagingName] at hlength
  omega

theorem backupName_ne (name s : String) : backupName name s ≠ name := by
  intro h
  have hlength := congrArg (List.length ∘ String.toList) h
  simp [toList_backupName] at hlength
  omega

/-- The path lies in the staging directory or the backup of a suffix. -/
def Takes (parent : Path) (name s : String) (path : Path) : Prop :=
  parent ++ [stagingName name s] <+: path ∨ parent ++ [backupName name s] <+: path

theorem eq_of_append_singleton {parent path : Path} {a b : String} (ha : parent ++ [a] <+: path)
    (hb : parent ++ [b] <+: path) : a = b := by
  have hle : (parent ++ [a]).length ≤ (parent ++ [b]).length := by simp
  have he := (List.prefix_of_prefix_length_le ha hb hle).eq_of_length (by simp)
  simpa using he

/-- A path takes at most one suffix. -/
theorem Takes.unique {parent path : Path} {name s s' : String} (h : Takes parent name s path)
    (h' : Takes parent name s' path) : s = s' := by
  rcases h with h | h <;> rcases h' with h' | h'
  · exact stagingName_inj (eq_of_append_singleton h h')
  · exact absurd (eq_of_append_singleton h h') (stagingName_ne_backupName _ _ _)
  · exact absurd (eq_of_append_singleton h' h) (stagingName_ne_backupName _ _ _)
  · exact backupName_inj (eq_of_append_singleton h h')

theorem inside_eq_nil_iff {q : Path} : tree.inside q = [] ↔ ∀ e ∈ tree, ¬ q <+: e.1 := by
  simp [inside, List.filter_eq_nil_iff]

/-- The entries of a tree are fewer than the suffixes, so one of them is not taken. -/
theorem exists_not_taken (tree : FileTree) (parent : Path) (name : String) :
    ∃ n < tree.length + 1, ∀ e ∈ tree, ¬ Takes parent name (suffix n) e.1 := by
  by_contra hall
  push Not at hall
  have hchoice : ∀ n : Fin (tree.length + 1), ∃ e ∈ tree, Takes parent name (suffix n) e.1 :=
    fun n => hall n n.2
  choose taken hmem htakes using hchoice
  have hinjective : Function.Injective taken := by
    intro n m he
    have htakes' := htakes m
    rw [← he] at htakes'
    exact Fin.ext (suffix_injective ((htakes n).unique htakes'))
  have hsub : List.Subperm ((List.finRange (tree.length + 1)).map taken) tree := by
    apply ((List.nodup_finRange _).map hinjective).subperm
    intro e he
    obtain ⟨n, -, rfl⟩ := List.mem_map.1 he
    exact hmem n
  have hlength := hsub.length_le
  rw [List.length_map, List.length_finRange] at hlength
  omega

/-- Nothing stands in the staging directory or the backup of a fresh suffix. -/
theorem inside_freshSuffix (tree : FileTree) (parent : Path) (name : String) :
    tree.inside (parent ++ [stagingName name (freshSuffix tree parent name)]) = [] ∧
      tree.inside (parent ++ [backupName name (freshSuffix tree parent name)]) = [] := by
  obtain ⟨n, hn, hfree⟩ := exists_not_taken tree parent name
  unfold freshSuffix
  cases hfind : ((List.range (tree.length + 1)).map suffix).find? fun s =>
      (tree.inside (parent ++ [stagingName name s])).isEmpty &&
        (tree.inside (parent ++ [backupName name s])).isEmpty with
  | some s => simpa using List.find?_some hfind
  | none =>
    have htaken := List.find?_eq_none.1 hfind (suffix n)
      (List.mem_map_of_mem (List.mem_range.2 hn))
    refine absurd ?_ htaken
    simp only [Bool.and_eq_true, List.isEmpty_iff, inside_eq_nil_iff]
    exact ⟨fun e he h => hfree e he (Or.inl h), fun e he h => hfree e he (Or.inr h)⟩

theorem at?_of_inside_eq_nil {q p : Path} (h : tree.inside q = []) (hq : q ≠ []) (hp : q <+: p) :
    tree.at? p = none := by
  have hne : p ≠ [] := by
    rintro rfl
    exact hq (List.prefix_nil.1 hp)
  rw [at?_of_ne_nil hne, Entries.get?_eq_none_iff]
  intro hmem
  obtain ⟨e, he, rfl⟩ := List.mem_map.1 hmem
  exact inside_eq_nil_iff.1 h e he hp

end Publication

end SchemaStructs.Files
