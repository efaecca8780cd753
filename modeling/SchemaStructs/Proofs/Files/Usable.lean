import SchemaStructs.Proofs.Files.Growth
import SchemaStructs.Proofs.Files.Staging
import SchemaStructs.Proofs.Success
import SchemaStructs.Run.Failure

/-!
# Targets that can be used

A publication whose target stands for a path, under which something can be looked up, ends well or
fails in a way that is reported. Any other fails in a way that is not.
-/

namespace SchemaStructs

namespace Text

theorem mem_of_mem_splitAtEach {separator c : Char} {s part : List Char}
    (hpart : part ∈ splitAtEach separator s) (hc : c ∈ part) : c ∈ s := by
  induction s generalizing part with
  | nil =>
    obtain rfl : part = [] := by simpa [splitAtEach] using hpart
    cases hc
  | cons d rest ih =>
    unfold splitAtEach at hpart
    split at hpart
    · rcases List.mem_cons.1 hpart with rfl | hpart
      · cases hc
      · exact List.mem_cons_of_mem d (ih hpart hc)
    split at hpart
    · rename_i first others hsplit
      rcases List.mem_cons.1 hpart with rfl | hpart
      · rcases List.mem_cons.1 hc with rfl | hc
        · exact List.mem_cons_self
        · exact List.mem_cons_of_mem d (ih (hsplit ▸ List.mem_cons_self) hc)
      · exact List.mem_cons_of_mem d (ih (hsplit ▸ List.mem_cons_of_mem first hpart) hc)
    · obtain rfl := List.mem_singleton.1 hpart
      obtain rfl := List.mem_singleton.1 hc
      exact List.mem_cons_self

end Text

namespace Files

/-! ## Null characters -/

theorem Path.hasNull_of_mem_components {name c : String} (hname : Path.hasNull name = false)
    (hc : c ∈ Path.components name) : Path.hasNull c = false := by
  obtain ⟨part, hpart, rfl⟩ := List.mem_map.1 (List.mem_filter.1 hc).1
  simp only [Path.hasNull, List.contains_eq_mem, decide_eq_false_iff_not,
    String.toList_ofList] at hname ⊢
  exact fun hnull => hname (Text.mem_of_mem_splitAtEach hpart hnull)

namespace FileTree

variable {tree : FileTree} {directory : Path} {components : List String} {links : Nat}

/-- Looking up fails for other reasons. -/
theorem walk_ne_nullCharacter : tree.walk links directory components ≠ .error .nullCharacter := by
  induction links using Nat.strongRecOn generalizing directory components with
  | ind links ihLinks =>
    induction components generalizing directory with
    | nil => simp
    | cons c rest ih =>
      rw [walk_cons]
      split
      · exact ih
      split
      · exact ih
      split
      · simp
      split
      · split <;> simp
      · split <;> simp
      · exact ih
      · cases links with
        | zero => simp
        | succ links => exact ihLinks links (Nat.lt_succ_self links)

theorem enterDirectories_ne_nullCharacter :
    (tree.enterDirectories links directory components).2 ≠ .error .nullCharacter := by
  induction components generalizing tree directory links with
  | nil => simp [enterDirectories]
  | cons c rest ih =>
    unfold enterDirectories
    dsimp only
    split
    · exact ih
    split
    · split
      · simp
      · exact ih
    · exact ih
    · simp
    · split
      · rename_i e hwalk
        rintro ⟨rfl⟩
        exact walk_ne_nullCharacter hwalk
      · simp
      · split
        · exact ih
        · simp

variable (hnull : ∀ c ∈ components, Path.hasNull c = false)

include hnull

theorem makeDirectories_ne_nullCharacter :
    (tree.makeDirectories directory components).2 ≠ .error .nullCharacter := by
  unfold makeDirectories
  split
  · rename_i hany
    obtain ⟨c, hc, hcnull⟩ := List.any_eq_true.1 hany
    rw [hnull c hc] at hcnull
    cases hcnull
  split
  · simp
  · exact enterDirectories_ne_nullCharacter

theorem writeFile_ne_nullCharacter (content : String) :
    (tree.writeFile directory components content).2 ≠ .error .nullCharacter := by
  unfold writeFile
  split
  · simp
  rename_i name hlast
  have hmade : (tree.makeDirectories directory components.dropLast).2 ≠ .error .nullCharacter :=
    makeDirectories_ne_nullCharacter fun c hc => hnull c ((List.dropLast_prefix _).subset hc)
  split
  · rename_i made e hmake
    rw [hmake] at hmade
    simpa using hmade
  rw [hnull name (List.mem_of_getLast? hlast), if_neg (by simp)]
  split
  · simp
  unfold writeInto
  split
  · rename_i e hwalk
    rintro ⟨rfl⟩
    exact walk_ne_nullCharacter hwalk
  · simp
  · split <;> simp

end FileTree

/-! ## Targets -/

namespace Publication

variable {tree tree' : FileTree} {working staging path : Path} {target : String} {files : FileSet}

theorem stageFiles_ne_nullCharacter (hnames : ∀ f ∈ files, Path.hasNull f.1 = false) :
    (stageFiles staging tree files).2 ≠ .error .nullCharacter := by
  induction files generalizing tree with
  | nil => simp [stageFiles]
  | cons f rest ih =>
    obtain ⟨hf, hrest⟩ := List.forall_mem_cons.1 hnames
    unfold stageFiles
    split
    · exact ih hrest
    · exact FileTree.writeFile_ne_nullCharacter (fun c => Path.hasNull_of_mem_components hf) f.2

/-- The target stands for a path, and no name on the way to it is too long to be looked up. -/
def IsUsable (tree : FileTree) (working : Path) (target : String) : Prop :=
  ∃ path, resolveTarget tree working target = .ok path ∧ ∃ replaceable,
    isReplaceable tree path = .ok replaceable

theorem report?_resolveTarget {e : PublicationError}
    (h : resolveTarget tree working target = .error e) :
    (Run.Failure.publication e).report? = none := by
  unfold resolveTarget at h
  split at h
  · cases h
    rfl
  split at h
  · cases h
  split at h
  · cases h
    rfl
  · cases h

/-- What stands at a usable target may be replaced or not; publishing there fails with a report. -/
theorem report?_publishAt (hnames : ∀ f ∈ files, Path.hasNull f.1 = false) {e : PublicationError}
    (h : publishAt tree path files = (tree', .error e)) :
    (Run.Failure.publication e).report? ≠ none ↔
      ∃ replaceable, isReplaceable tree path = .ok replaceable := by
  have hstaged : ∀ f ∈ stagedFiles files, Path.hasNull f.1 = false := by
    intro f hf
    rcases List.mem_append.1 hf with hf | hf
    · exact hnames f (mem_sortOn.1 hf)
    · obtain rfl := List.mem_singleton.1 hf
      decide
  unfold publishAt at h
  split at h
  · rename_i hreplaceable
    cases h
    simp [hreplaceable, Run.Failure.report?]
  · rename_i hreplaceable
    cases h
    simp [hreplaceable, Run.Failure.report?]
  rename_i hreplaceable
  simp only [hreplaceable, Except.ok.injEq, exists_eq', iff_true]
  split at h
  · cases h
    simp [Run.Failure.report?]
  dsimp only at h
  split at h
  · cases h
    simp [Run.Failure.report?]
  split at h
  · rename_i hstage
    exact absurd (congrArg Prod.snd hstage) (stageFiles_ne_nullCharacter hstaged)
  · cases h
    simp [Run.Failure.report?]
  split at h
  · cases h
    simp [Run.Failure.report?]
  · cases h

end Publication

open Publication

variable {tree tree' : FileTree} {working : Path} {target : String} {files : FileSet}

/-- A failed publication is reported exactly if the target is usable. -/
theorem report?_publish (hnames : ∀ f ∈ files, Path.hasNull f.1 = false) {e : PublicationError}
    (h : publish tree working target files = (tree', .error e)) :
    (Run.Failure.publication e).report? ≠ none ↔ IsUsable tree working target := by
  unfold publish at h
  cases hresolve : resolveTarget tree working target with
  | error e' =>
    rw [hresolve] at h
    cases h
    have hunusable : ¬ IsUsable tree working target := by
      rintro ⟨path, hpath, -⟩
      rw [hresolve] at hpath
      cases hpath
    simp [report?_resolveTarget hresolve, hunusable]
  | ok path =>
    rw [hresolve] at h
    dsimp only at h
    split at h
    · rename_i hpublish
      cases h
      rw [report?_publishAt hnames hpublish]
      constructor
      · exact fun hreplaceable => ⟨path, hresolve, hreplaceable⟩
      · rintro ⟨path', hpath', hreplaceable⟩
        rw [hresolve] at hpath'
        cases hpath'
        exact hreplaceable
    · cases h

/-- What is published is published at a usable target. -/
theorem isUsable_of_publish {written : List Path}
    (h : publish tree working target files = (tree', .ok written)) :
    IsUsable tree working target := by
  unfold publish at h
  split at h
  · cases h
  rename_i path hresolve
  refine ⟨path, hresolve, ?_⟩
  cases hreplaceable : isReplaceable tree path with
  | error e => simp [publishAt, hreplaceable] at h
  | ok replaceable => exact ⟨replaceable, rfl⟩

/-- Nothing is reported of a published target that cannot be resolved once more. -/
theorem report?_publishedTarget {e : PublicationError}
    (h : publishedTarget tree working target = .error e) :
    (Run.Failure.publication e).report? = none := by
  rcases bind_eq_error_iff.1 h with hresolve | ⟨path, -, h⟩
  · exact report?_resolveTarget hresolve
  · split at h
    · cases h
      rfl
    · cases h

end Files

end SchemaStructs
