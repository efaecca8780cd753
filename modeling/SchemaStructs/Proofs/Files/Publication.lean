import Mathlib.Logic.Relation
import SchemaStructs.Proofs.Files.Staging
import SchemaStructs.Proofs.Sorting

/-!
# What a publication leaves behind

After files are published the target holds exactly them, the directories they need and the marker.
Around it nothing has changed, except that the directories on the way to it are there. So what is
published before does not matter.
-/

namespace SchemaStructs.Files

open FileTree

namespace Publication

variable {tree tree' : FileTree} {path parent place staging backup p : Path} {files : FileSet}

/-! ## Directories that change places -/

/-- What may be replaced, if anything is there, is a directory. -/
theorem at?_of_isReplaceable (htree : tree.WellFormed) (hphysical : tree.Physical path)
    (h : isReplaceable tree path = .ok true) :
    tree.at? path = none ∨ tree.at? path = some .directory := by
  by_cases hnone : tree.at? path = none
  · exact Or.inl hnone
  right
  unfold isReplaceable at h
  rcases occupant?_of_physical htree hphysical hnone with hfound | ⟨path', hfailed⟩
  · rw [hfound] at h
    by_cases hdirectory : tree.isDirectory path = true
    · simpa [isDirectory] using hdirectory
    · simp [bind, Except.bind, hdirectory, pure, Except.pure] at h
  · rw [hfailed] at h
    cases h

/-- The staged directory stands at the place, and neither it nor a backup is left beside it. -/
structure Swapped (tree tree' : FileTree) (place staging backup : Path) : Prop where
  inside : ∀ rest, tree'.at? (place ++ rest) = tree.at? (staging ++ rest)
  noStaging : ∀ p, staging <+: p → tree'.at? p = none
  noBackup : ∀ p, backup <+: p → tree'.at? p = none
  outside : ∀ p, ¬ place <+: p → ¬ staging <+: p → ¬ backup <+: p → tree'.at? p = tree.at? p

theorem not_prefix_of_sibling {a b : String} (hne : a ≠ b) (ha : parent ++ [a] <+: p) :
    ¬ parent ++ [b] <+: p :=
  fun hb => hne (eq_of_append_singleton ha hb)

theorem ne_nil_of_append_singleton {a : String} (ha : parent ++ [a] <+: p) : p ≠ [] := by
  rintro rfl
  simp at ha

section Swap

variable {name stagingName backupName : String}

/-- A staged directory is renamed to a place where nothing is. -/
theorem swapped_rename (hstaging : stagingName ≠ name) (hbackup : backupName ≠ name)
    (hne : stagingName ≠ backupName)
    (hfree : ∀ p, parent ++ [backupName] <+: p → tree.at? p = none) :
    Swapped tree (tree.rename (parent ++ [stagingName]) (parent ++ [name]))
      (parent ++ [name]) (parent ++ [stagingName]) (parent ++ [backupName]) where
  inside := at?_rename_inside (by simp) (by simp)
  noStaging p hp :=
    at?_rename_source (ne_nil_of_append_singleton hp) hp (not_prefix_of_sibling hstaging hp)
  noBackup p hp := by
    rw [at?_rename_outside (not_prefix_of_sibling hne.symm hp) (not_prefix_of_sibling hbackup hp),
      hfree p hp]
  outside _ hp hp' _ := at?_rename_outside hp' hp

/-- What is at the place is moved aside, and removed when the staged directory has taken the
place. -/
theorem swapped_rename_aside (hstaging : stagingName ≠ name) (hbackup : backupName ≠ name)
    (hne : stagingName ≠ backupName) :
    Swapped tree
      (((tree.rename (parent ++ [name]) (parent ++ [backupName])).rename
        (parent ++ [stagingName]) (parent ++ [name])).remove (parent ++ [backupName]))
      (parent ++ [name]) (parent ++ [stagingName]) (parent ++ [backupName]) where
  inside rest := by
    -- A path inside one of the three is outside of the others.
    have hinside : ∀ a : String, parent ++ [a] <+: parent ++ [a] ++ rest :=
      fun _ => List.prefix_append _ _
    rw [at?_remove_outside (not_prefix_of_sibling hbackup.symm (hinside name)),
      at?_rename_inside (by simp) (by simp),
      at?_rename_outside (not_prefix_of_sibling hstaging (hinside stagingName))
        (not_prefix_of_sibling hne (hinside stagingName))]
  noStaging p hp := by
    rw [at?_remove_outside (not_prefix_of_sibling hne hp)]
    exact at?_rename_source (ne_nil_of_append_singleton hp) hp (not_prefix_of_sibling hstaging hp)
  noBackup p hp := at?_remove_inside (ne_nil_of_append_singleton hp) hp
  outside p hp hp' hp'' := by
    rw [at?_remove_outside hp'', at?_rename_outside hp' hp, at?_rename_outside hp hp'']

/-- Names beside each other, of which the backup's is free and the place's is free or a
directory's. -/
theorem swap_spec (hstaging : stagingName ≠ name) (hbackup : backupName ≠ name)
    (hne : stagingName ≠ backupName)
    (hplace : tree.at? (parent ++ [name]) = none ∨ tree.at? (parent ++ [name]) = some .directory)
    (hfree : ∀ p, parent ++ [backupName] <+: p → tree.at? p = none)
    (h : swap tree (parent ++ [name]) (parent ++ [stagingName]) (parent ++ [backupName]) =
      .ok tree') :
    Swapped tree tree' (parent ++ [name]) (parent ++ [stagingName]) (parent ++ [backupName]) := by
  unfold swap at h
  rw [if_neg (by simp)] at h
  rcases hplace with hplace | hplace
  · rw [hplace] at h
    cases h
    exact swapped_rename hstaging hbackup hne hfree
  · rw [hplace] at h
    simp only [bind, Except.bind] at h
    split at h
    · cases h
    split at h
    · cases h
    split at h
    · cases h
    cases h
    rw [if_pos trivial]
    exact swapped_rename_aside hstaging hbackup hne

end Swap

/-! ## Files to publish -/

/-- Different names, none of them the marker's. -/
structure Proper (files : FileSet) : Prop where
  nodup : (files.map Prod.fst).Nodup
  isFileName : ∀ f ∈ files, IsFileName f.1
  ne_marker : ∀ f ∈ files, f.1 ≠ markerName

instance (files : FileSet) : Decidable (Proper files) :=
  decidable_of_iff ((files.map Prod.fst).Nodup ∧ (∀ f ∈ files, IsFileName f.1) ∧
      ∀ f ∈ files, f.1 ≠ markerName)
    ⟨fun h => ⟨h.1, h.2.1, h.2.2⟩, fun h => ⟨h.1, h.2, h.3⟩⟩

namespace Proper

theorem isFileName_marked (h : Proper files) :
    ∀ f ∈ files ++ [(markerName, markerText)], IsFileName f.1 := by
  intro f hf
  rcases List.mem_append.1 hf with hf | hf
  · exact h.isFileName f hf
  · obtain rfl := List.mem_singleton.1 hf
    decide

theorem nodup_components (h : Proper files) :
    ((files ++ [(markerName, markerText)]).map fun f => Path.components f.1).Nodup := by
  have hnames : ((files ++ [(markerName, markerText)]).map Prod.fst).Nodup := by
    rw [List.map_append, List.nodup_append]
    refine ⟨h.nodup, List.nodup_singleton _, ?_⟩
    intro name hname marker hmarker
    obtain ⟨f, hf, rfl⟩ := List.mem_map.1 hname
    obtain rfl := List.mem_singleton.1 hmarker
    exact h.ne_marker f hf
  rw [show (fun f : String × String => Path.components f.1) = Path.components ∘ Prod.fst from rfl,
    ← List.map_map]
  refine hnames.map_on ?_
  intro name hname name' hname' he
  obtain ⟨f, hf, rfl⟩ := List.mem_map.1 hname
  obtain ⟨f', hf', rfl⟩ := List.mem_map.1 hname'
  exact (h.isFileName_marked f hf).eq_of_components_eq (h.isFileName_marked f' hf') he

end Proper

theorem perm_stagedFiles (files : FileSet) :
    (stagedFiles files).Perm (files ++ [(markerName, markerText)]) :=
  (sortOn_perm _ _ _).append_right _

/-! ## What is published -/

/-- From `tree` to `tree'` the files are published at a path: the target holds them and the marker,
the directories on the way to it are there or were made, and all else, beside the target too, is as
it was. -/
structure Published (tree tree' : FileTree) (path : Path) (files : FileSet) : Prop where
  holds : Holds tree' path (files ++ [(markerName, markerText)])
  ancestors : ∀ p, p <+: path → p ≠ path → tree'.at? p = some .directory ∧
    (tree.at? p = none ∨ tree.at? p = some .directory)
  outside : ∀ p, ¬ p <+: path → ¬ path <+: p → tree'.at? p = tree.at? p

/-- What a successful publication went through: the directory above the target was made, the files
were staged there, and the staged directory took the target's place. -/
theorem exists_of_publishAt (hphysical : tree.Physical path)
    (h : publishAt tree path files = (tree', .ok ())) :
    ∃ parent name made written, path = parent ++ [name] ∧ isReplaceable tree path = .ok true ∧
      Enters tree made [] parent ∧
      stageFiles (parent ++ [stagingName name (freshSuffix made parent name)])
        (Entries.put (parent ++ [stagingName name (freshSuffix made parent name)]) .directory made)
        (stagedFiles files) = (written, .ok ()) ∧
      swap written path (parent ++ [stagingName name (freshSuffix made parent name)])
        (parent ++ [backupName name (freshSuffix made parent name)]) = .ok tree' := by
  unfold publishAt at h
  split at h
  · cases h
  · cases h
  rename_i hreplaceable
  split at h
  · cases h
  rename_i made parent links hmake
  obtain ⟨hr, henters⟩ := makeDirectories_spec
    (fun c hc => (hphysical.noDots c ((List.dropLast_prefix path).subset hc)).2)
    (fun q hq _ => hphysical.noLink q (hq.trans (List.dropLast_prefix path))) hmake
  obtain ⟨rfl, rfl⟩ := Prod.mk.inj hr
  dsimp only at h
  split at h
  · cases h
  split at h
  · cases h
  · cases h
  rename_i written hstage
  split at h
  · cases h
  rename_i published hswap
  cases h
  cases hlast : path.getLast? with
  | none => simp [List.getLast?_eq_none_iff.1 hlast, swap] at hswap
  | some name =>
    obtain ⟨parent, rfl⟩ := List.getLast?_eq_some_iff.1 hlast
    rw [List.dropLast_concat] at henters
    simp only [List.dropLast_concat, List.nil_append, List.getLast?_concat, Option.getD_some,
      Option.toList_some] at hstage hswap
    exact ⟨parent, name, made, written, rfl, hreplaceable, henters, hstage, hswap⟩

/-- In a new directory the files and the marker are staged, and nothing changes outside of it. -/
theorem staged_spec {written : FileTree} (hfiles : Proper files) (hne : staging ≠ [])
    (hfree : tree.inside staging = [])
    (h : stageFiles staging (Entries.put staging .directory tree) (stagedFiles files) =
      (written, .ok ())) :
    Holds written staging (files ++ [(markerName, markerText)]) ∧
      ∀ p, ¬ staging <+: p → written.at? p = tree.at? p := by
  have hempty : Holds (Entries.put staging .directory tree) staging [] := by
    constructor
    case root => exact at?_put_self hne _
    case file => simp
    case directory => simp
    case nothingElse =>
      intro rest hrest _
      rw [at?_put_of_ne (by simpa using hrest)]
      exact at?_of_inside_eq_nil hfree hne (List.prefix_append _ _)
  have hperm := perm_stagedFiles files
  obtain ⟨hholds, hother⟩ := stageFiles_spec
    (fun f hf => hfiles.isFileName_marked f (hperm.mem_iff.1 hf))
    (((hperm.map _).nodup_iff).2 hfiles.nodup_components) hempty h
  refine ⟨hholds.congr fun f => hperm.mem_iff, fun p hp => ?_⟩
  rw [hother p hp]
  apply at?_put_of_ne
  rintro rfl
  exact hp List.prefix_rfl

/-- Every step of a publication, put together. -/
theorem publishAt_spec (htree : tree.WellFormed) (hphysical : tree.Physical path)
    (hfiles : Proper files) (h : publishAt tree path files = (tree', .ok ())) :
    Published tree tree' path files := by
  obtain ⟨parent, name, made, written, rfl, hreplaceable, henters, hstage, hswap⟩ :=
    exists_of_publishAt hphysical h
  obtain ⟨hstagingFree, hbackupFree⟩ := inside_freshSuffix made parent name
  generalize hsuffix : freshSuffix made parent name = suffix at *
  obtain ⟨hholds, hwritten⟩ := staged_spec hfiles (by simp) hstagingFree hstage
  -- A path that leads into one of the three directories is not on the way to them.
  have hmade : ∀ (a : String) (p : Path), parent ++ [a] <+: p → made.at? p = tree.at? p := by
    intro a p hp
    apply henters.other
    rintro q hq - rfl
    exact not_append_singleton_isPrefix parent a (hp.trans hq)
  have hstaging := stagingName_ne name suffix
  have hbackup := backupName_ne name suffix
  have hne := stagingName_ne_backupName name suffix suffix
  have hswapped := swap_spec hstaging hbackup hne
    (by
      rw [hwritten _ (not_prefix_of_sibling hstaging.symm List.prefix_rfl),
        hmade _ _ List.prefix_rfl]
      exact at?_of_isReplaceable htree hphysical hreplaceable)
    (fun p hp => by
      rw [hwritten p (not_prefix_of_sibling hne.symm hp)]
      exact at?_of_inside_eq_nil hbackupFree (by simp) hp)
    hswap
  constructor
  case holds => exact hholds.move hswapped.inside
  case ancestors =>
    intro p hp hp'
    have hparent : p <+: parent := (List.prefix_concat_iff.1 hp).resolve_left hp'
    have hnot : ∀ a : String, ¬ parent ++ [a] <+: p :=
      fun a ha => not_append_singleton_isPrefix parent a (ha.trans hparent)
    rw [hswapped.outside p (hnot _) (hnot _) (hnot _), hwritten p (hnot _)]
    by_cases hnil : p = []
    · subst hnil
      simp
    · exact ⟨henters.made p hparent hnil, henters.free p hparent hnil⟩
  case outside =>
    intro p hp hp'
    by_cases hs : parent ++ [stagingName name suffix] <+: p
    · rw [hswapped.noStaging p hs, ← hmade _ p hs]
      exact (at?_of_inside_eq_nil hstagingFree (by simp) hs).symm
    by_cases hb : parent ++ [backupName name suffix] <+: p
    · rw [hswapped.noBackup p hb, ← hmade _ p hb]
      exact (at?_of_inside_eq_nil hbackupFree (by simp) hb).symm
    rw [hswapped.outside p hp' hs hb, hwritten p hs]
    apply henters.other
    rintro q hq - rfl
    exact hp (hq.trans (List.prefix_append _ _))

/-! ## Publication after publication -/

/-- Trees in which the same stands outside of a path, except for what is on the way to it. -/
def SameAround (path : Path) (tree other : FileTree) : Prop :=
  ∀ p, ¬ p <+: path → ¬ path <+: p → tree.at? p = other.at? p

namespace Published

/-- Everything still stands in a directory. -/
theorem wellFormed (h : Published tree tree' path files) (htree : tree.WellFormed) :
    tree'.WellFormed := by
  intro p c hc
  by_cases hinside : path <+: p
  · obtain ⟨rest, rfl⟩ := hinside
    rw [List.append_assoc] at hc
    exact h.holds.at?_of_append_singleton hc
  by_cases hway : p ++ [c] <+: path
  · have hp : p <+: path := (List.prefix_append _ _).trans hway
    refine (h.ancestors p hp ?_).1
    rintro rfl
    exact hinside List.prefix_rfl
  have hbelow : ¬ path <+: p ++ [c] := by
    intro hpath
    rcases List.prefix_concat_iff.1 hpath with rfl | hpath
    · exact hway List.prefix_rfl
    · exact hinside hpath
  rw [h.outside _ hway hbelow] at hc
  have hparent := htree p c hc
  by_cases hp : p <+: path
  · refine (h.ancestors p hp ?_).1
    rintro rfl
    exact hinside List.prefix_rfl
  · rwa [h.outside p hp hinside]

theorem sameAround (h : Published tree tree' path files) : SameAround path tree tree' :=
  fun p hp hp' => (h.outside p hp hp').symm

/-- What the target held makes no difference. -/
theorem at?_eq {other other' : FileTree} (h : Published tree tree' path files)
    (h' : Published other other' path files) (hsame : SameAround path tree other) (p : Path) :
    tree'.at? p = other'.at? p := by
  by_cases hinside : path <+: p
  · obtain ⟨rest, rfl⟩ := hinside
    exact h.holds.at?_eq h'.holds rest
  by_cases hway : p <+: path
  · have hne : p ≠ path := by
      rintro rfl
      exact hinside List.prefix_rfl
    rw [(h.ancestors p hway hne).1, (h'.ancestors p hway hne).1]
  · rw [h.outside p hway hinside, h'.outside p hway hinside, hsame p hway hinside]

end Published

/-! ## Targets -/

/-- The target, written from a working directory, stands for a path that goes through no link. -/
structure StandsFor (tree : FileTree) (working : Path) (target : String) (path : Path) : Prop where
  resolved : resolveTarget tree working target = .ok path
  physical : tree.Physical path

/-- A target stands for the path that it reaches, whether it goes through links or not, and whether
anything is there or not. Only a link that leads back to itself reaches nothing. -/
theorem standsFor_of_resolve {working : Path} {target : String} (hworking : tree.Physical working)
    (hnull : Path.hasNull target = false) (hreached : tree.resolve working target = .reached path) :
    StandsFor tree working target path where
  resolved := by simp [resolveTarget, hnull, hreached]
  physical := physical_of_resolve hworking hreached

end Publication

open Publication

/-- Some files are published, with a target that stands for a given path. -/
def Publishes (path : Path) (tree tree' : FileTree) : Prop :=
  ∃ working target files written, Proper files ∧ StandsFor tree working target path ∧
    publish tree working target files = (tree', .ok written)

variable {origin tree tree' : FileTree} {path working : Path} {files : FileSet} {target : String}
  {written : List Path}

theorem published_of_publish (htree : tree.WellFormed)
    (htarget : StandsFor tree working target path) (hfiles : Proper files)
    (h : publish tree working target files = (tree', .ok written)) :
    Published tree tree' path files := by
  unfold publish at h
  rw [htarget.resolved] at h
  dsimp only at h
  split at h
  · cases h
  · rename_i published hpublished
    cases h
    exact publishAt_spec htree htarget.physical hfiles hpublished

/-- A run of publications keeps everything in directories, and all around the path as it was. -/
theorem wellFormed_and_sameAround (horigin : origin.WellFormed)
    (h : Relation.ReflTransGen (Publishes path) origin tree) :
    tree.WellFormed ∧ SameAround path origin tree := by
  induction h with
  | refl => exact ⟨horigin, fun _ _ _ => rfl⟩
  | tail _ hstep ih =>
    obtain ⟨hmiddle, hsame⟩ := ih
    obtain ⟨working, target, files, written, hfiles, htarget, hpublish⟩ := hstep
    have hpublished := published_of_publish hmiddle htarget hfiles hpublish
    exact ⟨hpublished.wellFormed hmiddle,
      fun p hp hp' => (hsame p hp hp').trans (hpublished.sameAround p hp hp')⟩

/-- When publication succeeds, the path that the target stands for holds exactly the files, the
directories they need and the marker, and beside it nothing is new. Whatever was published there
before, and however the target is written, the same files end in the same tree. -/
theorem publish_exact (horigin : origin.WellFormed)
    (hhistory : Relation.ReflTransGen (Publishes path) origin tree)
    (htarget : StandsFor tree working target path) (hfiles : Proper files)
    (h : publish tree working target files = (tree', .ok written)) :
    Published tree tree' path files ∧
      ∀ other other' working' target' written',
        Relation.ReflTransGen (Publishes path) origin other →
          StandsFor other working' target' path →
        publish other working' target' files = (other', .ok written') →
        ∀ p, tree'.at? p = other'.at? p := by
  obtain ⟨htree, hsame⟩ := wellFormed_and_sameAround horigin hhistory
  have hpublished := published_of_publish htree htarget hfiles h
  refine ⟨hpublished, ?_⟩
  intro other other' working' target' written' hhistory' htarget' h'
  obtain ⟨hother, hsame'⟩ := wellFormed_and_sameAround horigin hhistory'
  have hpublished' := published_of_publish hother htarget' hfiles h'
  exact hpublished.at?_eq hpublished' fun p hp hp' => (hsame p hp hp').symm.trans (hsame' p hp hp')

/-- A link to a directory that was published before. -/
def linkedOutput : FileTree :=
  [(["data"], .directory), (["data", "rust"], .directory),
    (["data", "rust", markerName], .file markerText), (["data", "rust", "old"], .directory),
    (["data", "rust", "old", "users.rs"], .file "pub struct User;\n"),
    (["work"], .directory), (["work", "out"], .link "../data/rust")]

def usersFiles : FileSet := [("mod.rs", "pub mod users;\n"), ("users.rs", "pub struct User;\n")]

def roleFiles : FileSet := [("mod.rs", "pub mod auth;\n"), ("auth/role.rs", "pub struct Role;\n")]

/-- The tree after a first run. -/
def usersOutput : FileTree := (publish linkedOutput ["work"] "out" usersFiles).1

theorem linkedOutput_publish_exact :
    linkedOutput.WellFormed ∧
      Relation.ReflTransGen (Publishes ["data", "rust"]) linkedOutput usersOutput ∧
      StandsFor usersOutput ["work"] "out" ["data", "rust"] ∧ Proper roleFiles ∧
      ∃ tree' written, publish usersOutput ["work"] "out" roleFiles = (tree', .ok written) ∧
        Published usersOutput tree' ["data", "rust"] roleFiles ∧
        tree'.at? ["data", "rust", "users.rs"] = none ∧
        ∀ p, tree'.at? p = (publish linkedOutput ["work"] "out" roleFiles).1.at? p := by
  have hphysical : ∀ tree : FileTree, tree.at? ["work"] = some .directory →
      tree.Physical ["work"] :=
    fun tree h => (Physical.nil tree).append_singleton (by simp [h]) (by decide) (by decide)
  have hstands : ∀ tree : FileTree, tree.at? ["work"] = some .directory →
      tree.resolve ["work"] "out" = .reached ["data", "rust"] →
      StandsFor tree ["work"] "out" ["data", "rust"] :=
    fun tree h => standsFor_of_resolve (hphysical tree h) (by decide +kernel)
  have hlinked : StandsFor linkedOutput ["work"] "out" ["data", "rust"] :=
    hstands _ (by decide +kernel) (by decide +kernel)
  have husers : StandsFor usersOutput ["work"] "out" ["data", "rust"] :=
    hstands _ (by decide +kernel) (by decide +kernel)
  have hfirst : (publish linkedOutput ["work"] "out" usersFiles).2 =
      .ok [["data", "rust", "mod.rs"], ["data", "rust", "users.rs"]] := by decide +kernel
  have hsecond : (publish usersOutput ["work"] "out" roleFiles).2 =
      .ok [["data", "rust", "auth", "role.rs"], ["data", "rust", "mod.rs"]] := by decide +kernel
  have hdirect : (publish linkedOutput ["work"] "out" roleFiles).2 =
      .ok [["data", "rust", "auth", "role.rs"], ["data", "rust", "mod.rs"]] := by decide +kernel
  have hpair : ∀ (run : FileTree × Except PublicationError (List Path)) (written : List Path),
      run.2 = .ok written → run = (run.1, .ok written) := by
    rintro ⟨tree', result⟩ written rfl
    rfl
  have hwellFormed : linkedOutput.WellFormed := by decide +kernel
  have hhistory : Relation.ReflTransGen (Publishes ["data", "rust"]) linkedOutput usersOutput :=
    .single ⟨["work"], "out", usersFiles, _, by decide +kernel, hlinked, hpair _ _ hfirst⟩
  have hproper : Proper roleFiles := by decide +kernel
  have hpublish := publish_exact hwellFormed hhistory husers hproper (hpair _ _ hsecond)
  refine ⟨hwellFormed, hhistory, husers, hproper, _, _, hpair _ _ hsecond, hpublish.1, ?_, ?_⟩
  · exact hpublish.1.holds.nothingElse ["users.rs"] (by decide) (by decide +kernel)
  · exact hpublish.2 _ _ _ _ _ .refl hlinked (hpair _ _ hdirect)

end SchemaStructs.Files
