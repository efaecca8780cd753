import SchemaStructs.Files.Lookup
import SchemaStructs.Proofs.Files.FileTree

/-!
# Paths without links

A written path that reaches something, or a place where nothing is, is resolved to a path that goes
through no link. What stands at such a path is found there.
-/

namespace SchemaStructs.Files.FileTree

variable {tree : FileTree}

theorem ne_dot_of_mem_components {text c : String} (h : c ∈ Path.components text) : c ≠ "." := by
  have hkept := (List.mem_filter.1 h).2
  simp only [Bool.and_eq_true, bne_iff_ne] at hkept
  exact hkept.2

/-! ## Resolved paths -/

/-- Going along components keeps off links, if following a link does. -/
theorem physical_of_followWith {follow : Path → Path → String → Destination}
    (hfollow : ∀ directory link text path, tree.Physical directory →
      follow directory link text = .reached path → tree.Physical path)
    {components : List String} (hdots : ∀ c ∈ components, c ≠ ".") {base path : Path}
    (hbase : tree.Physical base) (h : tree.followWith follow base components = .reached path) :
    tree.Physical path := by
  induction components generalizing base with
  | nil =>
    cases h
    exact hbase
  | cons c rest ih =>
    obtain ⟨hdot, hrest⟩ := List.forall_mem_cons.1 hdots
    unfold followWith at h
    by_cases hparent : c = ".."
    · simp only [hparent, Path.step, beq_self_eq_true, if_true] at h
      exact ih hrest (hbase.of_prefix (List.dropLast_prefix base)) h
    · simp only [Path.step, beq_iff_eq, hparent, if_false] at h
      split at h
      · rename_i text _
        split at h
        · rename_i path' hreached
          exact ih hrest (hfollow _ _ _ _ hbase hreached) h
        · cases h
      · rename_i hlink
        exact ih hrest (hbase.append_singleton hlink hdot hparent) h

theorem physical_of_follow {steps : Nat} {following : List Path} {base path : Path}
    {components : List String} (hdots : ∀ c ∈ components, c ≠ ".") (hbase : tree.Physical base)
    (h : tree.follow steps following base components = .reached path) : tree.Physical path := by
  induction steps generalizing following base components path with
  | zero => cases h
  | succ steps ih =>
    refine physical_of_followWith ?_ hdots hbase h
    intro directory link text path' hdirectory hreached
    split at hreached
    · cases hreached
    · refine ih (fun c => ne_dot_of_mem_components) ?_ hreached
      split
      · exact .nil tree
      · exact hdirectory

/-- A written path that is reached stands for a path without links. -/
theorem physical_of_resolve {working path : Path} {text : String} (hworking : tree.Physical working)
    (h : tree.resolve working text = .reached path) : tree.Physical path := by
  refine physical_of_follow (fun c => ne_dot_of_mem_components) ?_ h
  split
  · exact .nil tree
  · exact hworking

/-! ## Looking up -/

/-- What stands behind components without links is arrived at, unless a name is too long. -/
theorem walkWith_of_physical {α : Type} (htree : tree.WellFormed)
    (afterLink : Path → Path → List String → Except FileError α) (arrived : Place → α)
    {base : Path} {components : List String} (hphysical : tree.Physical (base ++ components))
    (h : tree.at? (base ++ components) ≠ none) :
    tree.walkWith afterLink arrived base components =
      .ok (arrived (.occupied (base ++ components))) ∨
      ∃ path, tree.walkWith afterLink arrived base components = .error (.nameTooLong path) := by
  induction components generalizing base with
  | nil => exact Or.inl (by simp [walkWith])
  | cons c rest ih =>
    obtain ⟨hdot, hdots⟩ := hphysical.noDots c (by simp)
    have hsplit : base ++ c :: rest = base ++ [c] ++ rest := by simp
    rw [hsplit] at hphysical h ⊢
    simp only [walkWith, beq_iff_eq, hdot, hdots, if_false]
    split
    · exact Or.inr ⟨_, rfl⟩
    · by_cases hrest : rest = []
      · subst hrest
        simp only [List.append_nil] at h ⊢
        cases hentry : tree.at? (base ++ [c]) with
        | none => exact absurd hentry h
        | some e =>
          cases e with
          | directory => exact Or.inl (by simp [walkWith])
          | file content => exact Or.inl (by simp)
          | link text => exact absurd hentry (hphysical.noLink _ (List.prefix_append _ _) text)
      · have hentry : tree.at? (base ++ [c]) = some .directory :=
          htree.at?_of_prefix (List.prefix_append _ _) (by simpa using hrest) h
        simp only [hentry]
        exact ih hphysical h

theorem walk_of_physical (htree : tree.WellFormed) (links : Nat) {base : Path}
    {components : List String} (hphysical : tree.Physical (base ++ components))
    (h : tree.at? (base ++ components) ≠ none) :
    tree.walk links base components = .ok (.occupied (base ++ components), links) ∨
      ∃ path, tree.walk links base components = .error (.nameTooLong path) := by
  cases links with
  | zero => exact walkWith_of_physical htree _ _ hphysical h
  | succ links => exact walkWith_of_physical htree _ _ hphysical h

/-- What stands at a path without links is found there, unless the path is too long. -/
theorem occupant?_of_physical (htree : tree.WellFormed) {path : Path}
    (hphysical : tree.Physical path) (h : tree.at? path ≠ none) :
    tree.occupant? path = .ok (some path) ∨
      ∃ path', tree.occupant? path = .error (.nameTooLong path') := by
  unfold occupant? find
  by_cases hlong : Path.isTooLong path
  · rw [if_pos hlong]
    exact Or.inr ⟨_, rfl⟩
  · rw [if_neg hlong]
    have hwalk : tree.walk maxLinks [] path = .ok (.occupied path, maxLinks) ∨
        ∃ path', tree.walk maxLinks [] path = .error (.nameTooLong path') :=
      walk_of_physical htree maxLinks hphysical h
    rcases hwalk with hwalk | ⟨path', hwalk⟩
    · rw [hwalk]
      exact Or.inl rfl
    · rw [hwalk]
      exact Or.inr ⟨path', rfl⟩

/-- What is looked up under a name that is no link. -/
theorem walk_singleton {links : Nat} {directory : Path} {name : String} (hdot : name ≠ ".")
    (hdots : name ≠ "..") (hlink : ∀ text, tree.at? (directory ++ [name]) ≠ some (.link text))
    {place : Place} {rest : Nat} (h : tree.walk links directory [name] = .ok (place, rest)) :
    place = if tree.at? (directory ++ [name]) = none then .vacant (directory ++ [name])
      else .occupied (directory ++ [name]) := by
  have hwalk : ∀ (afterLink : Path → Path → List String → Except FileError (Place × Nat)),
      tree.walkWith afterLink (fun place => (place, links)) directory [name] = .ok (place, rest) →
      place = if tree.at? (directory ++ [name]) = none then .vacant (directory ++ [name])
        else .occupied (directory ++ [name]) := by
    intro afterLink hwalk
    simp only [walkWith, beq_iff_eq, hdot, hdots, if_false, List.isEmpty_nil, if_true] at hwalk
    split at hwalk
    · cases hwalk
    · cases hentry : tree.at? (directory ++ [name]) with
      | none =>
        rw [hentry] at hwalk
        cases hwalk
        simp
      | some e =>
        rw [hentry] at hwalk
        cases e with
        | directory =>
          cases hwalk
          simp
        | file content =>
          cases hwalk
          simp
        | link text => exact absurd hentry (hlink text)
  cases links with
  | zero => exact hwalk _ h
  | succ links => exact hwalk _ h

end SchemaStructs.Files.FileTree
