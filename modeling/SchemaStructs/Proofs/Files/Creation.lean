import SchemaStructs.Files.Creation
import SchemaStructs.Proofs.Files.Lookup

/-!
# What making directories and files changes

Where there are no links on the way, making directories makes those that are missing and nothing
else, and writing a file changes what stands at its path and makes the directories on the way to it.
-/

namespace SchemaStructs.Files.FileTree

variable {tree tree' : FileTree} {base : Path} {components : List String}

/-- From `tree` to `tree'` the directories on the way from `base` through the components are
made. -/
structure Enters (tree tree' : FileTree) (base : Path) (components : List String) : Prop where
  free : ∀ q, q <+: components → q ≠ [] →
    tree.at? (base ++ q) = none ∨ tree.at? (base ++ q) = some .directory
  made : ∀ q, q <+: components → q ≠ [] → tree'.at? (base ++ q) = some .directory
  other : ∀ p, (∀ q, q <+: components → q ≠ [] → p ≠ base ++ q) → tree'.at? p = tree.at? p

namespace Enters

theorem refl (tree : FileTree) (base : Path) : Enters tree tree base [] where
  free _ hq hne := absurd (List.prefix_nil.1 hq) hne
  made _ hq hne := absurd (List.prefix_nil.1 hq) hne
  other _ _ := rfl

/-- One directory, which is there or is made, and those below it. -/
theorem cons {middle : FileTree} {c : String} {rest : List String}
    (hfree : tree.at? (base ++ [c]) = none ∨ tree.at? (base ++ [c]) = some .directory)
    (hmade : middle.at? (base ++ [c]) = some .directory)
    (hother : ∀ p, p ≠ base ++ [c] → middle.at? p = tree.at? p)
    (h : Enters middle tree' (base ++ [c]) rest) : Enters tree tree' base (c :: rest) := by
  have hbelow : ∀ q : List String, q ≠ [] → middle.at? (base ++ [c] ++ q) =
      tree.at? (base ++ (c :: q)) := by
    intro q hq
    rw [hother _ (by simpa using hq), List.append_assoc]
    rfl
  have hcases : ∀ q, q <+: c :: rest → q ≠ [] → q = [c] ∨ ∃ q', q' <+: rest ∧ q' ≠ [] ∧
      q = c :: q' := by
    intro q hq hne
    rcases List.prefix_cons_iff.1 hq with rfl | ⟨q', rfl, hq'⟩
    · exact absurd rfl hne
    · by_cases hq'nil : q' = []
      · exact Or.inl (by rw [hq'nil])
      · exact Or.inr ⟨q', hq', hq'nil, rfl⟩
  have hsplit : ∀ q : List String, base ++ c :: q = base ++ [c] ++ q := by simp
  constructor
  case free =>
    intro q hq hne
    rcases hcases q hq hne with rfl | ⟨q', hq', hne', rfl⟩
    · exact hfree
    · rw [← hbelow q' hne']
      exact h.free q' hq' hne'
  case made =>
    intro q hq hne
    rcases hcases q hq hne with rfl | ⟨q', hq', hne', rfl⟩
    · rw [h.other _ (fun q _ hq he => hq (by simpa using he)), hmade]
    · rw [hsplit]
      exact h.made q' hq' hne'
  case other =>
    intro p hp
    have hfirst : p ≠ base ++ [c] := hp [c] (by simp [List.cons_prefix_cons]) (by simp)
    rw [h.other p fun q hq _ he => hp (c :: q) (List.cons_prefix_cons.2 ⟨rfl, hq⟩) (by simp)
      (he.trans (hsplit q).symm), hother p hfirst]

end Enters

theorem enterDirectories_spec {links : Nat} {r : Path × Nat} (hdots : ∀ c ∈ components, c ≠ "..")
    (hlinks : ∀ q, q <+: components → q ≠ [] → ∀ text, tree.at? (base ++ q) ≠ some (.link text))
    (h : tree.enterDirectories links base components = (tree', .ok r)) :
    r = (base ++ components, links) ∧ Enters tree tree' base components := by
  induction components generalizing tree base with
  | nil =>
    cases h
    exact ⟨by simp, .refl _ _⟩
  | cons c rest ih =>
    obtain ⟨hc, hrest⟩ := List.forall_mem_cons.1 hdots
    have hfirst := hlinks [c] (by simp [List.cons_prefix_cons]) (by simp)
    have hsplit : ∀ q : List String, base ++ c :: q = base ++ [c] ++ q := by simp
    have hbelow : ∀ q, q <+: rest → q ≠ [] → ∀ text,
        tree.at? (base ++ [c] ++ q) ≠ some (.link text) := by
      intro q hq hne text
      rw [← hsplit]
      exact hlinks (c :: q) (List.cons_prefix_cons.2 ⟨rfl, hq⟩) (by simp) text
    simp only [enterDirectories, beq_iff_eq, hc, if_false] at h
    rw [hsplit]
    split at h
    · rename_i hnone
      split at h
      · cases h
      · have hput : ∀ p, p ≠ base ++ [c] →
            at? (Entries.put (base ++ [c]) .directory tree) p = tree.at? p :=
          fun p hp => at?_put_of_ne hp _
        have hself : at? (Entries.put (base ++ [c]) .directory tree) (base ++ [c]) =
            some .directory := at?_put_self (by simp) _
        obtain ⟨hr, henters⟩ := ih hrest (fun q hq hne text => by
          rw [hput _ (by simpa using hne)]
          exact hbelow q hq hne text) h
        exact ⟨hr, .cons (Or.inl hnone) hself hput henters⟩
    · rename_i hdirectory
      obtain ⟨hr, henters⟩ := ih hrest hbelow h
      exact ⟨hr, .cons (Or.inr hdirectory) hdirectory (fun _ _ => rfl) henters⟩
    · cases h
    · rename_i text hlink
      exact absurd hlink (hfirst text)

theorem makeDirectories_spec {r : Path × Nat} (hdots : ∀ c ∈ components, c ≠ "..")
    (hlinks : ∀ q, q <+: components → q ≠ [] → ∀ text, tree.at? (base ++ q) ≠ some (.link text))
    (h : tree.makeDirectories base components = (tree', .ok r)) :
    r = (base ++ components, maxLinks) ∧ Enters tree tree' base components := by
  unfold makeDirectories at h
  split at h
  · cases h
  · split at h
    · cases h
    · exact enterDirectories_spec hdots hlinks h

/-- From `tree` to `tree'` a file is written at the components from `base`. -/
structure Writes (tree tree' : FileTree) (base : Path) (components : List String)
    (content : String) : Prop where
  ne_nil : components ≠ []
  free : ∀ q, q <+: components → q ≠ [] → q ≠ components →
    tree.at? (base ++ q) = none ∨ tree.at? (base ++ q) = some .directory
  made : ∀ q, q <+: components → q ≠ [] → q ≠ components →
    tree'.at? (base ++ q) = some .directory
  notDirectory : tree.at? (base ++ components) ≠ some .directory
  written : tree'.at? (base ++ components) = some (.file content)
  other : ∀ p, (∀ q, q <+: components → q ≠ [] → p ≠ base ++ q) → tree'.at? p = tree.at? p

/-- A file in a directory that is there. -/
theorem writeInto_spec {links : Nat} {directory : Path} {name content : String} (hdot : name ≠ ".")
    (hdots : name ≠ "..") (hlink : ∀ text, tree.at? (directory ++ [name]) ≠ some (.link text))
    (h : tree.writeInto links directory name content = (tree', .ok ())) :
    tree.at? (directory ++ [name]) ≠ some .directory ∧
      tree' = Entries.put (directory ++ [name]) (.file content) tree := by
  unfold writeInto at h
  cases hwalk : tree.walk links directory [name] with
  | error e =>
    rw [hwalk] at h
    cases h
  | ok found =>
    obtain ⟨place, rest⟩ := found
    rw [hwalk] at h
    have hplace := walk_singleton hdot hdots hlink hwalk
    by_cases hnone : tree.at? (directory ++ [name]) = none
    · rw [if_pos hnone] at hplace
      subst hplace
      cases h
      exact ⟨by simp [hnone], rfl⟩
    · rw [if_neg hnone] at hplace
      subst hplace
      dsimp only at h
      split at h
      · cases h
      · rename_i hdirectory
        cases h
        exact ⟨by simpa [isDirectory] using hdirectory, rfl⟩

theorem writeFile_spec {content : String} (hdots : ∀ c ∈ components, c ≠ "." ∧ c ≠ "..")
    (hlinks : ∀ q, q <+: components → q ≠ [] → ∀ text, tree.at? (base ++ q) ≠ some (.link text))
    (h : tree.writeFile base components content = (tree', .ok ())) :
    Writes tree tree' base components content := by
  unfold writeFile at h
  split at h
  · cases h
  rename_i name hlast
  obtain ⟨parents, rfl⟩ := List.getLast?_eq_some_iff.1 hlast
  rw [List.dropLast_concat] at h
  split at h
  · cases h
  rename_i middle directory links hmake
  obtain ⟨hr, henters⟩ := makeDirectories_spec (fun c hc => (hdots c (by simp [hc])).2)
    (fun q hq => hlinks q (hq.trans (List.prefix_append _ _))) hmake
  obtain ⟨rfl, rfl⟩ := Prod.mk.inj hr
  obtain ⟨hdot, hdot'⟩ := hdots name (by simp)
  have hassoc : base ++ parents ++ [name] = base ++ (parents ++ [name]) := List.append_assoc _ _ _
  -- The file does not stand on the way to its own directory.
  have hfresh : ∀ q, q <+: parents → q ≠ [] → base ++ (parents ++ [name]) ≠ base ++ q := by
    intro q hq _ he
    have hlength := hq.length_le
    rw [← List.append_cancel_left he, List.length_append, List.length_singleton] at hlength
    omega
  split at h
  · cases h
  split at h
  · cases h
  have hsame := henters.other _ hfresh
  obtain ⟨hnot, rfl⟩ := writeInto_spec hdot hdot'
    (by rw [hassoc, hsame]; exact hlinks _ List.prefix_rfl (by simp)) h
  rw [hassoc] at hnot ⊢
  have hproper : ∀ q, q <+: parents ++ [name] → q ≠ parents ++ [name] → q <+: parents :=
    fun q hq hne => (List.prefix_concat_iff.1 hq).resolve_left hne
  constructor
  case ne_nil => simp
  case free => exact fun q hq hne hlt => henters.free q (hproper q hq hlt) hne
  case made =>
    intro q hq hne hlt
    rw [at?_put_of_ne (fun he => hlt (List.append_cancel_left he))]
    exact henters.made q (hproper q hq hlt) hne
  case notDirectory => rwa [hsame] at hnot
  case written => exact at?_put_self (by simp) _
  case other =>
    intro p hp
    rw [at?_put_of_ne (hp _ List.prefix_rfl (by simp))]
    exact henters.other p fun q hq => hp q (hq.trans (List.prefix_append _ _))

end SchemaStructs.Files.FileTree
