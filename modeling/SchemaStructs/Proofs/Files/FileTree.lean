import Mathlib.Data.List.Induction
import SchemaStructs.Files.FileTree
import SchemaStructs.Proofs.Entries

/-!
# What stands at each path

Putting, removing and renaming are known by what stands at each path afterwards: inside the path
that is put, removed or moved, and outside of it.
-/

namespace SchemaStructs.Files.FileTree

variable {tree : FileTree} {p q source target : Path}

@[simp] theorem at?_nil (tree : FileTree) : tree.at? [] = some .directory := rfl

theorem at?_of_ne_nil (hp : p ≠ []) : tree.at? p = Entries.get? p tree := by
  simp [at?, hp]

theorem at?_put_self (hp : p ≠ []) (e : Entry) : at? (Entries.put p e tree) p = some e := by
  rw [at?_of_ne_nil hp, Entries.get?_put_self]

theorem at?_put_of_ne (h : q ≠ p) (e : Entry) : at? (Entries.put p e tree) q = tree.at? q := by
  by_cases hq : q = []
  · simp [hq]
  · rw [at?_of_ne_nil hq, at?_of_ne_nil hq, Entries.get?_put_of_ne h]

/-! ## Removing -/

theorem get?_remove (q p : Path) :
    Entries.get? p (tree.remove q) = if q <+: p then none else Entries.get? p tree := by
  have hfilter := Entries.get?_filter (fun k => !q.isPrefixOf k) p tree
  rw [remove, hfilter]
  by_cases h : q <+: p
  · simp [h, List.isPrefixOf_iff_prefix.2 h]
  · simp [h, mt List.isPrefixOf_iff_prefix.1 h]

theorem at?_remove_inside (hp : p ≠ []) (h : q <+: p) : (tree.remove q).at? p = none := by
  rw [at?_of_ne_nil hp, get?_remove, if_pos h]

theorem at?_remove_outside (h : ¬ q <+: p) : (tree.remove q).at? p = tree.at? p := by
  by_cases hp : p = []
  · simp [hp]
  · rw [at?_of_ne_nil hp, at?_of_ne_nil hp, get?_remove, if_neg h]

/-! ## Renaming -/

/-- What is moved from `source` to `target`. -/
def moved (tree : FileTree) (source target : Path) : FileTree :=
  (tree.inside source).map fun e => (target ++ e.1.drop source.length, e.2)

theorem get?_moved (rest : Path) :
    Entries.get? (target ++ rest) (tree.moved source target) =
      Entries.get? (source ++ rest) tree := by
  unfold moved inside
  induction tree with
  | nil => rfl
  | cons e tail ih =>
    obtain ⟨path, entry⟩ := e
    by_cases hsource : source <+: path
    · obtain ⟨rest', rfl⟩ := hsource
      have hinside : source.isPrefixOf (source ++ rest') = true :=
        List.isPrefixOf_iff_prefix.2 (List.prefix_append _ _)
      simp only [List.filter_cons, hinside, if_true, List.map_cons, List.drop_left, Entries.get?,
        beq_iff_eq, List.append_cancel_left_eq, ih]
    · have houtside : ¬ source.isPrefixOf path = true := mt List.isPrefixOf_iff_prefix.1 hsource
      have hne : source ++ rest ≠ path := by
        rintro rfl
        exact hsource (List.prefix_append _ _)
      simp only [List.filter_cons, houtside, Entries.get?, beq_iff_eq, hne, if_false]
      exact ih

theorem get?_moved_outside (h : ¬ target <+: p) :
    Entries.get? p (tree.moved source target) = none := by
  rw [Entries.get?_eq_none_iff]
  intro hmem
  obtain ⟨⟨path, e⟩, he, rfl⟩ := List.mem_map.1 hmem
  obtain ⟨e', -, he'⟩ := List.mem_map.1 he
  obtain ⟨rfl, -⟩ := Prod.mk.inj he'
  exact h (List.prefix_append _ _)

/-- What stood inside the old path stands inside the new one. -/
theorem at?_rename_inside (hsource : source ≠ []) (htarget : target ≠ []) (rest : Path) :
    (tree.rename source target).at? (target ++ rest) = tree.at? (source ++ rest) := by
  have hs : source ++ rest ≠ [] := by simp [hsource]
  have ht : target ++ rest ≠ [] := by simp [htarget]
  show at? (remove (tree.remove source) target ++ tree.moved source target) _ = _
  rw [at?_of_ne_nil ht, at?_of_ne_nil hs, Entries.get?_append, get?_remove,
    if_pos (List.prefix_append _ _), Option.none_or, get?_moved]

theorem at?_rename_outside (hsource : ¬ source <+: p) (htarget : ¬ target <+: p) :
    (tree.rename source target).at? p = tree.at? p := by
  by_cases hp : p = []
  · simp [hp]
  · show at? (remove (tree.remove source) target ++ tree.moved source target) _ = _
    rw [at?_of_ne_nil hp, at?_of_ne_nil hp, Entries.get?_append, get?_remove, if_neg htarget,
      get?_remove, if_neg hsource, get?_moved_outside htarget, Option.or_none]

/-- Nothing is left at the old path. -/
theorem at?_rename_source (hp : p ≠ []) (hsource : source <+: p) (htarget : ¬ target <+: p) :
    (tree.rename source target).at? p = none := by
  show at? (remove (tree.remove source) target ++ tree.moved source target) _ = _
  rw [at?_of_ne_nil hp, Entries.get?_append, get?_remove, if_neg htarget, get?_remove,
    if_pos hsource, get?_moved_outside htarget, Option.or_none]

/-! ## Directories on the way -/

/-- Everything stands in a directory. -/
def WellFormed (tree : FileTree) : Prop :=
  ∀ p c, tree.at? (p ++ [c]) ≠ none → tree.at? p = some .directory

/-- The directories on the way to what stands somewhere. -/
theorem WellFormed.at?_of_prefix (h : tree.WellFormed) (hpq : p <+: q) (hne : p ≠ q)
    (hq : tree.at? q ≠ none) : tree.at? p = some .directory := by
  obtain ⟨rest, rfl⟩ := hpq
  induction rest using List.reverseRecOn with
  | nil => simp at hne
  | append_singleton rest c ih =>
    rw [← List.append_assoc] at hq
    have hparent := h _ _ hq
    by_cases hrest : rest = []
    · simpa [hrest] using hparent
    · exact ih (by simpa using hrest) (by simp [hparent])

theorem wellFormed_iff :
    tree.WellFormed ↔ ∀ e ∈ tree, tree.at? e.1.dropLast = some .directory := by
  constructor
  · rintro h ⟨path, e⟩ he
    cases hlast : path.getLast? with
    | none => simp [List.getLast?_eq_none_iff.1 hlast]
    | some c =>
      obtain ⟨p, rfl⟩ := List.getLast?_eq_some_iff.1 hlast
      simp only [List.dropLast_concat]
      apply h p c
      rw [at?_of_ne_nil (by simp), Ne, Entries.get?_eq_none_iff, not_not]
      exact List.mem_map_of_mem he
  · intro h p c hc
    rw [at?_of_ne_nil (by simp), Ne, Entries.get?_eq_none_iff, not_not] at hc
    obtain ⟨e, he, hpath⟩ := List.mem_map.1 hc
    simpa [hpath] using h e he

instance (tree : FileTree) : Decidable tree.WellFormed := decidable_of_iff _ wellFormed_iff.symm

/-- The path goes through no link and has no dots. -/
structure Physical (tree : FileTree) (path : Path) : Prop where
  noLink : ∀ p, p <+: path → ∀ text, tree.at? p ≠ some (.link text)
  noDots : ∀ c ∈ path, c ≠ "." ∧ c ≠ ".."

namespace Physical

theorem nil (tree : FileTree) : tree.Physical [] where
  noLink := by
    intro p hp text
    obtain rfl := List.prefix_nil.1 hp
    simp
  noDots := by simp

theorem of_prefix (h : tree.Physical q) (hpq : p <+: q) : tree.Physical p where
  noLink r hr := h.noLink r (hr.trans hpq)
  noDots c hc := h.noDots c (hpq.subset hc)

theorem append_singleton (h : tree.Physical p) {c : String}
    (hlink : ∀ text, tree.at? (p ++ [c]) ≠ some (.link text)) (hdot : c ≠ ".") (hdots : c ≠ "..") :
    tree.Physical (p ++ [c]) where
  noLink := by
    intro r hr
    rcases List.prefix_concat_iff.1 hr with rfl | hr
    · exact hlink
    · exact h.noLink r hr
  noDots := by
    intro c' hc'
    rcases List.mem_append.1 hc' with hc' | hc'
    · exact h.noDots c' hc'
    · obtain rfl := List.mem_singleton.1 hc'
      exact ⟨hdot, hdots⟩

end Physical

end SchemaStructs.Files.FileTree
