import SchemaStructs.Proofs.Rust.TypeNodes
import SchemaStructs.Proofs.Text.Lines

/-!
# Characters of paths, imports and types

What is written of paths and types has no characters but theirs and a few marks. So a property of
characters that the marks have passes from the names and paths to the text made of them.
-/

namespace SchemaStructs.Rust

open Text

variable {p : Char → Prop}

/-! ## Paths -/

theorem mem_of_mem_cutReversed {s : List Char} {c : Char}
    (h : c ∈ (cutReversed s).1 ∨ c ∈ (cutReversed s).2.getD []) : c ∈ s := by
  fun_induction cutReversed s with
  | case1 => simp at h
  | case2 d => simpa using h
  | case3 d e rest _ =>
    have hc : c ∈ rest := by simpa using h
    exact List.mem_cons_of_mem d (List.mem_cons_of_mem e hc)
  | case4 d e rest _ name parent hcut ih =>
    rw [hcut] at ih
    rcases h with h | h
    · rcases List.mem_cons.1 h with rfl | h
      · exact List.mem_cons_self
      · exact List.mem_cons_of_mem d (ih (Or.inl h))
    · exact List.mem_cons_of_mem d (ih (Or.inr h))

theorem allChars_splitPath {path : String} (h : AllChars p path) :
    AllChars p (splitPath path).1 ∧ AllChars p (splitPath path).2 := by
  simp only [splitPath, AllChars, String.toList_ofList, List.mem_reverse]
  exact ⟨fun c hc => h c (List.mem_reverse.1 (mem_of_mem_cutReversed (Or.inr hc))),
    fun c hc => h c (List.mem_reverse.1 (mem_of_mem_cutReversed (Or.inl hc)))⟩

/-! ## Imports -/

theorem allChars_useLine (hmarks : AllChars p "use ::\x7b, \x7d;") {parent : String}
    {names : List String} (hparent : AllChars p parent) (hnames : ∀ name ∈ names, AllChars p name) :
    AllChars p (useLine parent names) := by
  have hmark : ∀ mark : String, mark.toList ⊆ "use ::\x7b, \x7d;".toList → AllChars p mark :=
    fun mark hsub c hc => hmarks c (hsub hc)
  unfold useLine
  split
  · simp only [toString, allChars_append]
    exact ⟨⟨⟨⟨hmark _ (by decide), hparent⟩, hmark _ (by decide)⟩, hnames _ List.mem_cons_self⟩,
      hmark _ (by decide)⟩
  · simp only [toString, allChars_append]
    exact ⟨⟨⟨⟨hmark _ (by decide), hparent⟩, hmark _ (by decide)⟩,
      allChars_intercalate (hmark _ (by decide)) hnames⟩, hmark _ (by decide)⟩

theorem allChars_groupImports (hmarks : AllChars p "use ::\x7b, \x7d;") {paths : List String}
    (h : ∀ path ∈ paths, AllChars p path) : ∀ line ∈ groupImports paths, AllChars p line := by
  intro line hline
  obtain ⟨parent, hparent, rfl⟩ := List.mem_map.1 hline
  have hparts : ∀ part ∈ paths.map splitPath, AllChars p part.1 ∧ AllChars p part.2 := by
    intro part hpart
    obtain ⟨path, hpath, rfl⟩ := List.mem_map.1 hpart
    exact allChars_splitPath (h path hpath)
  refine allChars_useLine hmarks ?_ fun name hname => ?_
  · obtain ⟨part, hpart, rfl⟩ := List.mem_map.1 (mem_sortedSet.1 hparent)
    exact (hparts part hpart).1
  · obtain ⟨part, hpart, rfl⟩ := List.mem_map.1 (mem_sortedSet.1 hname)
    exact (hparts part (List.mem_of_mem_filter hpart)).2

/-! ## Types -/

theorem allChars_render (hmarks : AllChars p "<, >") {t : TypeExpr}
    (h : ∀ u ∈ t.nodes, AllChars p u.name) : AllChars p t.render := by
  have hmark : ∀ mark : String, mark.toList ⊆ "<, >".toList → AllChars p mark :=
    fun mark hsub c hc => hmarks c (hsub hc)
  induction t using TypeExpr.induction_on_generics with
  | step t ih =>
    obtain ⟨hname, hgenerics⟩ := TypeExpr.forall_mem_nodes_iff.1 h
    obtain ⟨name, path, generics, _, _, _, _⟩ := t
    have hall : ∀ ts : List TypeExpr, (∀ g ∈ ts, g ∈ generics) →
        ∀ part ∈ TypeExpr.renderAll ts, AllChars p part := by
      intro ts
      induction ts with
      | nil => exact fun _ part hpart => by cases hpart
      | cons g rest hrest =>
        intro hsub part hpart
        obtain ⟨hg, hsub⟩ := List.forall_mem_cons.1 hsub
        rcases List.mem_cons.1 hpart with rfl | hpart
        · exact ih g hg (hgenerics g hg)
        · exact hrest hsub part hpart
    cases generics with
    | nil => simpa only [TypeExpr.render] using hname
    | cons g rest =>
      simp only [TypeExpr.render, allChars_append]
      exact ⟨⟨⟨hname, hmark _ (by decide)⟩,
        allChars_intercalate (hmark _ (by decide)) (hall _ fun _ hg => hg)⟩, hmark _ (by decide)⟩

end SchemaStructs.Rust
