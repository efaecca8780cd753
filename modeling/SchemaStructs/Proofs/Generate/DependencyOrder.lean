import Mathlib.Data.List.Nodup
import SchemaStructs.Generate.DependencyOrder
import SchemaStructs.Proofs.Entries

/-!
# Ordering declarations loses none

Placing declarations after their dependencies goes through them depth first. Whatever the
dependencies are, a declaration is placed when it is visited for the first time, so the order is a
permutation.
-/

namespace SchemaStructs.Generate

open Catalog Mapping

namespace Placement

/-- From `p` to `p'` some declarations of `ds` were visited for the first time and placed. -/
def Grows (ds : List Declaration) (p p' : Placement) : Prop :=
  ∃ new : List Declaration, (∀ d ∈ new, d ∈ ds) ∧ p'.placed = p.placed ++ new ∧
    p'.visited.Perm (new.map Declaration.name ++ p.visited) ∧ (p.visited.Nodup → p'.visited.Nodup)

variable {ds : List Declaration} {p p' p'' : Placement}

theorem Grows.refl (ds : List Declaration) (p : Placement) : Grows ds p p :=
  ⟨[], by simp, by simp, .refl _, id⟩

theorem Grows.trans (h : Grows ds p p') (h' : Grows ds p' p'') : Grows ds p p'' := by
  obtain ⟨new, hnew, hplaced, hvisited, hnodup⟩ := h
  obtain ⟨new', hnew', hplaced', hvisited', hnodup'⟩ := h'
  refine ⟨new ++ new', List.forall_mem_append.2 ⟨hnew, hnew'⟩, ?_, ?_, hnodup' ∘ hnodup⟩
  · rw [hplaced', hplaced, List.append_assoc]
  · rw [List.map_append]
    refine (hvisited'.trans (hvisited.append_left _)).trans ?_
    rw [← List.append_assoc]
    exact List.perm_append_comm.append_right _

theorem Grows.visited_subset (h : Grows ds p p') {n : QualifiedName} (hn : n ∈ p.visited) :
    n ∈ p'.visited := by
  obtain ⟨new, -, -, hvisited, -⟩ := h
  exact hvisited.mem_iff.2 (List.mem_append_right _ hn)

theorem Grows.foldl {f : Placement → Declaration → Placement} {es : List Declaration}
    (hf : ∀ p, ∀ d ∈ es, Grows ds p (f p d)) : Grows ds p (es.foldl f p) := by
  induction es generalizing p with
  | nil => exact .refl ds p
  | cons d rest ih =>
    exact (hf p d List.mem_cons_self).trans (ih fun p e he => hf p e (List.mem_cons_of_mem d he))

theorem mem_of_mem_dependencies {byName : Entries QualifiedName Declaration}
    (hbyName : ∀ n d, byName.get? n = some d → d ∈ ds) {names : List QualifiedName}
    {e : Declaration} (he : e ∈ (sortedSet QualifiedName.le names).filterMap byName.get?) :
    e ∈ ds := by
  obtain ⟨n, -, hn⟩ := List.mem_filterMap.1 he
  exact hbyName n e hn

/-- A visit places the declaration after what it places of its dependencies. The visit may end early
for want of steps; then it has placed less, but no declaration twice. -/
theorem grows_visit {byName : Entries QualifiedName Declaration}
    (hbyName : ∀ n d, byName.get? n = some d → d ∈ ds) (steps : Nat) (p : Placement)
    {d : Declaration} (hd : d ∈ ds) : Grows ds p (visit byName steps p d) := by
  induction steps generalizing p d with
  | zero => exact .refl ds p
  | succ steps ih =>
    unfold visit
    split
    · exact .refl ds p
    · rename_i hnot
      have hdeps : ∀ q : Placement, ∀ e ∈ (sortedSet QualifiedName.le d.dependencies).filterMap
          byName.get?, Grows ds q (visit byName steps q e) := by
        intro q e he
        exact ih q (mem_of_mem_dependencies hbyName he)
      obtain ⟨new, hnew, hplaced, hvisited, hnodup⟩ :=
        Grows.foldl (p := { p with visited := d.name :: p.visited }) hdeps
      refine ⟨new ++ [d], ?_, ?_, ?_,
        fun hp => hnodup (List.nodup_cons.2 ⟨by simpa using hnot, hp⟩)⟩
      · exact List.forall_mem_append.2 ⟨hnew, by simpa using hd⟩
      · dsimp only
        rw [hplaced, List.append_assoc]
      · simpa using hvisited

theorem mem_visited_visit {byName : Entries QualifiedName Declaration}
    (hbyName : ∀ n d, byName.get? n = some d → d ∈ ds) (steps : Nat) (p : Placement)
    (d : Declaration) : d.name ∈ (visit byName (steps + 1) p d).visited := by
  unfold visit
  split
  · rename_i hvisited
    simpa using hvisited
  · have hdeps : ∀ q : Placement, ∀ e ∈ (sortedSet QualifiedName.le d.dependencies).filterMap
        byName.get?, Grows ds q (visit byName steps q e) := by
      intro q e he
      exact grows_visit hbyName steps q (mem_of_mem_dependencies hbyName he)
    exact (Grows.foldl hdeps).visited_subset List.mem_cons_self

theorem mem_visited_foldl_visit {byName : Entries QualifiedName Declaration}
    (hbyName : ∀ n d, byName.get? n = some d → d ∈ ds) (steps : Nat) {es : List Declaration}
    (hes : ∀ e ∈ es, e ∈ ds) (p : Placement) :
    ∀ d ∈ es, d.name ∈ (es.foldl (visit byName (steps + 1)) p).visited := by
  induction es generalizing p with
  | nil => simp
  | cons e rest ih =>
    obtain ⟨-, hrest⟩ := List.forall_mem_cons.1 hes
    have hgrows : ∀ q : Placement, ∀ d ∈ rest, Grows ds q (visit byName (steps + 1) q d) :=
      fun q d hd => grows_visit hbyName (steps + 1) q (hrest d hd)
    refine List.forall_mem_cons.2 ⟨?_, ih hrest _⟩
    exact (Grows.foldl hgrows).visited_subset (mem_visited_visit hbyName steps p e)

end Placement

/-- Declarations with distinct names are found by their names. -/
theorem get?_ofPairs_names {ds : List Declaration} (hnames : (ds.map Declaration.name).Nodup)
    (n : QualifiedName) (d : Declaration) :
    (Entries.ofPairs (ds.map fun d => (d.name, d))).get? n = some d ↔ d ∈ ds ∧ d.name = n := by
  have hkeys : Entries.keys (ds.map fun d => (d.name, d)) = ds.map Declaration.name := by
    simp [Entries.keys, Function.comp_def]
  rw [Entries.ofPairs_eq_self (hkeys ▸ hnames), Entries.get?_eq_some_iff (hkeys ▸ hnames)]
  simp only [List.mem_map, Prod.mk.injEq]
  constructor
  · rintro ⟨e, he, hn, rfl⟩
    exact ⟨he, hn⟩
  · rintro ⟨hd, hn⟩
    exact ⟨d, hd, hn, rfl⟩

/-- Every declaration of the list is placed exactly once. -/
theorem dependencyOrder_perm {ds : List Declaration} (h : (ds.map Declaration.name).Nodup) :
    (dependencyOrder ds).Perm ds := by
  have hbyName : ∀ n d, (Entries.ofPairs (ds.map fun d => (d.name, d))).get? n = some d → d ∈ ds :=
    fun n d hget => ((get?_ofPairs_names h n d).1 hget).1
  have hsorted : ∀ d ∈ sortOn QualifiedName.le Declaration.name ds, d ∈ ds :=
    fun d hd => mem_sortOn.1 hd
  obtain ⟨new, hnew, hplaced, hvisited, hnodup⟩ := Placement.Grows.foldl (p := {})
    fun q d hd => Placement.grows_visit hbyName (ds.length + 1) q (hsorted d hd)
  have hmem := Placement.mem_visited_foldl_visit hbyName ds.length hsorted {}
  have hnames : (new.map Declaration.name).Nodup := by
    simpa using hvisited.nodup_iff.1 (hnodup List.nodup_nil)
  have horder : dependencyOrder ds = new := hplaced
  rw [horder, List.perm_ext_iff_of_nodup hnames.of_map h.of_map]
  intro d
  refine ⟨hnew d, ?_⟩
  intro hd
  have hd' : d.name ∈ new.map Declaration.name := by
    simpa using hvisited.mem_iff.1 (hmem d (mem_sortOn.2 hd))
  obtain ⟨e, he, hname⟩ := List.mem_map.1 hd'
  rwa [← List.inj_on_of_nodup_map h (hnew e he) hd hname]

theorem mem_dependencyOrder {ds : List Declaration} (h : (ds.map Declaration.name).Nodup)
    {d : Declaration} : d ∈ dependencyOrder ds ↔ d ∈ ds :=
  (dependencyOrder_perm h).mem_iff

end SchemaStructs.Generate
