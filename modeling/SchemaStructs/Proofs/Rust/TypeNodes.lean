import Mathlib.Data.List.Basic
import SchemaStructs.Rust.TypeExpr

/-!
# Nodes of a type expression

A type expression is a tree: the type that is named and, below it, the types that it is applied to.
Its paths and declarations are those of its nodes.
-/

namespace SchemaStructs.Rust.TypeExpr

mutual

/-- The expression and its arguments, at any depth. -/
def nodes (t : TypeExpr) : List TypeExpr :=
  match t with
  | { generics, .. } => t :: nodesOfAll generics

def nodesOfAll : List TypeExpr → List TypeExpr
  | [] => []
  | t :: rest => nodes t ++ nodesOfAll rest

end

/-- What holds of an expression if it holds of its arguments holds of every expression. -/
@[elab_as_elim]
theorem induction_on_generics {motive : TypeExpr → Prop}
    (step : ∀ t : TypeExpr, (∀ u ∈ t.generics, motive u) → motive t) (t : TypeExpr) : motive t :=
  @TypeExpr.rec motive (fun ts => ∀ u ∈ ts, motive u)
    (fun name path generics precision scale length declaration ih =>
      step ⟨name, path, generics, precision, scale, length, declaration⟩ ih)
    (fun _ hu => absurd hu List.not_mem_nil)
    (fun _ _ hhead htail => List.forall_mem_cons.2 ⟨hhead, htail⟩) t

theorem nodesOfAll_eq_flatMap (ts : List TypeExpr) : nodesOfAll ts = ts.flatMap nodes := by
  induction ts with
  | nil => rfl
  | cons t rest ih => rw [nodesOfAll, ih, List.flatMap_cons]

theorem nodes_eq (t : TypeExpr) : t.nodes = t :: t.generics.flatMap nodes := by
  obtain ⟨_, _, _, _, _, _, _⟩ := t
  rw [nodes, nodesOfAll_eq_flatMap]

theorem pathsOfAll_eq_flatMap (ts : List TypeExpr) : pathsOfAll ts = ts.flatMap paths := by
  induction ts with
  | nil => rfl
  | cons t rest ih => rw [pathsOfAll, ih, List.flatMap_cons]

theorem paths_eq (t : TypeExpr) :
    t.paths = (t.path.filter (· != "")).toList ++ t.generics.flatMap paths := by
  obtain ⟨_, _, _, _, _, _, _⟩ := t
  rw [paths, pathsOfAll_eq_flatMap]

@[simp] theorem mem_nodes_self (t : TypeExpr) : t ∈ t.nodes := by
  rw [nodes_eq]
  exact List.mem_cons_self

theorem mem_nodes_iff {t u : TypeExpr} : u ∈ t.nodes ↔ u = t ∨ ∃ g ∈ t.generics, u ∈ g.nodes := by
  rw [nodes_eq, List.mem_cons, List.mem_flatMap]

/-- The paths of an expression are the paths of its nodes. -/
theorem mem_paths_iff {t : TypeExpr} {p : String} :
    p ∈ t.paths ↔ p ≠ "" ∧ ∃ u ∈ t.nodes, u.path = some p := by
  induction t using induction_on_generics with
  | step t ih =>
    have hself : p ∈ (t.path.filter (· != "")).toList ↔ p ≠ "" ∧ t.path = some p := by
      rw [Option.mem_toList, Option.filter_eq_some_iff]
      simp [and_comm]
    rw [paths_eq, List.mem_append, hself, List.mem_flatMap]
    constructor
    · rintro (⟨hp, ht⟩ | ⟨g, hg, hpg⟩)
      · exact ⟨hp, t, mem_nodes_self t, ht⟩
      · obtain ⟨hp, u, hu, hup⟩ := (ih g hg).1 hpg
        exact ⟨hp, u, mem_nodes_iff.2 (Or.inr ⟨g, hg, hu⟩), hup⟩
    · rintro ⟨hp, u, hu, hup⟩
      rcases mem_nodes_iff.1 hu with rfl | ⟨g, hg, hug⟩
      · exact Or.inl ⟨hp, hup⟩
      · exact Or.inr ⟨g, hg, (ih g hg).2 ⟨hp, u, hug, hup⟩⟩

theorem declaredInAll_eq_flatMap (ts : List TypeExpr) : declaredInAll ts = ts.flatMap declared := by
  induction ts with
  | nil => rfl
  | cons t rest ih => rw [declaredInAll, ih, List.flatMap_cons]

/-- The generated types that an expression names are those of its nodes. -/
theorem mem_declared_iff {t : TypeExpr} {n : Catalog.QualifiedName} :
    n ∈ t.declared ↔ ∃ u ∈ t.nodes, u.declaration = some n := by
  induction t using induction_on_generics with
  | step t ih =>
    have hdeclared : t.declared = t.declaration.toList ++ t.generics.flatMap declared := by
      obtain ⟨_, _, _, _, _, _, _⟩ := t
      rw [declared, declaredInAll_eq_flatMap]
    rw [hdeclared, List.mem_append, Option.mem_toList, List.mem_flatMap]
    constructor
    · rintro (ht | ⟨g, hg, hn⟩)
      · exact ⟨t, mem_nodes_self t, ht⟩
      · obtain ⟨u, hu, hun⟩ := (ih g hg).1 hn
        exact ⟨u, mem_nodes_iff.2 (Or.inr ⟨g, hg, hu⟩), hun⟩
    · rintro ⟨u, hu, hun⟩
      rcases mem_nodes_iff.1 hu with rfl | ⟨g, hg, hug⟩
      · exact Or.inl hun
      · exact Or.inr ⟨g, hg, (ih g hg).2 ⟨u, hug, hun⟩⟩

/-! ## Constructions -/

theorem forall_mem_nodes_iff {p : TypeExpr → Prop} {t : TypeExpr} :
    (∀ u ∈ t.nodes, p u) ↔ p t ∧ ∀ g ∈ t.generics, ∀ u ∈ g.nodes, p u := by
  rw [nodes_eq, List.forall_mem_cons, List.forall_mem_flatMap]

theorem render_eq (t : TypeExpr) :
    t.render = t.name ∨ ∃ inner, t.render = t.name ++ "<" ++ inner ++ ">" := by
  obtain ⟨_, _, generics, _, _, _, _⟩ := t
  cases generics with
  | nil => exact Or.inl (by simp only [render])
  | cons g rest => exact Or.inr ⟨", ".intercalate (renderAll (g :: rest)), by simp only [render]⟩

/-- An expression that is no `Option` yet is written inside one. -/
theorem render_option {t : TypeExpr} (h : t.isOption = false) :
    (option t).render = "Option<" ++ t.render ++ ">" := by
  rw [option, if_neg (by simp [h])]
  simp only [render, renderAll, String.intercalate_singleton]
  rw [show "Option<" = "Option" ++ "<" by decide +kernel]

end SchemaStructs.Rust.TypeExpr
