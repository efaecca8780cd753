import SchemaStructs.Mapping.Declaration
import SchemaStructs.Proofs.Sorting

/-!
# Lists of declarations by name

The declarations of a mapped type stand in strictly ascending order of their names. Union keeps that
order and holds the names of both lists.
-/

namespace SchemaStructs.Mapping.Declaration

open Catalog Comparison

/-- Declarations in strictly ascending order of their names. -/
def Ordered (ds : List Declaration) : Prop :=
  ds.Pairwise fun d e => Before QualifiedName.le d.name e.name

theorem Ordered.nodup_names {ds : List Declaration} (h : Ordered ds) : (ds.map name).Nodup :=
  List.pairwise_map.2 (h.imp fun hde => hde.2)

theorem mem_of_mem_insert {d e : Declaration} {ds : List Declaration} (h : e ∈ insert d ds) :
    e = d ∨ e ∈ ds := by
  induction ds with
  | nil => exact Or.inl (List.mem_singleton.1 h)
  | cons f rest ih =>
    unfold insert at h
    split at h
    · exact Or.inr h
    · split at h
      · exact List.mem_cons.1 h
      · rcases List.mem_cons.1 h with rfl | h
        · exact Or.inr List.mem_cons_self
        · exact (ih h).imp_right (List.mem_cons_of_mem f)

theorem mem_names_insert {d : Declaration} {ds : List Declaration} {n : QualifiedName} :
    n ∈ (insert d ds).map name ↔ n = d.name ∨ n ∈ ds.map name := by
  induction ds with
  | nil => simp [insert]
  | cons e rest ih =>
    unfold insert
    split
    · rename_i h
      simp [h]
    · split
      · simp
      · rw [List.map_cons, List.mem_cons, ih, List.map_cons, List.mem_cons]
        exact or_left_comm

theorem Ordered.insert {ds : List Declaration} (h : Ordered ds) (d : Declaration) :
    Ordered (insert d ds) := by
  induction ds with
  | nil => exact List.pairwise_singleton _ _
  | cons e rest ih =>
    obtain ⟨he, hrest⟩ := List.pairwise_cons.1 h
    unfold Declaration.insert
    split
    · exact h
    · rename_i hne
      split
      · rename_i hle
        refine List.pairwise_cons.2 ⟨fun f hf => ?_, h⟩
        rcases List.mem_cons.1 hf with rfl | hf
        · exact ⟨hle, hne⟩
        · exact QualifiedName.le_linear.before_trans ⟨hle, hne⟩ (he f hf)
      · rename_i hle
        refine List.pairwise_cons.2 ⟨fun f hf => ?_, ih hrest⟩
        rcases mem_of_mem_insert hf with rfl | hf
        · exact QualifiedName.le_linear.before_of_not_le hle
        · exact he f hf

theorem mem_of_mem_union {ds es : List Declaration} {d : Declaration} (h : d ∈ union ds es) :
    d ∈ ds ∨ d ∈ es := by
  induction es with
  | nil => exact Or.inl h
  | cons e rest ih =>
    rcases mem_of_mem_insert h with rfl | h
    · exact Or.inr List.mem_cons_self
    · exact (ih h).imp_right (List.mem_cons_of_mem e)

theorem mem_names_union {ds es : List Declaration} {n : QualifiedName} :
    n ∈ (union ds es).map name ↔ n ∈ ds.map name ∨ n ∈ es.map name := by
  induction es with
  | nil => simp [union]
  | cons e rest ih =>
    have hcons : union ds (e :: rest) = insert e (union ds rest) := rfl
    rw [hcons, mem_names_insert, ih, List.map_cons, List.mem_cons]
    exact or_left_comm

theorem Ordered.union {ds : List Declaration} (h : Ordered ds) (es : List Declaration) :
    Ordered (union ds es) := by
  induction es with
  | nil => exact h
  | cons e rest ih => exact ih.insert e

end SchemaStructs.Mapping.Declaration
