import SchemaStructs.Proofs.Mapping.Soundness

/-!
# Crate types of mapped types

Whatever the catalog says, the types of other crates that a mapped type uses are those of a fixed
list. No two of them have the same last segment, and none has the name of a type of the prelude.
-/

namespace SchemaStructs.Mapping

open Catalog Rust Identifier

variable {registry : Registry}

/-- The paths of all crate types that scalars and ranges are mapped to. -/
def cratePaths : List String :=
  (scalarTypes.flatMap fun e => e.2.paths) ++ ["sqlx::postgres::types::PgRange"]

/-- What is asked of the path of a crate type: it has no dot, the name it is imported under is no
raw identifier and no built-in type, and no other path of the list is imported under that name. -/
structure IsCratePath (p : String) : Prop where
  no_dot : '.' ∉ p.toList
  bare_eq : bare (lastSegment p) = lastSegment p
  not_builtin : lastSegment p ∉ builtinNames
  eq_of_lastSegment : ∀ q ∈ cratePaths, lastSegment p = lastSegment q → p = q

theorem isCratePath_of_mem {p : String} (hp : p ∈ cratePaths) : IsCratePath p := by
  have hall : ∀ p ∈ cratePaths, '.' ∉ p.toList ∧ bare (lastSegment p) = lastSegment p ∧
      lastSegment p ∉ builtinNames ∧ ∀ q ∈ cratePaths, lastSegment p = lastSegment q → p = q := by
    decide +kernel
  obtain ⟨hdot, hbare, hbuiltin, hinj⟩ := hall p hp
  exact ⟨hdot, hbare, hbuiltin, hinj⟩

theorem paths_option (t : TypeExpr) : (TypeExpr.option t).paths = t.paths := by
  unfold TypeExpr.option
  split
  · rfl
  · simp [TypeExpr.paths_eq]

theorem paths_vec (t : TypeExpr) (n : Nat) : (TypeExpr.vec t n).paths = t.paths := by
  induction n with
  | zero => rfl
  | succ n ih =>
    rw [TypeExpr.paths_eq]
    simpa [TypeExpr.vec] using ih

theorem mem_cratePaths_of_scalarType {s : Scalar} {t : TypeExpr} (h : scalarType? s = some t)
    {p : String} (hp : p ∈ t.paths) : p ∈ cratePaths := by
  obtain ⟨base, hbase, rfl⟩ := Option.map_eq_some_iff.1 h
  obtain ⟨l₁, l₂, hl, -⟩ := List.lookup_eq_some_iff.1 hbase
  have hmem : (canonicalKind s.kind, base) ∈ scalarTypes := by rw [hl]; simp
  rw [TypeExpr.paths_eq] at hp
  refine List.mem_append_left _ (List.mem_flatMap.2 ⟨_, hmem, ?_⟩)
  rwa [TypeExpr.paths_eq]

theorem paths_mapEnum (name : QualifiedName) : (mapEnum registry name).type.paths = [] := by
  unfold mapEnum
  split <;> rfl

/-- Mapped types use crate types of the list if mapped composites do. -/
theorem mem_cratePaths_of_mapWith {f : QualifiedName → Except MappingError Mapped}
    (hf : ∀ n m, f n = .ok m → m.type.paths = []) {type : TypeRef} {m : Mapped}
    (h : mapWith registry f type = .ok m) : ∀ p ∈ m.type.paths, p ∈ cratePaths := by
  fun_induction mapWith registry f type generalizing m with
  | case1 s =>
    cases h
    intro p hp
    cases hs : scalarType? s with
    | none =>
      rw [hs] at hp
      cases hp
    | some t =>
      rw [hs] at hp
      exact mem_cratePaths_of_scalarType hs hp
  | case2 element dimension ih =>
    obtain ⟨m', hm', rfl⟩ := map_eq_ok_iff.1 h
    intro p hp
    rw [Mapped.mapType, paths_vec] at hp
    exact ih hm' p hp
  | case3 name labels =>
    cases h
    simp [paths_mapEnum]
  | case4 name fields => simp [hf name m h]
  | case5 subtype rangeName ih =>
    obtain ⟨m', hm', rfl⟩ := map_eq_ok_iff.1 h
    intro p hp
    rw [Mapped.mapType, TypeExpr.paths_eq] at hp
    rcases List.mem_append.1 hp with hp | hp
    · obtain ⟨hp, -⟩ := Option.mem_filter_iff.1 (Option.mem_toList.1 hp)
      cases hp
      exact List.mem_append_right _ List.mem_cons_self
    · exact ih hm' p (by simpa [TypeExpr.external] using hp)
  | case6 name underlying notNull ih => exact ih h
  | case7 type =>
    cases h
    intro p hp
    cases hp
  | case8 sort => cases h

theorem paths_of_mapComposite {steps : Nat} {name : QualifiedName} {m : Mapped}
    (h : mapComposite registry steps name = .ok m) : m.type.paths = [] := by
  cases steps with
  | zero => cases h
  | succ steps =>
    rcases mapComposite_succ_eq_ok_iff.1 h with ⟨name', source, mapped, -, -, rfl⟩ | ⟨-, rfl⟩
    · rfl
    · rfl

/-- The crate types of a mapped type are of the list. -/
theorem mem_cratePaths_of_mapNullable {type : TypeRef} {isNullable : Bool} {m : Mapped}
    (h : mapNullable registry type isNullable = .ok m) : ∀ p ∈ m.type.paths, p ∈ cratePaths := by
  obtain ⟨m', hm', rfl⟩ := map_eq_ok_iff.1 h
  have hpaths := mem_cratePaths_of_mapWith (fun _ _ => paths_of_mapComposite) hm'
  cases isNullable with
  | false => exact hpaths
  | true =>
    intro p hp
    rw [Mapped.nullable, if_pos rfl, Mapped.mapType, paths_option] at hp
    exact hpaths p hp

theorem Declares.mem_cratePaths {d : Declaration} (hd : Declares registry d) {f : RecordField}
    (hf : f ∈ d.fields) {p : String} (hp : p ∈ f.2.paths) : p ∈ cratePaths := by
  obtain ⟨-, -, -, field, -, m, hmaps, htype⟩ := hd.exists_mapsField hf
  rw [htype] at hp
  exact mem_cratePaths_of_mapNullable hmaps.2 p hp

end SchemaStructs.Mapping
