import SchemaStructs.Proofs.Mapping.Soundness

/-!
# Types that fall back to text

Arrays, ranges and domains hand on what fell back inside them. A declared composite keeps the
fallbacks of its fields to itself, for its declaration to report. So a mapped type reports at most
one fallback, that of the type inside all arrays, ranges and domains.
-/

namespace SchemaStructs.Catalog

/-- The type inside all arrays, ranges and domains. -/
def TypeRef.core : TypeRef → TypeRef
  | .array element _ => element.core
  | .range subtype _ => subtype.core
  | .domain _ underlying _ => underlying.core
  | type => type

end SchemaStructs.Catalog

namespace SchemaStructs.Mapping

open Catalog Rust

variable {registry : Registry}

/-- Why a type is read as text: the catalog did not recognise it, it is a scalar without
counterpart, or the registry has no enum or composite of its name. -/
def fallback? (registry : Registry) (type : TypeRef) : Option Unrecognized :=
  match type.core with
  | .unrecognized type => some type
  | .scalar s =>
    if (scalarType? s).isSome then none else some ⟨s.kind, "no Rust mapping for this type"⟩
  | .enum name _ =>
    if (registry.get? name).any (·.isEnum) then none
    else some ⟨name.text, "enum not found in catalog"⟩
  | .composite name _ =>
    if (registry.get? name).any (·.isComposite) then none
    else some ⟨name.text, "composite type not found in catalog"⟩
  | _ => none

theorem fallback?_scalar (s : Scalar) : fallback? registry (.scalar s) =
    if (scalarType? s).isSome then none else some ⟨s.kind, "no Rust mapping for this type"⟩ := rfl

theorem fallback?_enum (name : QualifiedName) (labels : List String) :
    fallback? registry (.enum name labels) = if (registry.get? name).any (·.isEnum) then none
      else some ⟨name.text, "enum not found in catalog"⟩ := rfl

theorem fallback?_composite (name : QualifiedName) (fields : List (Attribute TypeRef)) :
    fallback? registry (.composite name fields) = if (registry.get? name).any (·.isComposite)
      then none
      else some ⟨name.text, "composite type not found in catalog"⟩ := rfl

theorem core_core (type : TypeRef) : type.core.core = type.core := by
  induction type using TypeRef.core.induct with
  | case1 element dimension ih => exact ih
  | case2 subtype name ih => exact ih
  | case3 name underlying notNull ih => exact ih
  | case4 type harray hrange hdomain =>
    rw [TypeRef.core.eq_4 type harray hrange hdomain, TypeRef.core.eq_4 type harray hrange hdomain]

/-! ## What a mapped type reports -/

theorem unsupported_mapEnum (name : QualifiedName) (labels : List String) :
    (mapEnum registry name).unsupported = (fallback? registry (.enum name labels)).toList := by
  rw [mapEnum, fallback?_enum]
  split
  · rename_i name' labels' hget
    rw [hget]
    rfl
  · rename_i hnone
    have hnot : ¬ (registry.get? name).any (·.isEnum) = true := by
      rw [Option.any_eq_true]
      rintro ⟨type, hget, henum⟩
      cases type with
      | enum name' labels' => exact hnone name' labels' hget
      | _ => cases henum
    rw [if_neg hnot]
    rfl

/-- A mapped type reports what its core falls back for if mapped composites do. -/
theorem unsupported_of_mapWith {f : QualifiedName → Except MappingError Mapped}
    (hf : ∀ n m, f n = .ok m → ∀ fields,
      m.unsupported = (fallback? registry (.composite n fields)).toList) {type : TypeRef}
        {m : Mapped}
    (h : mapWith registry f type = .ok m) : m.unsupported = (fallback? registry type).toList := by
  fun_induction mapWith registry f type generalizing m with
  | case1 s =>
    cases h
    rw [fallback?_scalar]
    cases scalarType? s <;> rfl
  | case2 element dimension ih =>
    obtain ⟨m', hm', rfl⟩ := map_eq_ok_iff.1 h
    have hcore := ih hm'
    exact hcore
  | case3 name labels =>
    cases h
    exact unsupported_mapEnum name labels
  | case4 name fields => exact hf name m h fields
  | case5 subtype rangeName ih =>
    obtain ⟨m', hm', rfl⟩ := map_eq_ok_iff.1 h
    have hcore := ih hm'
    exact hcore
  | case6 name underlying notNull ih => exact ih h
  | case7 type =>
    cases h
    rfl
  | case8 sort => cases h

theorem unsupported_of_mapComposite {steps : Nat} {name : QualifiedName} {m : Mapped}
    (h : mapComposite registry steps name = .ok m) (fields : List (Attribute TypeRef)) :
    m.unsupported = (fallback? registry (.composite name fields)).toList := by
  cases steps with
  | zero => cases h
  | succ steps =>
    rw [fallback?_composite]
    rcases mapComposite_succ_eq_ok_iff.1 h with ⟨name', source, mapped, hget, -, rfl⟩ | ⟨hnone, rfl⟩
    · rw [hget]
      rfl
    · have hnot : ¬ (registry.get? name).any (·.isComposite) = true := by
        rw [Option.any_eq_true]
        rintro ⟨type, hget, hcomposite⟩
        cases type with
        | composite name' source => exact hnone name' source hget
        | _ => cases hcomposite
      rw [if_neg hnot]
      rfl

/-- A mapped type reports the fallback of the type at its core, and nothing else. -/
theorem unsupported_of_mapType {type : TypeRef} {m : Mapped} (h : mapType registry type = .ok m) :
    m.unsupported = (fallback? registry type).toList :=
  unsupported_of_mapWith (fun _ _ => unsupported_of_mapComposite) h

/-- A type falls back exactly if what is at its core is mapped to a text. -/
theorem fallback?_eq_some_iff {type : TypeRef} {u : Unrecognized} :
    fallback? registry type = some u ↔ mapType registry type.core = .ok (.fallback u) := by
  constructor
  · intro h
    rw [fallback?] at h
    split at h
    · rename_i u' hcore
      cases h
      rw [hcore]
      rfl
    · rename_i s hcore
      obtain ⟨hs, h⟩ := Option.ite_none_left_eq_some.1 h
      cases h
      rw [hcore, mapType, mapWith, Option.not_isSome_iff_eq_none.1 hs]
    · rename_i name labels hcore
      obtain ⟨henum, h⟩ := Option.ite_none_left_eq_some.1 h
      cases h
      rw [hcore, mapType, mapWith, mapEnum]
      split
      · rename_i hget
        exact absurd (by rw [hget]; rfl) henum
      · rfl
    · rename_i name fields hcore
      obtain ⟨hcomposite, h⟩ := Option.ite_none_left_eq_some.1 h
      cases h
      rw [hcore, mapType, mapWith]
      refine mapComposite_succ_eq_ok_iff.2 (Or.inr ⟨fun name' fields' hget => ?_, rfl⟩)
      exact hcomposite (by rw [hget]; rfl)
    · cases h
  · intro h
    have hreport := unsupported_of_mapType h
    rw [fallback?, core_core] at hreport
    exact (Option.toList_eq_singleton_iff.1 hreport.symm)

end SchemaStructs.Mapping
