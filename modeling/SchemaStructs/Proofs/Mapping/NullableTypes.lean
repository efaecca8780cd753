import SchemaStructs.Proofs.Mapping.ReachableDeclarations

/-!
# Types of values that may be null

The type of a value that may be null is written inside an `Option`. Whether it is one already is
seen by its name. Arrays, ranges, scalars and what falls back to text are mapped to types of other
names, but an enum or a composite may be called `Option`, and is then left as it is.
-/

namespace SchemaStructs

open Catalog Mapping Rust

/-- The type is the enum or composite that is registered under the name. Domains are what is under
them, and so is an array without dimensions. -/
inductive Catalog.Registry.Denotes (registry : Registry) : TypeRef → QualifiedName → Prop
  | enum {name name' : QualifiedName} {labels labels' : List String} :
      registry.get? name = some (.enum name' labels') → Denotes registry (.enum name labels) name
  | composite {name name' : QualifiedName} {fields fields' : List (Attribute TypeRef)} :
      registry.get? name = some (.composite name' fields') →
        Denotes registry (.composite name fields) name
  | domain {name n : QualifiedName} {underlying : TypeRef} {notNull : Bool} :
      Denotes registry underlying n → Denotes registry (.domain name underlying notNull) n
  | array {element : TypeRef} {n : QualifiedName} :
      Denotes registry element n → Denotes registry (.array element 0) n

/-- A type is no two enums or composites. -/
theorem Catalog.Registry.Denotes.unique {registry : Registry} {t : TypeRef} {n n' : QualifiedName}
    (h : registry.Denotes t n) (h' : registry.Denotes t n') : n = n' := by
  induction h with
  | enum hget => cases h' with | enum _ => rfl
  | composite hget => cases h' with | composite _ => rfl
  | domain _ ih => cases h' with | domain h' => exact ih h'
  | array _ ih => cases h' with | array h' => exact ih h'

namespace Mapping

variable {registry : Registry}

/-- A type that denotes a declared one is mapped to its identifier. What any other is mapped to is
no `Option`. -/
inductive ShowsDeclared (registry : Registry) (t : TypeRef) (u : TypeExpr) : Prop
  | declared {n : QualifiedName} (hn : registry.Denotes t n)
      (hu : u = { name := Identifier.typeName n.name, declaration := some n })
  | other (hn : ∀ n, ¬ registry.Denotes t n) (hu : u.isOption = false)

theorem isOption_eq_false_of_name {u : TypeExpr} (h : u.name ≠ "Option") : u.isOption = false := by
  rw [TypeExpr.isOption, Bool.and_eq_false_iff, beq_eq_false_iff_ne]
  exact .inl h

theorem isOption_scalar {s : Scalar} {u : TypeExpr} (h : scalarType? s = some u) :
    u.isOption = false := by
  obtain ⟨base, hbase, rfl⟩ := Option.map_eq_some_iff.1 h
  obtain ⟨l₁, l₂, hl, -⟩ := List.lookup_eq_some_iff.1 hbase
  have hmem : (canonicalKind s.kind, base) ∈ scalarTypes := by rw [hl]; simp
  exact isOption_eq_false_of_name (scalarTypes_standard _ hmem).1.1

theorem ShowsDeclared.enum (name : QualifiedName) (labels : List String) :
    ShowsDeclared registry (.enum name labels) (mapEnum registry name).type := by
  unfold mapEnum
  split
  · rename_i name' labels' hget
    exact .declared (.enum hget) rfl
  · rename_i hnone
    refine .other (fun n hn => ?_) rfl
    cases hn with
    | enum hget => exact hnone _ _ hget

/-- A mapped type shows what it denotes if mapped composites do. -/
theorem showsDeclared_of_mapWith {f : QualifiedName → Except MappingError Mapped}
    (hf : ∀ name m, f name = .ok m → ∀ fields,
      ShowsDeclared registry (.composite name fields) m.type)
    {t : TypeRef} {m : Mapped} (h : mapWith registry f t = .ok m) :
      ShowsDeclared registry t m.type := by
  fun_induction mapWith registry f t generalizing m with
  | case1 s =>
    cases h
    refine .other (fun n hn => by cases hn) ?_
    split
    · rename_i u hu
      exact isOption_scalar hu
    · rfl
  | case2 element dimension ih =>
    obtain ⟨m', hm', rfl⟩ := map_eq_ok_iff.1 h
    -- Without dimensions an array is mapped as its element, so it denotes what that denotes.
    cases dimension with
    | zero =>
      cases ih hm' with
      | declared hn hu => exact .declared (.array hn) hu
      | other hn hu => exact .other (fun n h => by cases h with | array h => exact hn n h) hu
    | succ dimension => exact .other (fun n hn => by cases hn) (TypeExpr.isOption_vec_succ _ _)
  | case3 name labels =>
    cases h
    exact .enum name labels
  | case4 name fields => exact hf name m h fields
  | case5 subtype rangeName ih =>
    obtain ⟨m', hm', rfl⟩ := map_eq_ok_iff.1 h
    exact .other (fun n hn => by cases hn) (Bool.and_false _)
  | case6 name underlying notNull ih =>
    cases ih h with
    | declared hn hu => exact .declared (.domain hn) hu
    | other hn hu => exact .other (fun n h => by cases h with | domain h => exact hn n h) hu
  | case7 u =>
    cases h
    exact .other (fun n hn => by cases hn) rfl
  | case8 sort => cases h

theorem showsDeclared_of_mapComposite {steps : Nat} {name : QualifiedName} {m : Mapped}
    (h : mapComposite registry steps name = .ok m) (fields : List (Attribute TypeRef)) :
    ShowsDeclared registry (.composite name fields) m.type := by
  cases steps with
  | zero => cases h
  | succ steps =>
    rcases mapComposite_succ_eq_ok_iff.1 h with ⟨name', source, mapped, hget, -, rfl⟩ | ⟨hnone, rfl⟩
    · exact .declared (.composite hget) rfl
    · refine .other (fun n hn => ?_) rfl
      cases hn with
      | composite hget => exact hnone _ _ hget

theorem showsDeclared_of_mapType {t : TypeRef} {m : Mapped} (h : mapType registry t = .ok m) :
    ShowsDeclared registry t m.type :=
  showsDeclared_of_mapWith (fun _ _ => showsDeclared_of_mapComposite) h

/-! ## Wrapping -/

/-- An expression is written inside an `Option` exactly if it is none: no text is inside itself. -/
theorem render_option_eq_iff {u : TypeExpr} :
    (TypeExpr.option u).render = "Option<" ++ u.render ++ ">" ↔ u.isOption = false := by
  refine ⟨fun h => Bool.eq_false_iff.2 fun hoption => ?_, TypeExpr.render_option⟩
  rw [TypeExpr.option, if_pos hoption] at h
  have hlength := congrArg String.length h
  simp only [String.length_append] at hlength
  have hmark : "Option<".length = 7 := rfl
  omega

/-- Only a declared type called `Option` is left as it is. -/
theorem ShowsDeclared.isOption_eq_false_iff {t : TypeRef} {u : TypeExpr}
    (h : ShowsDeclared registry t u) :
    u.isOption = false ↔ ∀ n, registry.Denotes t n → Identifier.typeName n.name ≠ "Option" := by
  cases h with
  | other hn hu => exact ⟨fun _ n hdenotes => absurd hdenotes (hn n), fun _ => hu⟩
  | @declared n hn hu =>
    subst hu
    have hname : TypeExpr.isOption
        { name := Identifier.typeName n.name, declaration := some n } = false ↔
          Identifier.typeName n.name ≠ "Option" := by
      simp [TypeExpr.isOption]
    rw [hname]
    exact ⟨fun hne n' hn' => hn.unique hn' ▸ hne, fun hne => hne n hn⟩

/-- A type that leads to nothing but types is mapped. For a value that takes no null it is written
as it is mapped, and with nulls inside an `Option` unless it is a declared type of that name. -/
theorem mapNullable_wraps_iff (hmade : registry.Made) {t : TypeRef}
    (ht : ∀ sort, ¬ Visits registry t (.foreign sort)) :
    ∃ m bare wrapped, mapType registry t = .ok m ∧
      mapNullable registry t false = .ok bare ∧ mapNullable registry t true = .ok wrapped ∧
      bare.type.render = m.type.render ∧
      (∀ m' ∈ [bare, wrapped], m'.declarations = m.declarations ∧ m'.unsupported = m.unsupported) ∧
      (wrapped.type.render = "Option<" ++ m.type.render ++ ">" ↔
        ∀ n, registry.Denotes t n → Identifier.typeName n.name ≠ "Option") := by
  obtain ⟨m, hm⟩ := (exists_mapType_iff hmade t).2 ht
  refine ⟨m, m, m.mapType .option, hm, map_eq_ok_iff.2 ⟨m, hm, rfl⟩, map_eq_ok_iff.2 ⟨m, hm, rfl⟩,
    rfl, ?_, ?_⟩
  · simp [Mapped.mapType]
  · exact render_option_eq_iff.trans (showsDeclared_of_mapType hm).isOption_eq_false_iff

/-- A domain over an enum, with another domain between. -/
def moodDomain : TypeRef :=
  .domain ⟨"public", "current_mood"⟩
    (.domain ⟨"public", "any_mood"⟩ (.enum ⟨"public", "mood"⟩ ["ok", "sad"]) false)
    true

theorem moodDomain_wraps :
    (Registry.ofTypes [moodDomain]).Made ∧
      (∀ sort, ¬ Visits (.ofTypes [moodDomain]) moodDomain (.foreign sort)) ∧
      ∃ m bare wrapped, mapType (.ofTypes [moodDomain]) moodDomain = .ok m ∧
        mapNullable (.ofTypes [moodDomain]) moodDomain false = .ok bare ∧
        mapNullable (.ofTypes [moodDomain]) moodDomain true = .ok wrapped ∧
        bare.type.render = "Mood" ∧ wrapped.type.render = "Option<Mood>" := by
  have htypes : ∀ sort, ¬ Visits (.ofTypes [moodDomain]) moodDomain (.foreign sort) :=
    (exists_mapType_iff (.ofTypes _) moodDomain).1 ⟨_, rfl⟩
  obtain ⟨m, bare, wrapped, hm, hbare, hwrapped, hrender, -, hiff⟩ :=
    mapNullable_wraps_iff (.ofTypes [moodDomain]) htypes
  have hmood : m.type.render = "Mood" := by
    cases hm
    decide +kernel
  have hname : ∀ n, (Registry.ofTypes [moodDomain]).Denotes moodDomain n →
      Identifier.typeName n.name ≠ "Option" := by
    rintro n (_ | _ | ⟨_ | _ | ⟨_ | _⟩⟩)
    decide +kernel
  refine ⟨.ofTypes _, htypes, m, bare, wrapped, hm, hbare, hwrapped, hrender.trans hmood, ?_⟩
  rw [hiff.2 hname, hmood]
  decide +kernel

/-- An enum whose identifier is that of the wrapper. -/
def optionEnum : TypeRef := .enum ⟨"public", "option"⟩ ["a"]

theorem not_forall_wraps :
    ¬ ∀ registry : Registry, registry.Made → ∀ t : TypeRef,
      (∀ sort, ¬ Visits registry t (.foreign sort)) →
      ∀ m wrapped, mapType registry t = .ok m → mapNullable registry t true = .ok wrapped →
        wrapped.type.render = "Option<" ++ m.type.render ++ ">" := by
  intro h
  have htypes : ∀ sort, ¬ Visits (.ofTypes [optionEnum]) optionEnum (.foreign sort) :=
    (exists_mapType_iff (.ofTypes _) optionEnum).1 ⟨_, rfl⟩
  have hwrapped := h (.ofTypes [optionEnum]) (.ofTypes _) optionEnum htypes _ _ rfl rfl
  exact absurd hwrapped (by decide +kernel)

end Mapping

end SchemaStructs
