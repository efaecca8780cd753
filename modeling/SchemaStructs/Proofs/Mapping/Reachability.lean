import SchemaStructs.Mapping.TypeMapping
import SchemaStructs.Proofs.Success

/-!
# Types reached through the registry

A catalog type reaches an enum or composite if it leads there through arrays, ranges, domains and
the registered fields of composites. Which declaration stands for a name is decided by the registry
alone: `Declares` holds of at most one declaration of each name.
-/

namespace SchemaStructs.Catalog

/-- The enums and composites below a type. A composite is followed by its registered definition, and
a name counts only if it is registered with the kind that the type has. -/
inductive Registry.Reaches (registry : Registry) : TypeRef → QualifiedName → Prop
  | array {element : TypeRef} {dimension : Nat} {n : QualifiedName} :
      Reaches registry element n → Reaches registry (.array element dimension) n
  | range {subtype : TypeRef} {rangeName : String} {n : QualifiedName} :
      Reaches registry subtype n → Reaches registry (.range subtype rangeName) n
  | domain {name : QualifiedName} {underlying : TypeRef} {notNull : Bool} {n : QualifiedName} :
      Reaches registry underlying n → Reaches registry (.domain name underlying notNull) n
  | enum {name name' : QualifiedName} {labels labels' : List String} :
      registry.get? name = some (.enum name' labels') → Reaches registry (.enum name labels) name
  | composite {name name' : QualifiedName} {fields fields' : List (Attribute TypeRef)} :
      registry.get? name = some (.composite name' fields') →
      Reaches registry (.composite name fields) name
  | field {name name' n : QualifiedName} {fields fields' : List (Attribute TypeRef)}
      {field : Attribute TypeRef} :
      registry.get? name = some (.composite name' fields') → field ∈ fields' →
      Reaches registry field.type n → Reaches registry (.composite name fields) n

/-- What a registered field of a reached composite reaches is reached. -/
theorem Registry.Reaches.trans_field {registry : Registry} {type : TypeRef}
    {name name' n : QualifiedName} {fields : List (Attribute TypeRef)} {field : Attribute TypeRef}
    (h : registry.Reaches type name) (hname : registry.get? name = some (.composite name' fields))
    (hfield : field ∈ fields) (hn : registry.Reaches field.type n) : registry.Reaches type n := by
  induction h with
  | array _ ih => exact .array (ih hname)
  | range _ ih => exact .range (ih hname)
  | domain _ ih => exact .domain (ih hname)
  | enum henum => rw [hname] at henum; cases henum
  | composite _ => exact .field hname hfield hn
  | field hreg hmem _ ih => exact .field hreg hmem (ih hname)

end SchemaStructs.Catalog

namespace SchemaStructs.Mapping

open Catalog Rust

variable {registry : Registry}

/-! ## Steps of a mapping -/

/-- A mapping that ends gives the same result if composites are mapped by more. -/
theorem mapWith_mono {f g : QualifiedName → Except MappingError Mapped}
    (hfg : ∀ n m, f n = .ok m → g n = .ok m) {type : TypeRef} {m : Mapped}
    (h : mapWith registry f type = .ok m) : mapWith registry g type = .ok m := by
  fun_induction mapWith registry f type generalizing m with
  | case1 s => exact h
  | case2 element dimension ih =>
    obtain ⟨m', hm', rfl⟩ := map_eq_ok_iff.1 h
    exact map_eq_ok_iff.2 ⟨m', ih hm', rfl⟩
  | case3 name labels => exact h
  | case4 name fields => exact hfg _ _ h
  | case5 subtype rangeName ih =>
    obtain ⟨m', hm', rfl⟩ := map_eq_ok_iff.1 h
    exact map_eq_ok_iff.2 ⟨m', ih hm', rfl⟩
  | case6 name underlying notNull ih => exact ih h
  | case7 type => exact h
  | case8 sort => cases h

/-- A field of a record with its mapped type, given how composites are mapped. -/
def mapFieldWith (registry : Registry) (composite : QualifiedName → Except MappingError Mapped)
    (field : Attribute TypeRef) : Except MappingError (String × Mapped) := do
  let m ← mapWith registry composite field.type
  pure (field.name, m.nullable (fieldIsNullable field))

theorem mapFieldWith_mono {f g : QualifiedName → Except MappingError Mapped}
    (hfg : ∀ n m, f n = .ok m → g n = .ok m) {field : Attribute TypeRef} {m : String × Mapped}
    (h : mapFieldWith registry f field = .ok m) : mapFieldWith registry g field = .ok m := by
  obtain ⟨m', hm', hm⟩ := bind_eq_ok_iff.1 h
  exact bind_eq_ok_iff.2 ⟨m', mapWith_mono hfg hm', hm⟩

/-- One step into a composite: a mapping of a registered composite maps its fields. -/
theorem mapComposite_succ_eq_ok_iff {steps : Nat} {name : QualifiedName} {m : Mapped} :
    mapComposite registry (steps + 1) name = .ok m ↔
      (∃ name' fields mapped, registry.get? name = some (.composite name' fields) ∧
        List.Forall₂
          (fun field n => mapFieldWith registry (mapComposite registry steps) field = .ok n)
          fields mapped ∧ m = declareComposite name fields mapped) ∨
      ((∀ name' fields, registry.get? name ≠ some (.composite name' fields)) ∧
        m = .fallback ⟨name.text, "composite type not found in catalog"⟩) := by
  rw [mapComposite]
  split
  · rename_i name' fields hget
    rw [bind_eq_ok_iff]
    constructor
    · rintro ⟨mapped, hmapped, hm⟩
      exact Or.inl ⟨name', fields, mapped, hget, mapM_eq_ok_iff.1 hmapped,
        (pure_eq_ok_iff.1 hm).symm⟩
    · rintro (⟨_, _, mapped, hget', hmapped, rfl⟩ | ⟨hnone, -⟩)
      · rw [hget] at hget'
        cases hget'
        exact ⟨mapped, mapM_eq_ok_iff.2 hmapped, rfl⟩
      · exact absurd hget (hnone _ _)
  · rename_i hnone
    constructor
    · rintro ⟨⟩
      exact Or.inr ⟨hnone, rfl⟩
    · rintro (⟨name', fields, _, hget, -⟩ | ⟨-, rfl⟩)
      · exact absurd hget (hnone _ _)
      · rfl

theorem mapComposite_mono {steps steps' : Nat} (hle : steps ≤ steps') {name : QualifiedName}
    {m : Mapped} (h : mapComposite registry steps name = .ok m) :
    mapComposite registry steps' name = .ok m := by
  induction steps generalizing steps' name m with
  | zero => cases h
  | succ steps ih =>
    obtain ⟨steps', rfl⟩ : ∃ k, steps' = k + 1 := ⟨steps' - 1, by omega⟩
    rw [mapComposite_succ_eq_ok_iff] at h ⊢
    refine h.imp_left ?_
    rintro ⟨name', fields, mapped, hget, hmapped, hm⟩
    refine ⟨name', fields, mapped, hget, hmapped.imp fun field n hn => ?_, hm⟩
    exact mapFieldWith_mono (fun _ _ => ih (Nat.le_of_succ_le_succ hle)) hn

/-! ## The declaration of a name -/

/-- A field of a record and the name and mapped type that it is declared with. -/
def MapsField (registry : Registry) (field : Attribute TypeRef) (m : String × Mapped) : Prop :=
  m.1 = field.name ∧ mapNullable registry field.type (fieldIsNullable field) = .ok m.2

theorem mapFieldWith_eq_ok_iff {field : Attribute TypeRef} {m : String × Mapped} :
    mapFieldWith registry (mapComposite registry (registry.size + 1)) field = .ok m ↔
      MapsField registry field m := by
  obtain ⟨name, mapped⟩ := m
  rw [mapFieldWith, bind_eq_ok_iff, MapsField, mapNullable, map_eq_ok_iff]
  constructor
  · rintro ⟨m', hm', h⟩
    obtain ⟨rfl, rfl⟩ := Prod.mk.inj (pure_eq_ok_iff.1 h)
    exact ⟨rfl, m', hm', rfl⟩
  · rintro ⟨rfl, m', hm', rfl⟩
    exact ⟨m', hm', rfl⟩

/-- The declarations that the mapped fields of a record need. -/
def neededBy (mapped : List (String × Mapped)) : List Declaration :=
  mapped.foldl (fun ds m => Declaration.union ds m.2.declarations) []

/-- The declaration of a composite with mapped fields. -/
def recordDeclaration (name : QualifiedName) (source : List (Attribute TypeRef))
    (mapped : List (String × Mapped)) : Declaration where
  name
  identifier := Identifier.typeName name.name
  body :=
    .composite source (mapped.map fun m => (m.1, m.2.type)) ((neededBy mapped).map Declaration.name)
    (mapped.flatMap fun m => m.2.unsupported.map (m.1, ·))

theorem declareComposite_eq (name : QualifiedName) (source : List (Attribute TypeRef))
    (mapped : List (String × Mapped)) :
    declareComposite name source mapped =
      .declared (recordDeclaration name source mapped) (neededBy mapped) := rfl

/-- A declaration is what the registry says of its name. -/
inductive Declares (registry : Registry) : Declaration → Prop
  | enum {name name' : QualifiedName} {labels : List String} :
      registry.get? name = some (.enum name' labels) →
      Declares registry ⟨name, Identifier.typeName name.name, .enum labels⟩
  | composite {name name' : QualifiedName} {source : List (Attribute TypeRef)}
      {mapped : List (String × Mapped)} :
      registry.get? name = some (.composite name' source) →
      List.Forall₂ (MapsField registry) source mapped →
      Declares registry (recordDeclaration name source mapped)

theorem MapsField.unique {field : Attribute TypeRef} {m m' : String × Mapped}
    (h : MapsField registry field m) (h' : MapsField registry field m') : m = m' :=
  Prod.ext (h.1.trans h'.1.symm) (Except.ok.inj (h.2.symm.trans h'.2))

/-- Declarations of one name are the same. -/
theorem Declares.unique {d e : Declaration} (hd : Declares registry d) (he : Declares registry e)
    (hname : d.name = e.name) : d = e := by
  cases hd with
  | @enum n _ _ hget =>
    cases he with
    | @enum n' _ _ hget' =>
      obtain rfl : n = n' := hname
      rw [hget] at hget'
      cases hget'
      rfl
    | @composite n' _ _ _ hget' _ =>
      obtain rfl : n = n' := hname
      rw [hget] at hget'
      cases hget'
  | @composite n _ _ _ hget hfields =>
    cases he with
    | @enum n' _ _ hget' =>
      obtain rfl : n = n' := hname
      rw [hget] at hget'
      cases hget'
    | @composite n' _ _ _ hget' hfields' =>
      obtain rfl : n = n' := hname
      rw [hget] at hget'
      cases hget'
      have hunique : Relator.RightUnique (MapsField registry) := fun _ _ _ => MapsField.unique
      rw [List.right_unique_forall₂' hunique hfields hfields']

theorem Declares.identifier_eq {d : Declaration} (hd : Declares registry d) :
    d.identifier = Identifier.typeName d.name.name := by
  cases hd <;> rfl

/-- Only registered names are declared. -/
theorem Declares.contains {d : Declaration} (hd : Declares registry d) :
    registry.contains d.name = true := by
  cases hd with
  | enum hget =>
    rw [Registry.contains, Entries.has, Option.isSome_iff_exists]
    exact ⟨_, hget⟩
  | composite hget _ =>
    rw [Registry.contains, Entries.has, Option.isSome_iff_exists]
    exact ⟨_, hget⟩

end SchemaStructs.Mapping
