import SchemaStructs.Proofs.Generate.Collisions
import SchemaStructs.Proofs.Identifier.ColumnNames

/-!
# Collisions of fields

Fields are the only names that building a struct checks, and mapping the types of the columns
reports no collision. So a struct whose fields can be built fails to be built exactly if two of its
columns are called by the same words.
-/

namespace SchemaStructs.Generate

open Catalog Mapping Identifier

variable {registry : Registry} {table : Table} {draft : Draft}

/-! ## Fields -/

theorem buildField_ne_collision {column : Column} (c : Collision) :
    buildField registry table draft column ≠ .error (.collision c) := by
  intro h
  rcases bind_eq_error_iff.1 h with hmap | ⟨m, -, h⟩
  · cases hmapped : mapNullable registry column.type (fieldTakesNull column) with
    | ok m =>
      rw [hmapped] at hmap
      cases hmap
    | error e =>
      rw [hmapped] at hmap
      cases hmap
  · rcases bind_eq_error_iff.1 h with hreferences | ⟨references, -, h⟩
    · unfold referenceNote? at hreferences
      split at hreferences
      · cases hreferences
      · split at hreferences <;> cases hreferences
    · exact pure_ne_error h

theorem buildFields_ne_collision {columns : List Column} (c : Collision) :
    buildFields registry table draft columns ≠ .error (.collision c) := by
  induction columns generalizing draft with
  | nil => exact nofun
  | cons column rest ih =>
    intro h
    rcases bind_eq_error_iff.1 h with hfield | ⟨⟨draft', field, names⟩, -, h⟩
    · exact buildField_ne_collision c hfield
    · rcases bind_eq_error_iff.1 h with hrest | ⟨_, -, h⟩
      · exact ih hrest
      · exact pure_ne_error h

/-- Names proposed for the fields of some columns. -/
def columnNames (columns : List Column) : List Named :=
  columns.map fun c => (c.name, columnName c.name)

theorem columnNames_of_buildFields {columns : List Column} {draft' : Draft} {fields : List Field}
    {names : List QualifiedName}
    (h : buildFields registry table draft columns = .ok (draft', fields, names)) :
    fields.map (fun f => (f.column, f.name)) = columnNames columns := by
  induction columns generalizing draft draft' fields names with
  | nil =>
    cases h
    rfl
  | cons column rest ih =>
    obtain ⟨⟨draft₁, field, names₁⟩, hfield, h⟩ := bind_eq_ok_iff.1 h
    obtain ⟨⟨draft₂, fields, names₂⟩, hrest, h⟩ := bind_eq_ok_iff.1 h
    cases pure_eq_ok_iff.1 h
    obtain ⟨m, references, -, -, -, rfl, -⟩ := buildField_eq_ok_iff.1 hfield
    rw [List.map_cons, ih hrest]
    rfl

/-! ## Checks -/

theorem consistent_columnNames_iff {columns : List Column} :
    Consistent .sensitive (columnNames columns) ↔
      ∀ a ∈ columns, ∀ b ∈ columns, fieldWords a.name = fieldWords b.name → a.name = b.name := by
  simp only [Consistent, columnNames, List.forall_mem_map, CaseMode.key, bare_columnName_eq_iff]

theorem buildStruct_eq_collision_iff {identifier : String} {c : Collision} :
    buildStruct registry draft table identifier = .error (.collision c) ↔
      (∃ built, buildFields registry table draft table.columns = .ok built) ∧
        Identifier.assign s!"{identifier} field" .sensitive (columnNames table.columns) =
          .error c := by
  rw [buildStruct, bind_eq_error_iff]
  constructor
  · rintro (hfields | ⟨⟨draft', fields, names⟩, hfields, h⟩)
    · exact absurd hfields (buildFields_ne_collision c)
    refine ⟨⟨_, hfields⟩, ?_⟩
    rcases bind_eq_error_iff.1 h with hassign | ⟨_, -, h⟩
    · rw [columnNames_of_buildFields hfields] at hassign
      unfold assign at hassign
      cases hchecked : Identifier.assign s!"{identifier} field" .sensitive
        (columnNames table.columns) with
      | ok identifiers =>
        rw [hchecked] at hassign
        cases hassign
      | error c' =>
        rw [hchecked] at hassign
        cases hassign
        rfl
    · exact absurd h pure_ne_error
  · rintro ⟨⟨⟨draft', fields, names⟩, hfields⟩, hassign⟩
    refine Or.inr ⟨_, hfields, bind_eq_error_iff.2 (Or.inl ?_)⟩
    rw [columnNames_of_buildFields hfields, assign, hassign]
    rfl

theorem exists_collision_of_fields_iff {identifier : String} :
    (∃ c, buildStruct registry draft table identifier = .error (.collision c)) ↔
      (∃ built, buildFields registry table draft table.columns = .ok built) ∧
        ∃ a ∈ table.columns, ∃ b ∈ table.columns,
          a.name ≠ b.name ∧ fieldWords a.name = fieldWords b.name := by
  simp only [buildStruct_eq_collision_iff, exists_and_left, exists_assign_eq_error_iff,
    consistent_columnNames_iff]
  push Not
  simp only [and_comm]

theorem exists_scoped_collision_iff {identifier : String} :
    (∃ c, buildStruct registry draft table identifier = .error (.collision c) ∧
        c.scope = s!"{identifier} field") ↔
      ∃ c, buildStruct registry draft table identifier = .error (.collision c) := by
  refine exists_congr fun c => and_iff_left_of_imp fun h => ?_
  exact Identifier.scope_of_assign (buildStruct_eq_collision_iff.1 h).2

/-- Fields have the same name exactly if their columns have the same words. Two columns with the
same words keep a struct from being built, and no other names of its own do. The name of a field,
read as that of a column, names the same field. -/
theorem fieldNames_agree_iff :
    (∀ r₁ r₂, bare (columnName r₁) = bare (columnName r₂) ↔ fieldWords r₁ = fieldWords r₂) ∧
      (∀ (registry : Registry) (draft : Draft) (table : Table) (identifier : String),
        ((∃ c, buildStruct registry draft table identifier = .error (.collision c) ∧
            c.scope = s!"{identifier} field") ↔
          (∃ built, buildFields registry table draft table.columns = .ok built) ∧
            ∃ a ∈ table.columns, ∃ b ∈ table.columns,
              a.name ≠ b.name ∧ fieldWords a.name = fieldWords b.name) ∧
        (table.Paired → (∀ column ∈ table.columns, registry.Knows column.type) →
          ∃ built, buildFields registry table draft table.columns = .ok built)) ∧
      ∀ raw, IsAscii raw.toList → columnName (bare (columnName raw)) = columnName raw :=
  ⟨fun _ _ => bare_columnName_eq_iff,
    fun _ draft _ _ => ⟨exists_scoped_collision_iff.trans exists_collision_of_fields_iff,
      fun hpaired hknows => exists_buildFields hpaired hknows draft⟩,
    fun _ => columnName_bare_columnName⟩

/-- A table in which two columns have the words of one. -/
def twiceNamed : Table where
  name := ⟨"public", "users"⟩
  columns := [{ name := "userId", type := .scalar { kind := "text" } },
    { name := "user_id", type := .scalar { kind := "text" } }]

theorem twiceNamed_collides :
    (∃ c, buildStruct ⟨[], none⟩ {} twiceNamed "User" = .error (.collision c) ∧
      c.scope = "User field") ∧ IsAscii "type".toList ∧ columnName (bare "r#type") = "r#type" := by
  obtain ⟨-, hstructs, hcolumns⟩ := fieldNames_agree_iff
  have hpaired : twiceNamed.Paired := nofun
  have hscalar : Registry.Knows ⟨[], none⟩ (.scalar { kind := "text" }) := by
    have hcontains : ∀ u, TypeRef.Contains (.scalar { kind := "text" }) u →
      .scalar { kind := "text" } = u := by
      intro u hu
      rcases hu.cases_head with heq | ⟨part, hpart, -⟩
      · exact heq
      · cases hpart
    refine ⟨fun u n hu hn => ?_, fun sort hsort => ?_⟩
    · rw [← hcontains u hu] at hn
      cases hn
    · cases hcontains _ hsort
  have hknows : ∀ column ∈ twiceNamed.columns, Registry.Knows ⟨[], none⟩ column.type := by
    simpa [twiceNamed] using hscalar
  have hwords : fieldWords "userId" = fieldWords "user_id" := by decide +kernel
  have hascii : IsAscii "type".toList := by decide
  have hcolumn : columnName "type" = "r#type" := by decide +kernel
  obtain ⟨hcollides, hbuilt⟩ := hstructs ⟨[], none⟩ {} twiceNamed "User"
  refine ⟨hcollides.2 ⟨hbuilt hpaired hknows, ?_⟩, hascii, ?_⟩
  · exact ⟨_, List.mem_cons_self, _, List.mem_cons_of_mem _ List.mem_cons_self, by decide, hwords⟩
  · have hraw := hcolumns "type" hascii
    rwa [hcolumn] at hraw

end SchemaStructs.Generate
