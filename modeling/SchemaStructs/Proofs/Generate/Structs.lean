import SchemaStructs.Generate.Plan
import SchemaStructs.Proofs.Identifier.Assignment
import SchemaStructs.Proofs.Mapping.Soundness

/-!
# Structs of the included tables

When the structs of some tables can be built, each struct has one field for each column of its
table, of the mapped type of the column, and needs exactly the declarations that the types of the
columns reach. The declarations gathered on the way are those that some struct needs, each once.
-/

namespace SchemaStructs.Generate

open Catalog Mapping Rust Comparison

variable {registry : Registry}

/-! ## Declarations met so far -/

/-- A draft holds the declarations of the names `needed`, each under its name. -/
structure Draft.Holds (registry : Registry) (draft : Draft) (needed : QualifiedName → Prop) :
    Prop where
  nodup : draft.declarations.keys.Nodup
  declares : ∀ e ∈ draft.declarations, e.1 = e.2.name ∧ Declares registry e.2
  keys : ∀ n, n ∈ draft.declarations.keys ↔ needed n

namespace Draft.Holds

variable {draft : Draft} {needed : QualifiedName → Prop}

theorem empty : Holds registry {} (fun _ => False) where
  nodup := List.nodup_nil
  declares := by simp
  keys := by simp [Entries.keys]

theorem warn (h : Holds registry draft needed) (warnings : List Warning) :
    Holds registry (draft.warn warnings) needed :=
  ⟨h.nodup, h.declares, h.keys⟩

theorem congr {needed' : QualifiedName → Prop} (h : Holds registry draft needed)
    (hneeded : ∀ n, needed n ↔ needed' n) : Holds registry draft needed' :=
  ⟨h.nodup, h.declares, fun n => (h.keys n).trans (hneeded n)⟩

theorem need (h : Holds registry draft needed) {d : Declaration} (hd : Declares registry d) :
    Holds registry (draft.need d) (fun n => needed n ∨ n = d.name) := by
  unfold Draft.need
  split
  · rename_i hhas
    have hmem : needed d.name := (h.keys _).1 (Entries.has_eq_true_iff.1 hhas)
    refine h.congr fun n => ⟨Or.inl, ?_⟩
    rintro (hn | rfl)
    · exact hn
    · exact hmem
  · rename_i hhas
    have hnot : d.name ∉ draft.declarations.keys :=
      fun hmem => hhas (Entries.has_eq_true_iff.2 hmem)
    refine ⟨Entries.nodup_keys_put h.nodup _ _, ?_, fun n => ?_⟩
    · dsimp only
      rw [Entries.put_of_not_mem hnot]
      exact List.forall_mem_append.2 ⟨h.declares, by simpa using hd⟩
    · dsimp only
      rw [Entries.mem_keys_put, h.keys]
      exact or_comm

theorem foldl_need {ds : List Declaration} (h : Holds registry draft needed)
    (hds : ∀ d ∈ ds, Declares registry d) :
    Holds registry (ds.foldl Draft.need draft)
      (fun n => needed n ∨ n ∈ ds.map Declaration.name) := by
  induction ds generalizing draft needed with
  | nil => exact h.congr (by simp)
  | cons d rest ih =>
    obtain ⟨hd, hrest⟩ := List.forall_mem_cons.1 hds
    refine (ih (h.need hd) hrest).congr fun n => ?_
    rw [List.map_cons, List.mem_cons, or_assoc]

/-- What is held under a name is the declaration of that name. -/
theorem get?_eq_some_iff (h : Holds registry draft needed) {n : QualifiedName} {d : Declaration} :
    draft.declarations.get? n = some d ↔ needed n ∧ n = d.name ∧ Declares registry d := by
  constructor
  · intro hget
    have hmem := Entries.mem_of_get? hget
    exact ⟨(h.keys n).1 (List.mem_map_of_mem hmem), h.declares _ hmem⟩
  · rintro ⟨hn, rfl, hd⟩
    obtain ⟨⟨k, e⟩, he, rfl⟩ := List.mem_map.1 ((h.keys _).2 hn)
    obtain ⟨hk, he'⟩ := h.declares _ he
    obtain rfl : e = d := he'.unique hd hk.symm
    exact (Entries.get?_eq_some_iff h.nodup).2 he

end Draft.Holds

/-! ## Fields -/

/-- `f` is the field of a column. -/
structure FieldOf (registry : Registry) (table : Table) (column : Column) (f : Field) : Prop where
  name_eq : f.name = Identifier.columnName column.name
  column_eq : f.column = column.name
  type_eq : ∃ m, mapNullable registry column.type (fieldTakesNull column) = .ok m ∧ f.type = m.type
  facts_eq : f.facts = .ofColumn column
  references_eq : referenceNote? table column.name = .ok f.references
  sqlType_eq : f.sqlType = sqlType? column

theorem buildField_eq_ok_iff {table : Table} {draft draft' : Draft} {column : Column} {f : Field}
    {names : List QualifiedName} :
    buildField registry table draft column = .ok (draft', f, names) ↔
      ∃ m references, mapNullable registry column.type (fieldTakesNull column) = .ok m ∧
        referenceNote? table column.name = .ok references ∧
        draft' = m.declarations.foldl Draft.need
          (draft.warn (m.unsupported.map (.ofType table.name.name column.name))) ∧
        f = {
          name := Identifier.columnName column.name
          column := column.name
          type := m.type
          facts := .ofColumn column
          references
          sqlType := sqlType? column } ∧
        names = m.declarations.map Declaration.name := by
  rw [buildField, bind_eq_ok_iff]
  constructor
  · rintro ⟨m, hm, h⟩
    obtain ⟨references, href, h⟩ := bind_eq_ok_iff.1 h
    cases pure_eq_ok_iff.1 h
    exact ⟨m, references, mapError_eq_ok_iff.1 hm, href, rfl, rfl, rfl⟩
  · rintro ⟨m, references, hm, href, rfl, rfl, rfl⟩
    exact ⟨m, mapError_eq_ok_iff.2 hm, bind_eq_ok_iff.2 ⟨references, href, rfl⟩⟩

theorem buildField_spec {table : Table} {draft draft' : Draft} {column : Column} {f : Field}
    {names : List QualifiedName} {needed : QualifiedName → Prop}
    (hdraft : draft.Holds registry needed)
    (h : buildField registry table draft column = .ok (draft', f, names)) :
    FieldOf registry table column f ∧ (∀ n, n ∈ names ↔ registry.Reaches column.type n) ∧
      draft'.Holds registry (fun n => needed n ∨ n ∈ names) := by
  obtain ⟨m, references, hm, href, rfl, rfl, rfl⟩ := buildField_eq_ok_iff.1 h
  obtain ⟨m', -, hsound, rfl⟩ := exists_sound_of_mapNullable hm
  rw [declarations_nullable]
  refine ⟨?_, hsound.names, (hdraft.warn _).foldl_need hsound.declares⟩
  exact {
    name_eq := by dsimp only
    column_eq := rfl
    type_eq := ⟨_, hm, rfl⟩
    facts_eq := rfl
    references_eq := href
    sqlType_eq := by dsimp only }

theorem buildFields_spec {table : Table} {columns : List Column} {draft draft' : Draft}
    {fields : List Field} {names : List QualifiedName} {needed : QualifiedName → Prop}
    (hdraft : draft.Holds registry needed)
    (h : buildFields registry table draft columns = .ok (draft', fields, names)) :
    List.Forall₂ (FieldOf registry table) columns fields ∧
      (∀ n, n ∈ names ↔ ∃ c ∈ columns, registry.Reaches c.type n) ∧
      draft'.Holds registry (fun n => needed n ∨ n ∈ names) := by
  induction columns generalizing draft fields names needed with
  | nil =>
    cases h
    exact ⟨.nil, by simp, hdraft.congr (by simp)⟩
  | cons column rest ih =>
    obtain ⟨⟨draft₁, f, names₁⟩, hfield, h⟩ := bind_eq_ok_iff.1 h
    obtain ⟨⟨draft₂, fields₂, names₂⟩, hrest, h⟩ := bind_eq_ok_iff.1 h
    cases pure_eq_ok_iff.1 h
    obtain ⟨hf, hnames₁, hdraft₁⟩ := buildField_spec hdraft hfield
    obtain ⟨hfields, hnames₂, hdraft₂⟩ := ih hdraft₁ hrest
    refine ⟨.cons hf hfields, fun n => ?_, hdraft₂.congr fun n => ?_⟩
    · rw [List.mem_append, hnames₁, hnames₂, List.exists_mem_cons_iff]
    · rw [List.mem_append, or_assoc]

/-! ## Structs -/

/-- Some column of the table reaches the name. -/
def Needs (registry : Registry) (table : Table) (n : QualifiedName) : Prop :=
  ∃ c ∈ table.columns, registry.Reaches c.type n

/-- `s` is the struct of a table. -/
structure StructOf (registry : Registry) (table : Table) (s : Struct) : Prop where
  table_eq : s.table = table.name
  kind_eq : s.kind = table.kind
  moduleName_eq : s.moduleName = Identifier.moduleName s.name
  fields : List.Forall₂ (FieldOf registry table) table.columns s.fields
  fieldNames : Identifier.Consistent .sensitive (s.fields.map fun f => (f.column, f.name))
  declarations : ∀ n, n ∈ s.declarations ↔ Needs registry table n
  ordered : s.declarations.Pairwise (Before QualifiedName.le)

theorem StructOf.nodup {table : Table} {s : Struct} (h : StructOf registry table s) :
    s.declarations.Nodup :=
  h.ordered.imp fun hab => hab.2

theorem assign_eq_ok_iff {scope : String} {pairs : List Identifier.Named}
    {mode : Identifier.CaseMode} {identifiers : Entries String String} :
    assign scope pairs mode = .ok identifiers ↔
      Identifier.Consistent mode pairs ∧ identifiers = .ofPairs pairs := by
  rw [assign, mapError_eq_ok_iff, Identifier.assign_eq_ok_iff]

theorem identifierOf_eq_ok_iff {identifiers : Entries String String} {source identifier : String} :
    identifierOf identifiers source = .ok identifier ↔
      identifiers.get? source = some identifier := by
  unfold identifierOf
  cases identifiers.get? source with
  | none => simp
  | some identifier' => simp

theorem buildStruct_spec {table : Table} {identifier : String} {draft draft' : Draft} {s : Struct}
    {needed : QualifiedName → Prop} (hdraft : draft.Holds registry needed)
    (h : buildStruct registry draft table identifier = .ok (draft', s)) :
    s.name = identifier ∧ StructOf registry table s ∧
      draft'.Holds registry (fun n => needed n ∨ n ∈ s.declarations) := by
  obtain ⟨⟨draft₁, fields, names⟩, hfields, h⟩ := bind_eq_ok_iff.1 h
  obtain ⟨identifiers, hassign, h⟩ := bind_eq_ok_iff.1 h
  cases pure_eq_ok_iff.1 h
  obtain ⟨hf, hnames, hdraft₁⟩ := buildFields_spec hdraft hfields
  refine ⟨rfl, ?_, hdraft₁.congr fun n => ?_⟩
  · exact {
      table_eq := rfl
      kind_eq := rfl
      moduleName_eq := by dsimp only
      fields := hf
      fieldNames := (assign_eq_ok_iff.1 hassign).1
      declarations := fun n => mem_sortedSet.trans (hnames n)
      ordered := pairwise_sortedSet QualifiedName.le_linear names }
  · rw [mem_sortedSet]

theorem buildStructs_spec {identifiers : Entries String String} {tables : List Table}
    {draft draft' : Draft} {structs : List Struct} {needed : QualifiedName → Prop}
    (hdraft : draft.Holds registry needed)
    (h : buildStructs registry identifiers draft tables = .ok (draft', structs)) :
    List.Forall₂ (fun t s => identifiers.get? t.name.text = some s.name ∧ StructOf registry t s)
        tables structs ∧
      draft'.Holds registry (fun n => needed n ∨ ∃ s ∈ structs, n ∈ s.declarations) := by
  induction tables generalizing draft structs needed with
  | nil =>
    cases h
    exact ⟨.nil, hdraft.congr (by simp)⟩
  | cons table rest ih =>
    obtain ⟨identifier, hid, h⟩ := bind_eq_ok_iff.1 h
    obtain ⟨⟨draft₁, s⟩, hstruct, h⟩ := bind_eq_ok_iff.1 h
    obtain ⟨⟨draft₂, structs₂⟩, hrest, h⟩ := bind_eq_ok_iff.1 h
    cases pure_eq_ok_iff.1 h
    obtain ⟨rfl, hs, hdraft₁⟩ := buildStruct_spec hdraft hstruct
    obtain ⟨hstructs, hdraft₂⟩ := ih hdraft₁ hrest
    refine ⟨.cons ⟨identifierOf_eq_ok_iff.1 hid, hs⟩ hstructs, hdraft₂.congr fun n => ?_⟩
    rw [List.exists_mem_cons_iff, or_assoc]

end SchemaStructs.Generate
