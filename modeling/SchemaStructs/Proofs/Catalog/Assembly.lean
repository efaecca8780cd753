import Mathlib.Data.List.Perm.Basic
import SchemaStructs.Catalog.Assembly
import SchemaStructs.Proofs.Catalog.Resolution

/-!
# Assembly from rows

A registry made from rows holds definitions of registered rows and resolves references by the rows.
The tables assembled with it stand for the table rows, each with one column for each of its column
rows.
-/

namespace SchemaStructs.Catalog

/-! ## Registries -/

/-- Definitions of the rows `done` under their names. -/
structure Registry.Defines (rows : TypeRows) (done : List TypeRow)
    (entries : Entries QualifiedName TypeRef) : Prop where
  nodup : entries.keys.Nodup
  defined : ∀ n t, entries.get? n = some t →
    ∃ row ∈ done, row.qualifiedName = n ∧ rows.define row = .ok t

theorem Registry.Defines.empty (rows : TypeRows) : Defines rows [] [] where
  nodup := List.nodup_nil
  defined := by
    intro n t hget
    cases hget

theorem Registry.Defines.put {rows : TypeRows} {done : List TypeRow}
    {entries : Entries QualifiedName TypeRef} (h : Defines rows done entries) {row : TypeRow}
    {t : TypeRef} (ht : rows.define row = .ok t) :
    Defines rows (done ++ [row]) (entries.put row.qualifiedName t) where
  nodup := Entries.nodup_keys_put h.nodup _ _
  defined := by
    intro n t' hget
    by_cases hn : n = row.qualifiedName
    · rw [hn, Entries.get?_put_self] at hget
      exact ⟨row, by simp, hn.symm, Option.some.inj hget ▸ ht⟩
    · rw [Entries.get?_put_of_ne hn] at hget
      obtain ⟨row', hrow', hdefined⟩ := h.defined n t' hget
      exact ⟨row', List.mem_append_left _ hrow', hdefined⟩

/-- What a registry of rows has under a name is the definition of a registered row of that name. -/
theorem Registry.exists_row_of_get? {rows : TypeRows} {registry : Registry}
    (h : Registry.ofRows rows = .ok registry) :
    registry.rows = some rows ∧ ∀ n t, registry.get? n = some t →
      ∃ row ∈ rows.registered, row.qualifiedName = n ∧ rows.define row = .ok t := by
  obtain ⟨entries, hentries, h⟩ := bind_eq_ok_iff.1 h
  cases pure_eq_ok_iff.1 h
  have hdefines : Defines rows rows.registered entries := by
    refine foldlM_induction (P := Defines rows) ?_ (.empty rows) hentries
    intro done entries row entries' hdone hstep
    obtain ⟨t, ht, hstep⟩ := bind_eq_ok_iff.1 hstep
    cases pure_eq_ok_iff.1 hstep
    exact hdone.put ht
  refine ⟨rfl, fun n t hget => hdefines.defined n t ?_⟩
  exact (Entries.get?_eq_some_iff hdefines.nodup).2 (mem_sortOn.1 (Entries.mem_of_get? hget))

theorem Registry.resolve_eq {registry : Registry} {rows : TypeRows} (h : registry.rows = some rows)
    (oid : Oid) (modifier dimensions : Int) :
    registry.resolve oid modifier dimensions = rows.resolve oid modifier dimensions := by
  rw [resolve, h]

theorem TypeRows.mem_registered {types : List TypeRow} {labels : List LabelRow}
    {attributes : List AttributeRow} (hoids : (types.map TypeRow.oid).Nodup) {row : TypeRow} :
    row ∈ (ofRows types labels attributes).registered ↔ row ∈ types ∧ row.isRegistered = true := by
  have hkeys := keys_byOid types ▸ hoids
  rw [registered, List.mem_filter, mem_sortOn, ofRows, Entries.ofPairs_eq_self hkeys, List.map_map,
    List.mem_map]
  simp

/-! ## Tables -/

namespace TableRows

variable {rows : TableRows} {types : Registry}

/-- A column has the type of its row; what it says of nulls and keys is taken from the rows. -/
structure ColumnOf (rows : TableRows) (types : Registry) (row : ColumnRow) (column : Column) :
    Prop where
  name : column.name = row.name
  type : types.resolve row.type row.modifier row.dimensions = .ok column.type
  nullable : column.nullable = !(row.notNull || column.type.isNotNullDomain)
  isPrimaryKey : column.isPrimaryKey = true ↔
    ∃ key ∈ rows.keys, key.kind = "p" ∧ key.table = row.table ∧ key.column = row.name
  isIdentity : column.isIdentity = row.isIdentity

theorem mem_primaryKeyOf {table : Oid} {name : String} :
    name ∈ rows.primaryKeyOf table ↔
      ∃ key ∈ rows.keys, key.kind = "p" ∧ key.table = table ∧ key.column = name := by
  rw [primaryKeyOf, List.mem_map]
  simp only [mem_sortOn, List.mem_filter, Bool.and_eq_true, beq_iff_eq, and_assoc]

theorem columnOf_of_column {row : ColumnRow} {column : Column}
    (h : rows.column types row = .ok column) : ColumnOf rows types row column := by
  obtain ⟨type, htype, h⟩ := bind_eq_ok_iff.1 h
  cases pure_eq_ok_iff.1 h
  exact ⟨rfl, htype, rfl, List.contains_iff_mem.trans mem_primaryKeyOf, rfl⟩

/-- A table has the columns of its row in their order. -/
structure TableOf (rows : TableRows) (types : Registry) (row : TableRow) (t : Table) : Prop where
  name : t.name = ⟨row.schema, row.name⟩
  columns : List.Forall₂ (ColumnOf rows types) (rows.columnsOf row.oid) t.columns

theorem tableOf_of_table {row : TableRow} {t : Table} (h : rows.table types row = .ok t) :
    TableOf rows types row t := by
  obtain ⟨columns, hcolumns, h⟩ := bind_eq_ok_iff.1 h
  cases pure_eq_ok_iff.1 h
  exact ⟨rfl, (mapM_eq_ok_iff.1 hcolumns).imp fun _ _ => columnOf_of_column⟩

/-- The assembled tables that a choice of names leaves are those of the rows that it leaves. -/
theorem exists_chosen_of_assemble {tables chosen : List Table} (keep : QualifiedName → Bool)
    (h : rows.assemble types = .ok tables) (hchosen : chosen.Perm (tables.filter (keep ·.name))) :
    ∃ rows' : List TableRow,
      rows'.Perm (rows.tables.filter fun row => keep ⟨row.schema, row.name⟩) ∧
      List.Forall₂ (fun row t => rows.table types row = .ok t) rows' chosen := by
  obtain ⟨tables', htables', rfl⟩ := map_eq_ok_iff.1 h
  have hfiltered : List.Forall₂ (fun row t => rows.table types row = .ok t)
      (rows.tables.filter fun row => keep ⟨row.schema, row.name⟩) (tables'.filter (keep ·.name)) :=
    List.rel_filter (fun row t ht => iff_of_eq (by simp only [(tableOf_of_table ht).name]))
      (mapM_eq_ok_iff.1 htables')
  have hperm : chosen.Perm (tables'.filter (keep ·.name)) :=
    hchosen.trans ((sortOn_perm _ _ _).filter _)
  obtain ⟨rows', hrows', hperm'⟩ := List.perm_comp_forall₂ hperm hfiltered.flip
  exact ⟨rows', hperm', hrows'.flip⟩

theorem exists_rows_of_assemble {tables chosen : List Table} (keep : QualifiedName → Bool)
    (h : rows.assemble types = .ok tables) (hchosen : chosen.Perm (tables.filter (keep ·.name))) :
    ∃ rows' : List TableRow,
      rows'.Perm (rows.tables.filter fun row => keep ⟨row.schema, row.name⟩) ∧
      List.Forall₂ (TableOf rows types) rows' chosen := by
  obtain ⟨rows', hperm, hrows'⟩ := exists_chosen_of_assemble keep h hchosen
  exact ⟨rows', hperm, hrows'.imp fun _ _ => tableOf_of_table⟩

end TableRows

end SchemaStructs.Catalog
