import SchemaStructs.Proofs.Catalog.AssembledTables

/-!
# Foreign keys and their rows

A foreign key is kept as two lists, that of its columns and that of the columns they refer to; which
column goes with which is left to their places. The rows of a key pair them: both lists are made
from the rows in the order of their positions. So looking a column up by its first place in the
first list finds the row of the least position that names it, and looking it up in the first key
that has it finds the least of all its rows.
-/

namespace SchemaStructs.Catalog

open Comparison

/-! ## Rows of keys -/

/-- No two rows of one key have the same position, and all of them refer to the same table. -/
def CoherentKeys (keys : List ForeignKeyRow) : Prop :=
  keys.Pairwise fun a b => a.table = b.table → a.constraint = b.constraint →
    a.position ≠ b.position ∧ a.referencedSchema = b.referencedSchema ∧
      a.referencedTable = b.referencedTable

instance (keys : List ForeignKeyRow) : Decidable (CoherentKeys keys) :=
  inferInstanceAs (Decidable (keys.Pairwise _))

namespace ForeignKeyRow

/-- The table that a row refers to. -/
def referenced (row : ForeignKeyRow) : QualifiedName := ⟨row.referencedSchema, row.referencedTable⟩

/-- The column that a row refers to, with its table and schema. -/
def target (row : ForeignKeyRow) : String :=
  row.referencedSchema ++ "." ++ row.referencedTable ++ "." ++ row.referencedColumn

theorem target_eq (row : ForeignKeyRow) :
    row.target = row.referenced.text ++ "." ++ row.referencedColumn := rfl

theorem target_ne_empty (row : ForeignKeyRow) : row.target ≠ "" := by
  intro h
  have hlist := congrArg String.toList h
  simp [target] at hlist

end ForeignKeyRow

/-- Of the rows by which a column of a table refers to others, `row` is the first: no other one has
a lesser constraint name, nor the same name and a lesser position. -/
structure FirstReference (keys : List ForeignKeyRow) (table : Oid) (column : String)
    (row : ForeignKeyRow) : Prop where
  mem : row ∈ keys
  table_eq : row.table = table
  column_eq : row.column = column
  first : ∀ other ∈ keys, other.table = table → other.column = column → other ≠ row →
    Before text row.constraint other.constraint ∨
      row.constraint = other.constraint ∧ row.position < other.position

/-- The foreign key of a constraint is made from all its rows, in ascending order of their
positions. -/
structure KeyOfRows (rows : TableRows) (table : Oid) (key : ForeignKey)
    (own : List ForeignKeyRow) : Prop
    extends rows.ForeignKeyIn table key own where
  ascending : own.Pairwise fun a b => a.position < b.position
  length_eq : key.columns.length = key.referencedColumns.length
  referenced : ∀ row ∈ own, row.referenced = key.referencedTable

/-- The foreign keys of a table are those of the constraints that its rows name, each once and by
name. -/
structure KeysFollowRows (rows : TableRows) (table : Oid) (keys : List ForeignKey) : Prop where
  ascending : (keys.map (·.name)).Pairwise (Before text)
  names : ∀ name, name ∈ keys.map (·.name) ↔
    ∃ row ∈ rows.foreignKeys, row.table = table ∧ row.constraint = name
  paired : ∀ key ∈ keys, ∃ own, KeyOfRows rows table key own

namespace TableRows

variable {rows : TableRows} {types : Registry} {table : Oid} {key : ForeignKey}
  {own : List ForeignKeyRow}

theorem ForeignKeyIn.mem_iff (h : rows.ForeignKeyIn table key own) {row : ForeignKeyRow} :
    row ∈ own ↔ row ∈ rows.foreignKeys ∧ row.table = table ∧ row.constraint = key.name := by
  rw [h.rows.perm.mem_iff, List.mem_filter, Bool.and_eq_true, beq_iff_eq, beq_iff_eq]

/-- Coherent rows are paired in a single way. -/
theorem keyOfRows_of_foreignKeyIn (hkeys : CoherentKeys rows.foreignKeys)
    (h : rows.ForeignKeyIn table key own) : KeyOfRows rows table key own := by
  have hsame : own.Pairwise fun a b => a.position ≠ b.position ∧ a.referenced = b.referenced := by
    refine h.rows.perm.symm.pairwise ?_ ?_
    · refine (hkeys.filter _).imp_of_mem fun {a b} ha hb hab => ?_
      obtain ⟨-, hatable, haname⟩ := h.mem_iff.1 (h.rows.perm.mem_iff.2 ha)
      obtain ⟨-, hbtable, hbname⟩ := h.mem_iff.1 (h.rows.perm.mem_iff.2 hb)
      obtain ⟨hposition, hschema, hname⟩ :=
        hab (hatable.trans hbtable.symm) (haname.trans hbname.symm)
      exact ⟨hposition, congrArg₂ QualifiedName.mk hschema hname⟩
    · exact fun hab => ⟨hab.1.symm, hab.2.symm⟩
  constructor
  case toForeignKeyIn => exact h
  case ascending =>
    exact h.rows.ordered.imp₂ (fun a b hle hne => lt_of_le_of_ne hle hne.1) hsame
  case length_eq => rw [h.columns, h.referencedColumns, List.length_map, List.length_map]
  case referenced =>
    obtain ⟨first, hfirst, hreferenced⟩ := h.referencedTable
    obtain ⟨rest, rfl⟩ := List.head?_eq_some_iff.1 hfirst
    refine List.forall_mem_cons.2 ⟨hreferenced.symm, fun row hrow => ?_⟩
    rw [hreferenced]
    exact ((List.pairwise_cons.1 hsame).1 row hrow).2.symm

theorem keysFollowRows_foreignKeysOf (hkeys : CoherentKeys rows.foreignKeys) (table : Oid) :
    KeysFollowRows rows table (rows.foreignKeysOf table) where
  ascending := by
    rw [map_name_foreignKeysOf]
    exact pairwise_sortedSet text_linear _
  names name := by
    rw [map_name_foreignKeysOf]
    exact mem_foreignKeyNames
  paired key hkey := by
    obtain ⟨constraint, -, hfound⟩ := List.mem_filterMap.1 hkey
    obtain ⟨-, own, hown⟩ := foreignKeyIn_of_foreignKey? hfound
    exact ⟨own, keyOfRows_of_foreignKeyIn hkeys hown⟩

end TableRows

/-! ## Looking up a column -/

section Lookup

variable {rows : TableRows} {table : Oid} {key : ForeignKey} {own : List ForeignKeyRow}
  {column : String}

/-- The column that goes with another one is that of the first row that names it. -/
theorem KeyOfRows.exists_referencedColumn (h : KeyOfRows rows table key own)
    (hcolumn : column ∈ key.columns) :
    ∃ row ∈ own, row.column = column ∧ key.referencedColumn? column = some row.referencedColumn ∧
      ∀ other ∈ own, other.column = column → other ≠ row → row.position < other.position := by
  obtain ⟨before, after, hsplit, hbefore⟩ := List.eq_append_cons_of_mem hcolumn
  have hown := h.columns.symm.trans hsplit
  obtain ⟨own₁, own₂, rfl, rfl, hown₂⟩ := List.map_eq_append_iff.1 hown
  obtain ⟨row, own₃, rfl, rfl, rfl⟩ := List.map_eq_cons_iff.1 hown₂
  refine ⟨row, by simp, rfl, ?_, ?_⟩
  · rw [ForeignKey.referencedColumn?, hsplit, h.referencedColumns,
      List.idxOf_append_of_notMem hbefore,
      List.idxOf_cons_self]
    simp
  · intro other hother hcolumn hne
    rcases List.mem_append.1 hother with hother | hother
    · exact absurd (hcolumn ▸ List.mem_map_of_mem hother) hbefore
    · have hafter := (List.mem_cons.1 hother).resolve_left hne
      exact (List.pairwise_cons.1 (List.pairwise_append.1 h.ascending).2.1).1 other hafter

/-- The first key that has a column refers by the first of its rows. -/
theorem KeysFollowRows.exists_firstReference {keys : List ForeignKey}
    (h : KeysFollowRows rows table keys)
    (hkey : keys.find? (·.columns.contains column) = some key) :
    ∃ row, FirstReference rows.foreignKeys table column row ∧ key.referencedTable = row.referenced ∧
      key.referencedColumn? column = some row.referencedColumn := by
  obtain ⟨hcontains, before, after, rfl, hbefore⟩ := List.find?_eq_some_iff_append.1 hkey
  obtain ⟨own, hown⟩ := h.paired key (by simp)
  obtain ⟨row, hrow, hcolumn, hreferenced, hleast⟩ :=
    hown.exists_referencedColumn (List.contains_iff_mem.1 hcontains)
  obtain ⟨hmem, htable, hname⟩ := hown.mem_iff.1 hrow
  refine ⟨row, ⟨hmem, htable, hcolumn, ?_⟩, (hown.referenced row hrow).symm, hreferenced⟩
  intro other hother htable' hcolumn' hne
  obtain ⟨key', hkey', hname'⟩ := List.mem_map.1 ((h.names _).2 ⟨other, hother, htable', rfl⟩)
  obtain ⟨own', hown'⟩ := h.paired key' hkey'
  have hother' : other ∈ own' := hown'.mem_iff.2 ⟨hother, htable', hname'.symm⟩
  have hcontains' : key'.columns.contains column = true := by
    rw [List.contains_iff_mem, hown'.columns, ← hcolumn']
    exact List.mem_map_of_mem hother'
  rcases List.mem_append.1 hkey' with hkey' | hkey'
  · have hmissing := hbefore key' hkey'
    rw [hcontains'] at hmissing
    cases hmissing
  · rcases List.mem_cons.1 hkey' with rfl | hkey'
    · refine .inr ⟨hname.trans hname', hleast other ?_ hcolumn' hne⟩
      exact hown.mem_iff.2 ⟨hother, htable', hname'.symm⟩
    · have hascending := h.ascending
      rw [List.map_append, List.map_cons] at hascending
      refine .inl ?_
      rw [hname, ← hname']
      exact (List.pairwise_cons.1 (List.pairwise_append.1 hascending).2.1).1 _
        (List.mem_map_of_mem hkey')

/-- A column is in some key exactly if some row names it. -/
theorem KeysFollowRows.exists_mem_columns_iff {keys : List ForeignKey}
    (h : KeysFollowRows rows table keys) :
    (∃ key ∈ keys, column ∈ key.columns) ↔
      ∃ row ∈ rows.foreignKeys, row.table = table ∧ row.column = column := by
  constructor
  · rintro ⟨key, hkey, hcolumn⟩
    obtain ⟨own, hown⟩ := h.paired key hkey
    rw [hown.columns] at hcolumn
    obtain ⟨row, hrow, rfl⟩ := List.mem_map.1 hcolumn
    obtain ⟨hmem, htable, -⟩ := hown.mem_iff.1 hrow
    exact ⟨row, hmem, htable, rfl⟩
  · rintro ⟨row, hrow, htable, rfl⟩
    obtain ⟨key, hkey, hname⟩ := List.mem_map.1 ((h.names _).2 ⟨row, hrow, htable, rfl⟩)
    obtain ⟨own, hown⟩ := h.paired key hkey
    refine ⟨key, hkey, ?_⟩
    rw [hown.columns]
    exact List.mem_map_of_mem (hown.mem_iff.2 ⟨hrow, htable, hname.symm⟩)

end Lookup

end SchemaStructs.Catalog
