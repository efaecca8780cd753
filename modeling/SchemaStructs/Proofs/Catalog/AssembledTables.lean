import SchemaStructs.Proofs.Catalog.Cycles
import SchemaStructs.Proofs.Catalog.RowOrder

/-!
# What a table is assembled from

The rows of tables, columns and constraints come in any order and meet by oid. Each table row stands
for one table, and this table is what the rows with its oid say of it: they alone, put together,
make the same table.
-/

namespace SchemaStructs.Catalog

open Comparison

/-! ## Rows in order -/

/-- The rows `sorted` are the rows `xs`, each as often, in ascending order of their keys. -/
structure Sorts {α : Type} (key : α → Int) (xs sorted : List α) : Prop where
  perm : sorted.Perm xs
  ordered : sorted.Pairwise fun a b => key a ≤ key b

theorem sorts_sortOn {α : Type} (key : α → Int) (xs : List α) :
    Sorts key xs (sortOn .integer key xs) where
  perm := sortOn_perm _ _ _
  ordered := (pairwise_sortOn integer_linear key xs).imp fun h => of_decide_eq_true h

namespace TableRows

variable {rows : TableRows} {types : Registry}

/-! ## Rows of one table -/

/-- What the rows say of the tables with one oid. -/
def only (rows : TableRows) (oid : Oid) : TableRows where
  tables := rows.tables.filter (·.oid == oid)
  columns := rows.columns.filter (·.table == oid)
  keys := rows.keys.filter (·.table == oid)
  foreignKeys := rows.foreignKeys.filter (·.table == oid)

theorem columnsOf_only (oid : Oid) : (rows.only oid).columnsOf oid = rows.columnsOf oid := by
  simp only [columnsOf, only, List.filter_filter, Bool.and_self]

theorem primaryKeyOf_only (oid : Oid) :
    (rows.only oid).primaryKeyOf oid = rows.primaryKeyOf oid := by
  simp only [primaryKeyOf, only, List.filter_filter, Bool.and_assoc, Bool.and_self]

theorem isUnique_only (oid : Oid) (column : String) :
    (rows.only oid).isUnique oid column = rows.isUnique oid column := by
  simp only [isUnique, only, List.any_filter]
  congr 1
  funext key
  cases key.table == oid <;> simp

theorem foreignKeysOf_only (oid : Oid) :
    (rows.only oid).foreignKeysOf oid = rows.foreignKeysOf oid := by
  have hkey : (rows.only oid).foreignKey? oid = rows.foreignKey? oid := by
    funext constraint
    simp only [foreignKey?, only, List.filter_filter, Bool.and_right_comm, Bool.and_self]
  have hnames : (rows.only oid).foreignKeyNames oid = rows.foreignKeyNames oid := by
    simp only [foreignKeyNames, only, List.filter_filter, Bool.and_self]
  rw [foreignKeysOf, foreignKeysOf, hkey, hnames]

theorem table_only (row : TableRow) : (rows.only row.oid).table types row = rows.table types row :=
  table_congr ⟨rfl, fun _ _ _ => rfl⟩ (columnsOf_only _) (primaryKeyOf_only _) (isUnique_only _)
    (foreignKeysOf_only _)

theorem tables_only (hoids : (rows.tables.map TableRow.oid).Nodup) {row : TableRow}
    (hrow : row ∈ rows.tables) : (rows.only row.oid).tables = [row] := by
  refine (List.perm_singleton.1 ?_)
  refine (List.perm_ext_iff_of_nodup ?_ (List.nodup_singleton row)).2 fun other => ?_
  · exact (List.Nodup.of_map _ hoids).filter _
  · rw [only, List.mem_filter, beq_iff_eq, List.mem_singleton]
    constructor
    · exact fun h => List.inj_on_of_nodup_map hoids h.1 hrow h.2
    · rintro rfl
      exact ⟨hrow, rfl⟩

/-- The rows of one table, put together alone, make that table. -/
theorem assemble_only (hoids : (rows.tables.map TableRow.oid).Nodup) {row : TableRow}
    (hrow : row ∈ rows.tables) {t : Table} (ht : rows.table types row = .ok t) :
    (rows.only row.oid).assemble types = .ok [t] := by
  have htables : (rows.only row.oid).tables.mapM ((rows.only row.oid).table types) = .ok [t] := by
    rw [tables_only hoids hrow, mapM_eq_ok_iff]
    exact .cons ((table_only row).trans ht) .nil
  exact map_eq_ok_iff.2 ⟨[t], htables, rfl⟩

/-! ## Tables of rows -/

/-- All that a column of the table `t` is. -/
structure ColumnIn (rows : TableRows) (types : Registry) (t : Table) (row : ColumnRow)
    (column : Column) : Prop extends ColumnOf rows types row column where
  ordinal : column.ordinal = row.ordinal
  hasDefault : column.hasDefault = row.hasDefault
  isGenerated : column.isGenerated = row.isGenerated
  formattedType : column.formattedType = row.formattedType
  isPrimaryKey_iff_mem : column.isPrimaryKey = true ↔ column.name ∈ t.primaryKey
  isUnique : column.isUnique = true ↔
    ∃ key ∈ rows.keys, key.kind = "u" ∧ key.columnCount = 1 ∧ key.table = row.table ∧
      key.column = row.name

/-- A foreign key of the table `table` pairs the columns of the rows with its name. -/
structure ForeignKeyIn (rows : TableRows) (table : Oid) (key : ForeignKey)
    (own : List ForeignKeyRow) : Prop where
  rows : Sorts ForeignKeyRow.position
    (rows.foreignKeys.filter fun k => k.table == table && k.constraint == key.name) own
  columns : key.columns = own.map (·.column)
  referencedColumns : key.referencedColumns = own.map (·.referencedColumn)
  referencedTable : ∃ first ∈ own.head?,
    key.referencedTable = ⟨first.referencedSchema, first.referencedTable⟩

/-- All that the table of a row is: its columns are the column rows with its oid, its primary key
the rows of the key with its oid, and so are its foreign keys, one for each name; no rows of others
are needed for it. -/
structure AssembledFrom (rows : TableRows) (types : Registry) (row : TableRow) (t : Table) :
    Prop where
  name : t.name = ⟨row.schema, row.name⟩
  kind : t.kind = relationKind row.kind
  columns : ∃ own, Sorts ColumnRow.ordinal (rows.columns.filter (·.table == row.oid)) own ∧
    List.Forall₂ (ColumnIn rows types t) own t.columns
  primaryKey : ∃ own,
    Sorts KeyRow.position
      (rows.keys.filter fun key => key.kind == "p" && key.table == row.oid) own ∧
      t.primaryKey = own.map (·.column)
  foreignKeys : ∀ key ∈ t.foreignKeys, ∃ own, ForeignKeyIn rows row.oid key own
  foreignKeyNames : (t.foreignKeys.map (·.name)).Pairwise (Before text) ∧
    ∀ name, name ∈ t.foreignKeys.map (·.name) ↔
      ∃ key ∈ rows.foreignKeys, key.table = row.oid ∧ key.constraint = name
  alone : (rows.only row.oid).assemble types = .ok [t]

theorem mem_foreignKeyNames {table : Oid} {name : String} :
    name ∈ rows.foreignKeyNames table ↔
      ∃ key ∈ rows.foreignKeys, key.table = table ∧ key.constraint = name := by
  rw [foreignKeyNames, mem_sortedSet, List.mem_map]
  simp only [List.mem_filter, beq_iff_eq, and_assoc]

theorem foreignKeyIn_of_foreignKey? {table : Oid} {constraint : String} {key : ForeignKey}
    (h : rows.foreignKey? table constraint = some key) :
    key.name = constraint ∧ ∃ own, ForeignKeyIn rows table key own := by
  obtain ⟨first, hfirst, rfl⟩ := Option.map_eq_some_iff.1 h
  exact ⟨rfl, _, sorts_sortOn _ _, rfl, rfl, first, hfirst, rfl⟩

/-- Each name that a foreign key of the table has in the rows is that of one key. -/
theorem map_name_foreignKeysOf (table : Oid) :
    (rows.foreignKeysOf table).map (·.name) = rows.foreignKeyNames table := by
  have hfound : ∀ constraint ∈ rows.foreignKeyNames table,
      (rows.foreignKey? table constraint).map (·.name) = some constraint := by
    intro constraint hconstraint
    obtain ⟨row, hrow, htable, hname⟩ := mem_foreignKeyNames.1 hconstraint
    have hmem : row ∈ sortOn .integer (·.position)
        (rows.foreignKeys.filter fun k => k.table == table && k.constraint == constraint) :=
      mem_sortOn.2 (List.mem_filter.2 ⟨hrow, by simp [htable, hname]⟩)
    cases hkey : rows.foreignKey? table constraint with
    | none =>
      rw [foreignKey?, Option.map_eq_none_iff, List.head?_eq_none_iff] at hkey
      rw [hkey] at hmem
      cases hmem
    | some key => rw [Option.map_some, (foreignKeyIn_of_foreignKey? hkey).1]
  rw [foreignKeysOf, List.map_filterMap, List.filterMap_congr hfound, List.filterMap_some]

theorem columnIn_of_column {row : ColumnRow} {column : Column} {t : Table}
    (hkey : t.primaryKey = rows.primaryKeyOf row.table) (h : rows.column types row = .ok column) :
    ColumnIn rows types t row column := by
  have hcolumn := columnOf_of_column h
  obtain ⟨type, htype, h⟩ := bind_eq_ok_iff.1 h
  cases pure_eq_ok_iff.1 h
  refine ⟨hcolumn, rfl, rfl, rfl, rfl, ?_, ?_⟩
  · rw [hkey]
    exact List.contains_iff_mem
  · simp only [TableRows.isUnique, List.any_eq_true, Bool.and_eq_true, beq_iff_eq, and_assoc]

theorem assembledFrom_of_table (hoids : (rows.tables.map TableRow.oid).Nodup) {row : TableRow}
    (hrow : row ∈ rows.tables) {t : Table} (ht : rows.table types row = .ok t) :
    AssembledFrom rows types row t := by
  have halone := assemble_only hoids hrow ht
  obtain ⟨columns, hcolumns, h⟩ := bind_eq_ok_iff.1 ht
  cases pure_eq_ok_iff.1 h
  constructor
  case name => rfl
  case kind => rfl
  case columns =>
    have hown : ∀ column ∈ rows.columnsOf row.oid, column.table = row.oid :=
      fun column hcolumn => (mem_columnsOf.1 hcolumn).2
    refine ⟨_, sorts_sortOn _ _, ?_⟩
    refine ((List.forall₂_and_left _ _).2 ⟨hown, mapM_eq_ok_iff.1 hcolumns⟩).imp ?_
    rintro columnRow column ⟨htable, hcolumn⟩
    exact columnIn_of_column (by rw [htable]) hcolumn
  case primaryKey => exact ⟨_, sorts_sortOn _ _, rfl⟩
  case foreignKeys =>
    intro key hkey
    obtain ⟨constraint, -, hfound⟩ := List.mem_filterMap.1 hkey
    exact (foreignKeyIn_of_foreignKey? hfound).2
  case foreignKeyNames =>
    dsimp only
    rw [map_name_foreignKeysOf]
    exact ⟨pairwise_sortedSet text_linear _, fun _ => mem_foreignKeyNames⟩
  case alone => exact halone

/-! ## All tables -/

theorem exists_assemble_iff : (∃ tables, rows.assemble types = .ok tables) ↔
    ∀ row ∈ rows.tables, ∀ column ∈ rows.columns, column.table = row.oid →
      ∃ t, types.resolve column.type column.modifier column.dimensions = .ok t := by
  constructor
  · rintro ⟨tables, h⟩ row hrow column hcolumn htable
    obtain ⟨tables', htables, -⟩ := map_eq_ok_iff.1 h
    obtain ⟨t, -, ht⟩ := exists_right_of_mem (mapM_eq_ok_iff.1 htables) hrow
    obtain ⟨described, -, hdescribed⟩ :=
      exists_right_of_mem (tableOf_of_table ht).columns (mem_columnsOf.2 ⟨hcolumn, htable⟩)
    exact ⟨_, hdescribed.type⟩
  · intro hresolves
    refine exists_eq_ok fun e he => ?_
    obtain ⟨row, hrow, htable⟩ := exists_of_mapM_eq_error (map_eq_error_iff.1 he)
    obtain ⟨column, hcolumn, howner, hresolve⟩ := exists_column_of_table_eq_error htable
    obtain ⟨t, ht⟩ := hresolves row hrow column hcolumn howner
    rw [ht] at hresolve
    cases hresolve

/-- Assembly gives one table for each row, in the order of their names. -/
theorem exists_rows_in_order
    (hnames : (rows.tables.map fun t => (⟨t.schema, t.name⟩ : QualifiedName)).Nodup)
    {tables : List Table} (h : rows.assemble types = .ok tables) :
    tables.Pairwise (fun t t' => Before QualifiedName.le t.name t'.name) ∧
      ∃ ordered, ordered.Perm rows.tables ∧
        List.Forall₂ (fun row t => rows.table types row = .ok t) ordered tables := by
  obtain ⟨tables', htables, rfl⟩ := map_eq_ok_iff.1 h
  have hrows := mapM_eq_ok_iff.1 htables
  constructor
  · refine pairwise_before_sortOn QualifiedName.le_linear ?_
    rwa [← map_eq_map_of_related hrows fun _ _ ht => (name_of_table ht).symm]
  · obtain ⟨ordered, hordered, hperm⟩ := List.perm_comp_forall₂ (sortOn_perm _ _ _) hrows.flip
    exact ⟨ordered, hperm, hordered.flip⟩

/-- Assembly is exact, provided that oids and names of tables are given once. It fails only for a
type of a column of some table that cannot be resolved, so never with a registry of rows in which
arrays and ranges alone make no cycle. -/
theorem assemble_exact (hoids : (rows.tables.map TableRow.oid).Nodup)
    (hnames : (rows.tables.map fun t => (⟨t.schema, t.name⟩ : QualifiedName)).Nodup)
    (types : Registry) :
    ((∃ tables, rows.assemble types = .ok tables) ↔
        ∀ row ∈ rows.tables, ∀ column ∈ rows.columns, column.table = row.oid →
          ∃ t, types.resolve column.type column.modifier column.dimensions = .ok t) ∧
      (∀ typeRows labels attributes,
        (TypeRows.ofRows typeRows labels attributes).CyclesPassDefinitions →
        Registry.ofRows (.ofRows typeRows labels attributes) = .ok types →
        ∃ tables, rows.assemble types = .ok tables) ∧
      ∀ tables, rows.assemble types = .ok tables →
        tables.Pairwise (fun t t' => Before QualifiedName.le t.name t'.name) ∧
          ∃ ordered, ordered.Perm rows.tables ∧
            List.Forall₂ (AssembledFrom rows types) ordered tables := by
  refine ⟨exists_assemble_iff, ?_, ?_⟩
  · intro typeRows labels attributes hcycles hregistry
    have hindexed := TypeRows.indexed_ofRows typeRows labels attributes
    have hwraps := TypeRows.cyclesPassDefinitions_iff.1 hcycles
    refine exists_assemble_iff.2 fun row _ column _ _ => ?_
    exact Registry.exists_resolve_of_ofRows hindexed hregistry
      (TypeRows.unwrap_ne_none hwraps _ _ _)
  · intro tables h
    obtain ⟨hascending, ordered, hperm, hordered⟩ := exists_rows_in_order hnames h
    refine ⟨hascending, ordered, hperm, ?_⟩
    refine ((List.forall₂_and_left _ _).2 ⟨fun row hrow => hperm.mem_iff.1 hrow, hordered⟩).imp ?_
    rintro row t ⟨hrow, ht⟩
    exact assembledFrom_of_table hoids hrow ht

/-- Two tables, the rows of which are mixed with each other and with those of a table that is not
there. -/
def mixedRows : TableRows where
  tables := [⟨2, "public", "users", "r"⟩, ⟨1, "public", "pairs", "r"⟩]
  columns := [⟨1, "b", 2, 9, -1, 0, true, false, false, false, ""⟩,
    ⟨3, "lost", 1, 9, -1, 0, false, false, false, false, ""⟩,
    ⟨2, "id", 1, 9, -1, 0, true, false, false, false, ""⟩,
    ⟨1, "a", 1, 9, -1, 0, true, false, false, false, ""⟩]
  keys := [⟨1, "pairs_pkey", "p", "b", 1, 2⟩, ⟨2, "users_id", "u", "id", 1, 1⟩,
    ⟨1, "pairs_pkey", "p", "a", 2, 2⟩, ⟨1, "pairs_a_b", "u", "a", 1, 2⟩]
  foreignKeys := [⟨3, "lost_users", "public", "users", "lost", "id", 1⟩,
    ⟨1, "pairs_users", "public", "users", "a", "id", 1⟩]

def integerRows : TypeRows :=
  .ofRows [⟨9, "pg_catalog", "int4", "b", "N", 0, 0, -1, false, 0, none, none⟩] [] []

theorem integerRows_cyclesPassDefinitions : integerRows.CyclesPassDefinitions := by
  refine TypeRows.cyclesPassDefinitions_of_rank (fun _ => 0) fun a b hwraps => ?_
  obtain ⟨row, hrow⟩ := hwraps.exists_row
  obtain ⟨hmem, rfl⟩ := (TypeRows.row?_ofRows_eq_some_iff (by decide)).1 hrow
  obtain rfl := List.mem_singleton.1 hmem
  rw [TypeRows.wraps_iff hrow] at hwraps
  simp [TypeRow.isArray] at hwraps

theorem mixedRows_assemble_exact :
    (mixedRows.tables.map TableRow.oid).Nodup ∧
      (mixedRows.tables.map fun t => (⟨t.schema, t.name⟩ : QualifiedName)).Nodup ∧
      ∃ types, Registry.ofRows integerRows = .ok types ∧
        ∃ tables, mixedRows.assemble types = .ok tables ∧
          ∃ ordered, ordered.Perm mixedRows.tables ∧
            List.Forall₂ (AssembledFrom mixedRows types) ordered tables := by
  have hoids : (mixedRows.tables.map TableRow.oid).Nodup := by decide
  have hnames : (mixedRows.tables.map fun t => (⟨t.schema, t.name⟩ : QualifiedName)).Nodup := by
    decide
  have hregistry : Registry.ofRows integerRows = .ok ⟨[], some integerRows⟩ := by rfl
  obtain ⟨-, hassembles, hexact⟩ := assemble_exact hoids hnames ⟨[], some integerRows⟩
  obtain ⟨tables, htables⟩ := hassembles _ _ _ integerRows_cyclesPassDefinitions hregistry
  exact ⟨hoids, hnames, _, hregistry, tables, htables, (hexact tables htables).2⟩

example : (mixedRows.assemble ⟨[], some integerRows⟩).map
      (·.map fun t => (t.name.name, t.columns.map (·.name), t.primaryKey,
        t.columns.map (·.isUnique))) =
    .ok [("pairs", ["a", "b"], ["b", "a"], [false, false]), ("users", ["id"], [], [true])] := by
  rfl

end TableRows

end SchemaStructs.Catalog
