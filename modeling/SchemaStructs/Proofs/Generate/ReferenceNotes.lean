import SchemaStructs.Proofs.Catalog.ForeignKeys
import SchemaStructs.Proofs.Generate.Collisions

/-!
# Notes on references

The field of a column that refers to others carries a note on the first of them. It is found in two
steps, in the first key of the table that has the column and there at the first place of the column;
both steps together find the first of the rows that name the column, whatever the order in which the
rows came.
-/

namespace SchemaStructs.Generate

open Catalog

variable {rows : TableRows}

/-! ## Notes of columns -/

/-- The note for a column: there is one exactly if some row of the table names the column, and it is
the target of the first of these rows. -/
structure NoteOf (keys : List ForeignKeyRow) (table : Oid) (column : String)
    (note : Option String) : Prop where
  carried : note.isSome = true ↔ ∃ row ∈ keys, row.table = table ∧ row.column = column
  target : ∀ text ∈ note, ∃ row, FirstReference keys table column row ∧ text = row.target

/-- No column of a table is without its note, or without a partner in the key that has it. -/
theorem exists_noteOf {oid : Oid} {t : Table} (hkeys : KeysFollowRows rows oid t.foreignKeys)
    (column : String) :
    ∃ note, referenceNote? t column = .ok note ∧ NoteOf rows.foreignKeys oid column note := by
  unfold referenceNote? Table.foreignKeyFor?
  cases hfound : t.foreignKeys.find? (·.columns.contains column) with
  | none =>
    have hmissing : ¬ ∃ key ∈ t.foreignKeys, column ∈ key.columns := by
      rintro ⟨key, hkey, hcolumn⟩
      exact List.find?_eq_none.1 hfound key hkey (List.contains_iff_mem.2 hcolumn)
    rw [hkeys.exists_mem_columns_iff] at hmissing
    exact ⟨none, rfl, ⟨by simpa using hmissing, by simp⟩⟩
  | some key =>
    obtain ⟨row, hrow, htable, hreferenced⟩ := hkeys.exists_firstReference hfound
    refine ⟨some row.target, ?_, ⟨?_, ?_⟩⟩
    · rw [row.target_eq, ← htable]
      simp only [hreferenced]
    · simpa using ⟨row, hrow.mem, hrow.table_eq, hrow.column_eq⟩
    · intro text htext
      exact ⟨row, hrow, (Option.some.inj htext).symm⟩

/-! ## Tables and structs -/

/-- The table of a row has its foreign keys, and finds the notes of all columns in them. -/
structure TableReferences (rows : TableRows) (row : TableRow) (t : Table) : Prop where
  name : t.name = ⟨row.schema, row.name⟩
  keys : KeysFollowRows rows row.oid t.foreignKeys
  notes : ∀ column, ∃ note, referenceNote? t column = .ok note ∧
    NoteOf rows.foreignKeys row.oid column note

/-- The field of a column has its note and, if there is one, writes it. -/
structure FieldReference (keys : List ForeignKeyRow) (table : Oid) (column : ColumnRow)
    (f : Field) : Prop where
  column_eq : f.column = column.name
  note : NoteOf keys table column.name f.references
  written : ∀ text ∈ f.references, s!"References `{text}`" ∈ f.notes

/-- The struct of a table has a field with its note for each column of the table. -/
structure StructReferences (rows : TableRows) (row : TableRow) (s : Struct) : Prop where
  table : s.table = ⟨row.schema, row.name⟩
  fields : List.Forall₂ (FieldReference rows.foreignKeys row.oid) (rows.columnsOf row.oid) s.fields

theorem tableReferences_of_table {registry : Registry} (hkeys : CoherentKeys rows.foreignKeys)
    {row : TableRow} {t : Table} (h : rows.table registry row = .ok t) :
    TableReferences rows row t := by
  have hname := TableRows.name_of_table h
  obtain ⟨columns, -, h⟩ := bind_eq_ok_iff.1 h
  cases pure_eq_ok_iff.1 h
  have hfollow := TableRows.keysFollowRows_foreignKeysOf hkeys row.oid
  exact ⟨hname, hfollow, exists_noteOf hfollow⟩

theorem mem_notes_of_references {f : Field} {text : String} (h : f.references = some text)
    (hne : text ≠ "") : s!"References `{text}`" ∈ f.notes := by
  simp [Field.notes, h, hne, Option.filter]

theorem fieldReference_of_fieldOf {registry : Registry} {row : TableRow} {t : Table}
    (ht : TableReferences rows row t) {columnRow : ColumnRow} {column : Column}
    (hcolumn : rows.ColumnOf registry columnRow column) {f : Field}
    (hf : FieldOf registry t column f) : FieldReference rows.foreignKeys row.oid columnRow f := by
  obtain ⟨note, hnote, hof⟩ := ht.notes column.name
  obtain rfl : note = f.references := Except.ok.inj (hnote.symm.trans hf.references_eq)
  rw [hcolumn.name] at hof
  refine ⟨hf.column_eq.trans hcolumn.name, hof, fun text htext => ?_⟩
  obtain ⟨first, -, rfl⟩ := hof.target text htext
  exact mem_notes_of_references htext first.target_ne_empty

theorem structReferences_of_structOf {registry : Registry} (hkeys : CoherentKeys rows.foreignKeys)
    {row : TableRow} {t : Table} (ht : rows.table registry row = .ok t) {s : Struct}
    (hs : StructOf registry t s) : StructReferences rows row s where
  table := hs.table_eq.trans (TableRows.name_of_table ht)
  fields :=
    forall₂_comp (TableRows.tableOf_of_table ht).columns hs.fields fun _ _ _ _ _ hcolumn hf =>
    fieldReference_of_fieldOf (tableReferences_of_table hkeys ht) hcolumn hf

/-! ## Generation -/

/-- **References**: if the rows of each foreign key have positions of their own and refer to one
table, every constraint is one foreign key of its table that pairs the columns row by row, and every
generated field has the note of its column. -/
theorem generate_references_follow_rows (hkeys : CoherentKeys rows.foreignKeys)
    {registry : Registry} {tables : List Table} (htables : rows.assemble registry = .ok tables) :
    (∃ ordered : List TableRow, ordered.Perm rows.tables ∧
      List.Forall₂ (TableReferences rows) ordered tables) ∧
    ∀ version options artifacts, generate ⟨tables, registry, version⟩ options = .ok artifacts →
      ∃ included : List TableRow,
        included.Perm
          (rows.tables.filter fun row => !isExcluded options.excluded ⟨row.schema, row.name⟩) ∧
        List.Forall₂ (StructReferences rows) included artifacts.structs := by
  constructor
  · have hall : tables.Perm (tables.filter fun _ => true) := .of_eq (by simp)
    obtain ⟨ordered, hperm, hordered⟩ :=
      TableRows.exists_chosen_of_assemble (fun _ => true) htables hall
    refine ⟨ordered, by simpa using hperm, ?_⟩
    exact hordered.imp fun _ _ => tableReferences_of_table hkeys
  · intro version options artifacts h
    obtain ⟨plan, hplan, -, hstructs, -⟩ := generate_eq_ok_iff.1 h
    obtain ⟨included, hperm, hincluded⟩ := TableRows.exists_chosen_of_assemble
      (fun name => !isExcluded options.excluded name) htables
        (sortOn_perm QualifiedName.le Table.name _)
    refine ⟨included, hperm, hstructs ▸ forall₂_comp hincluded (built_of_planOf hplan).structOf ?_⟩
    exact fun _ _ _ _ _ ht hs => structReferences_of_structOf hkeys ht hs

/-- Lines of orders: `product` is in two keys, `place` in one key with it, and `line` twice in one
key. The rows are mixed with each other and with those of another table. -/
def lineRows : TableRows where
  tables := [⟨1, "public", "order_lines", "r"⟩, ⟨2, "public", "stock", "r"⟩]
  columns := [⟨1, "product", 1, 9, -1, 0, true, false, false, false, ""⟩,
    ⟨1, "place", 2, 9, -1, 0, true, false, false, false, ""⟩,
    ⟨1, "line", 3, 9, -1, 0, true, false, false, false, ""⟩,
    ⟨1, "amount", 4, 9, -1, 0, true, false, false, false, ""⟩,
    ⟨2, "product", 1, 9, -1, 0, true, false, false, false, ""⟩]
  foreignKeys := [⟨1, "lines_stock", "public", "stock", "product", "article", 2⟩,
    ⟨1, "lines_self", "public", "order_lines", "line", "next", 2⟩,
    ⟨2, "lines_stock", "public", "products", "product", "id", 1⟩,
    ⟨1, "lines_stock", "public", "stock", "place", "shelf", 1⟩,
    ⟨1, "lines_self", "public", "order_lines", "line", "first", 1⟩,
    ⟨1, "lines_article", "public", "articles", "product", "number", 1⟩]

theorem exists_generate_lineRows : ∃ tables artifacts,
    lineRows.assemble ⟨[], some TableRows.integerRows⟩ = .ok tables ∧
      generate ⟨tables, ⟨[], some TableRows.integerRows⟩, none⟩ {} = .ok artifacts ∧
      artifacts.structs.map (fun s => s.fields.map (·.references)) =
        [[some "public.articles.number", some "public.stock.shelf",
          some "public.order_lines.first", none],
          [some "public.products.id"]] := by
  have hsome : ((lineRows.assemble ⟨[], some TableRows.integerRows⟩).toOption.bind fun tables =>
      ((generate ⟨tables, ⟨[], some TableRows.integerRows⟩, none⟩ {}).toOption).map fun artifacts =>
        artifacts.structs.map fun s => s.fields.map (·.references)) =
      some
        [[some "public.articles.number", some "public.stock.shelf",
          some "public.order_lines.first", none],
        [some "public.products.id"]] := by
    decide +kernel
  obtain ⟨tables, htables, hartifacts⟩ := Option.bind_eq_some_iff.1 hsome
  obtain ⟨artifacts, hartifacts, hnotes⟩ := Option.map_eq_some_iff.1 hartifacts
  exact ⟨tables, artifacts, toOption_eq_some_iff.1 htables,
    toOption_eq_some_iff.1 hartifacts, hnotes⟩

theorem lineRows_references_follow_rows :
    CoherentKeys lineRows.foreignKeys ∧ ∃ tables artifacts,
      lineRows.assemble ⟨[], some TableRows.integerRows⟩ = .ok tables ∧
        generate ⟨tables, ⟨[], some TableRows.integerRows⟩, none⟩ {} = .ok artifacts ∧
        artifacts.structs.map (fun s => s.fields.map (·.references)) =
          [[some "public.articles.number", some "public.stock.shelf",
            some "public.order_lines.first", none],
            [some "public.products.id"]] ∧
        ∃ included : List TableRow, included.Perm lineRows.tables ∧
          List.Forall₂ (StructReferences lineRows) included artifacts.structs := by
  have hkeys : CoherentKeys lineRows.foreignKeys := by decide
  have hall : (lineRows.tables.filter fun row => !isExcluded [] ⟨row.schema, row.name⟩) =
      lineRows.tables := by
    decide
  obtain ⟨tables, artifacts, htables, hartifacts, hnotes⟩ := exists_generate_lineRows
  obtain ⟨included, hperm, hincluded⟩ :=
    (generate_references_follow_rows hkeys htables).2 none {} artifacts hartifacts
  exact ⟨hkeys, tables, artifacts, htables, hartifacts, hnotes, included, hall ▸ hperm, hincluded⟩

end SchemaStructs.Generate
