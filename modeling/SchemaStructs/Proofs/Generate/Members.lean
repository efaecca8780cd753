import SchemaStructs.Proofs.Generate.RowLines

/-!
# Members of blocks

From rows to the lines of the generated text: the struct of an included table has one line for each
of its columns, an enum one for each of its labels and a composite one for each of its attributes,
in the order of the rows. Rows come in any order, pass through grouping, sorting, resolution and
mapping, and are read back from the text of the files.
-/

namespace SchemaStructs

open Catalog Mapping Generate Rust Text Identifier

/-! ## Rows in order -/

namespace Catalog

variable {α : Type}

/-- No row stands after one with a greater ordinal. -/
def InOrdinalOrder (ordinal : α → Int) (rows : List α) : Prop :=
  rows.Pairwise fun a b => ordinal a ≤ ordinal b

/-- No label stands after one with a greater sort order. -/
def InSortOrder (labels : List LabelRow) : Prop :=
  labels.Pairwise fun a b => ¬ b.sortOrder.value.less a.sortOrder.value

/-- The sort orders of labels are in order with each other. -/
def Sortable (labels : List LabelRow) : Prop :=
  ∀ row ∈ labels, row.sortOrder.value.isDefined = true

theorem inOrdinalOrder_sortOn (ordinal : α → Int) (rows : List α) :
    InOrdinalOrder ordinal (sortOn .integer ordinal rows) := by
  have hsorted := pairwise_sortOn Comparison.integer_linear ordinal rows
  exact hsorted.imp fun hle => by simpa [Comparison.integer] using hle

/-- The labels of an enum are those of its rows, in sort order if they have one. -/
theorem TypeRows.exists_labelsOf (rows : TypeRows) (oid : Oid) :
    ∃ sorted, rows.labelsOf oid = sorted.map LabelRow.label ∧
      sorted.Perm (rows.labels.filter (·.type == oid)) ∧
        (Sortable sorted → InSortOrder sorted) := by
  unfold labelsOf
  dsimp only
  split
  · rename_i hdefined
    refine ⟨_, rfl, sortOn_perm _ _ _, fun _ => pairwise_not_less_sortOn ?_⟩
    exact List.all_eq_true.1 hdefined
  · rename_i hdefined
    refine ⟨_, rfl, arrange_perm _ _, fun hsortable => absurd (List.all_eq_true.2 ?_) hdefined⟩
    exact fun row hrow => hsortable row ((arrange_perm _ _).mem_iff.2 hrow)

end Catalog

/-! ## Lines of rows -/

namespace Server.Answers

/-- The lines stand for the rows `selected`: there is a line for each, in an order of the rows that
is `ordered`, and no two rows have the same identifier. -/
def Enumerates {α : Type} (selected : List α) (ordered : List α → Prop) (identifier : α → String)
    (lineOf : α → String → Prop) (lines : List String) : Prop :=
  ∃ rows : List α, rows.Perm selected ∧ ordered rows ∧ (rows.map identifier).Nodup ∧
    List.Forall₂ lineOf rows lines

variable (a : Answers) (registry : Registry)

/-- The line of a column has its identifier and mapped type. -/
def ColumnLine (row : ColumnRow) (line : String) : Prop :=
  ∃ column m, a.tableRows.ColumnOf registry row column ∧
    mapNullable registry column.type (fieldTakesNull column) = .ok m ∧
    line = fieldLine (columnName row.name) m.type

def LabelLine (row : LabelRow) (line : String) : Prop := line = variantLine (variantName row.label)

instance (row : LabelRow) (line : String) : Decidable (LabelLine row line) :=
  inferInstanceAs (Decidable (_ = _))

def AttributeLine (row : AttributeRow) (line : String) : Prop :=
  ∃ field m, TypeRows.ResolvesTo registry.resolve row field ∧
    mapNullable registry field.type (fieldIsNullable field) = .ok m ∧
    line = fieldLine (columnName row.name) m.type

/-- The block of a table's struct has a line for each column. -/
def TableBlock (row : TableRow) (name : String) (block : Block) : Prop :=
  block.opening = s!"pub struct {name} \x7b" ∧
    Enumerates (a.columns.filter (·.table == row.oid)) (InOrdinalOrder (·.ordinal))
      (columnName ·.name) (ColumnLine a registry) block.members

/-- The block of an enum has a line for each label, and that of a composite one for each attribute.
`labelOrder` is what is asked of the order of labels. -/
inductive TypeBlock (labelOrder : List LabelRow → Prop) (row : TypeRow) (block : Block) : Prop
  | enum (hkind : row.kind = "e") (hopening : block.opening = s!"pub enum {typeName row.name} \x7b")
    (hmembers : Enumerates (a.labels.filter (·.type == row.oid)) labelOrder (variantName ·.label)
      LabelLine block.members)
  | composite (hkind : row.kind = "c")
    (hopening : block.opening = s!"pub struct {typeName row.name} \x7b")
    (hmembers : Enumerates (a.attributes.filter (·.owner == row.oid)) (InOrdinalOrder (·.ordinal))
      (columnName ·.name) (AttributeLine registry) block.members)

/-- The file of a table: blocks of registered types, and then the block of the table. -/
structure TableFile (labelOrder : List LabelRow → Prop) (files : List (String × String))
    (row : TableRow) (s : Struct) : Prop where
  table : s.table = ⟨row.schema, row.name⟩
  blocks : ∃ text types block, (s.moduleName ++ ".rs", text) ∈ files ∧
    blocks (linesOf text) = types ++ [block] ∧ TableBlock a registry row s.name block ∧
    ∀ typeBlock ∈ types, ∃ typeRow ∈ a.types, typeRow.isRegistered = true ∧
      TypeBlock a registry labelOrder typeRow typeBlock

/-- The rows of tables that are not excluded. -/
def included (excluded : List String) : List TableRow :=
  a.tables.filter fun row => !isExcluded excluded ⟨row.schema, row.name⟩

/-- Every included table has its file, and members of blocks follow the rows. -/
structure MembersFollowRows (labelOrder : List LabelRow → Prop) (excluded : List String)
    (artifacts : Artifacts) : Prop where
  files : (artifacts.files.map Prod.fst).Nodup
  tables : ∃ rows : List TableRow, rows.Perm (a.included excluded) ∧
    List.Forall₂ (TableFile a registry labelOrder artifacts.files) rows artifacts.structs

/-- Members have names of their own in their table, enum or composite. Names that are written as
they are have no line break, and those of tables are plain. -/
structure WellNamed : Prop extends a.NamesUnbroken where
  plain : ∀ row ∈ a.tables, (⟨row.schema, row.name⟩ : QualifiedName).Plain
  columns : ∀ row ∈ a.tables, ((a.columns.filter (·.table == row.oid)).map (·.name)).Nodup
  labels : ∀ row ∈ a.types, ((a.labels.filter (·.type == row.oid)).map (·.label)).Nodup
  attributes : ∀ row ∈ a.types, ((a.attributes.filter (·.owner == row.oid)).map (·.name)).Nodup

instance : Decidable a.WellNamed :=
  decidable_of_iff
    (a.NamesUnbroken ∧ (∀ row ∈ a.tables, (⟨row.schema, row.name⟩ : QualifiedName).Plain) ∧
      (∀ row ∈ a.tables, ((a.columns.filter (·.table == row.oid)).map (·.name)).Nodup) ∧
      (∀ row ∈ a.types, ((a.labels.filter (·.type == row.oid)).map (·.label)).Nodup) ∧
      ∀ row ∈ a.types, ((a.attributes.filter (·.owner == row.oid)).map (·.name)).Nodup)
    ⟨fun ⟨h₁, h₂, h₃, h₄, h₅⟩ => ⟨h₁, h₂, h₃, h₄, h₅⟩,
      fun ⟨h₁, h₂, h₃, h₄, h₅⟩ => ⟨h₁, h₂, h₃, h₄, h₅⟩⟩

end Server.Answers

/-! ## Distinct identifiers -/

namespace Identifier

/-- Names that are all distinct have distinct identifiers. -/
theorem Consistent.nodup_identifiers {α : Type} {xs : List α} {name identifier : α → String}
    (h : Consistent .sensitive (xs.map fun x => (name x, identifier x)))
    (hnames : (xs.map name).Nodup) : (xs.map identifier).Nodup := by
  have hkeys := h.nodup_keys (by rwa [List.map_map])
  rw [List.map_map] at hkeys
  refine List.Nodup.of_map bare ?_
  rw [List.map_map]
  exact hkeys

end Identifier

/-! ## Members -/

namespace Server.Answers

variable {a : Answers} {version : Option String} {snapshot : Snapshot}

theorem columnLine_of_fieldOf {registry : Registry} {row : ColumnRow} {t : Table} {column : Column}
    {f : Field} (hcolumn : a.tableRows.ColumnOf registry row column)
    (hf : FieldOf registry t column f) : a.ColumnLine registry row (fieldLine f.name f.type) := by
  obtain ⟨m, hm, htype⟩ := hf.type_eq
  refine ⟨column, m, hcolumn, hm, ?_⟩
  rw [hf.name_eq, hcolumn.name, htype]

theorem attributeLine_of_mapsField {registry : Registry} {row : AttributeRow}
    {field : Attribute TypeRef} {m : String × Mapped}
    (hfield : TypeRows.ResolvesTo registry.resolve row field) (hm : MapsField registry field m) :
    AttributeLine registry row (fieldLine (columnName m.1) m.2.type) := by
  refine ⟨field, m.2, hfield, hm.2, ?_⟩
  rw [hm.1, hfield.1]

theorem opening_enum (name : QualifiedName) (identifier : String) (labels : List String) :
    (declarationBlock ⟨name, identifier, .enum labels⟩).opening = s!"pub enum {identifier} \x7b" :=
      rfl

theorem opening_recordDeclaration (name : QualifiedName) (source : List (Attribute TypeRef))
    (mapped : List (String × Mapped)) :
    (declarationBlock (recordDeclaration name source mapped)).opening =
      s!"pub struct {typeName name.name} \x7b" := by
  simp only [declarationBlock, recordDeclaration]

theorem members_recordDeclaration (name : QualifiedName) (source : List (Attribute TypeRef))
    (mapped : List (String × Mapped)) :
    (declarationBlock (recordDeclaration name source mapped)).members =
      mapped.map fun m => fieldLine (columnName m.1) m.2.type := by
  simp only [declarationBlock, recordDeclaration, memberLines, List.map_map]
  rfl

section Named

variable (hnamed : a.WellNamed)

include hnamed

theorem tableBlock_of_tableOf {row : TableRow} (hrow : row ∈ a.tables) {t : Table}
    (ht : a.tableRows.TableOf snapshot.types row t) {s : Struct}
    (hs : StructOf snapshot.types t s) : TableBlock a snapshot.types row s.name s.block := by
  have hfields : List.Forall₂ (fun (r : ColumnRow) f => ∃ column,
      a.tableRows.ColumnOf snapshot.types r column ∧ FieldOf snapshot.types t column f)
      (a.tableRows.columnsOf row.oid) s.fields :=
    forall₂_comp ht.columns hs.fields fun r column _ f _ hr hf => ⟨column, hr, hf⟩
  have hperm : (a.tableRows.columnsOf row.oid).Perm (a.columns.filter (·.table == row.oid)) :=
    sortOn_perm _ _ _
  have hcolumn : (a.tableRows.columnsOf row.oid).map (·.name) = s.fields.map (·.column) := by
    refine map_eq_map_of_related hfields ?_
    rintro r f ⟨column, hr, hf⟩
    exact (hf.column_eq.trans hr.name).symm
  have hname : (a.tableRows.columnsOf row.oid).map (columnName ·.name) = s.fields.map (·.name) := by
    refine map_eq_map_of_related hfields ?_
    rintro r f ⟨column, hr, hf⟩
    rw [hf.name_eq, hr.name]
  refine ⟨rfl, _, hperm, inOrdinalOrder_sortOn _ _, ?_, ?_⟩
  · rw [hname]
    apply hs.fieldNames.nodup_identifiers
    rw [← hcolumn]
    exact (hperm.map _).nodup_iff.2 (hnamed.columns row hrow)
  · rw [Struct.block, List.forall₂_map_right_iff]
    refine hfields.imp ?_
    rintro r f ⟨column, hr, hf⟩
    exact columnLine_of_fieldOf hr hf

/-- A declaration that can be written has a block of the row that it is made from. -/
theorem typeBlock_of_declarationOf {row : TypeRow} (hrow : row ∈ a.types) {d : Declaration}
    (hd : DeclarationOf a.typeRows snapshot.types row d) {framework : Framework}
    {lines : List String} (hlines : declarationLines framework d = .ok lines) :
    TypeBlock a snapshot.types (fun labels => Sortable labels → InSortOrder labels) row
      (declarationBlock d) := by
  cases hd with
  | enum hkind =>
    obtain ⟨labels, hlabels, hperm, hordered⟩ := a.typeRows.exists_labelsOf row.oid
    obtain ⟨hconsistent, -⟩ := enumLines_eq_ok hlines
    refine .enum hkind (opening_enum _ _ _) ⟨labels, hperm, hordered, ?_, ?_⟩
    · rw [hlabels, List.map_map] at hconsistent
      apply hconsistent.nodup_identifiers
      exact (hperm.map _).nodup_iff.2 (hnamed.labels row hrow)
    · show List.Forall₂ _ _
          ((a.typeRows.labelsOf row.oid).map fun label => variantLine (variantName label))
      rw [hlabels, List.map_map, List.forall₂_map_right_iff, List.forall₂_same]
      exact fun label _ => rfl
  | @composite source mapped hkind _ hsource hmapped =>
    obtain ⟨hconsistent, -⟩ := compositeLines_eq_ok hlines
    have hfields : List.Forall₂ (fun (r : AttributeRow) (m : String × Mapped) => ∃ field,
        TypeRows.ResolvesTo snapshot.types.resolve r field ∧ MapsField snapshot.types field m)
        (a.typeRows.attributesOf row.oid) mapped :=
      forall₂_comp hsource hmapped fun r field _ m _ hr hm => ⟨field, hr, hm⟩
    have hperm : (a.typeRows.attributesOf row.oid).Perm
        (a.attributes.filter (·.owner == row.oid)) :=
      sortOn_perm _ _ _
    have hpairs : (a.typeRows.attributesOf row.oid).map (fun r => (r.name, columnName r.name)) =
        (mapped.map fun m => (m.1, m.2.type)).map fun f => (f.1, columnName f.1) := by
      rw [List.map_map]
      refine map_eq_map_of_related hfields ?_
      rintro r m ⟨field, hr, hm⟩
      show (r.name, columnName r.name) = (m.1, columnName m.1)
      rw [hm.1, hr.1]
    refine .composite hkind (opening_recordDeclaration row.qualifiedName _ _)
      ⟨_, hperm, inOrdinalOrder_sortOn _ _, ?_, ?_⟩
    · rw [← hpairs] at hconsistent
      apply hconsistent.nodup_identifiers
      exact (hperm.map _).nodup_iff.2 (hnamed.attributes row hrow)
    · rw [members_recordDeclaration, List.forall₂_map_right_iff]
      refine hfields.imp ?_
      rintro r m ⟨field, hr, hm⟩
      exact attributeLine_of_mapsField hr hm

/-! ## Files -/

omit hnamed in
/-- Tables of rows with distinct plain names have distinct texts. -/
theorem nodup_texts_of_tableOf {registry : Registry} {rows : List TableRow} {tables : List Table}
    (htables : List.Forall₂ (a.tableRows.TableOf registry) rows tables)
    (hplain : ∀ row ∈ rows, (⟨row.schema, row.name⟩ : QualifiedName).Plain)
    (hdistinct : (rows.map fun row => (⟨row.schema, row.name⟩ : QualifiedName)).Nodup) :
    (tables.map fun t => t.name.text).Nodup := by
  have htexts : rows.map (fun row => (⟨row.schema, row.name⟩ : QualifiedName).text) =
      tables.map fun t => t.name.text :=
    map_eq_map_of_related htables fun row t ht => by rw [ht.name]
  rw [← htexts]
  rw [List.Nodup, List.pairwise_map] at hdistinct ⊢
  refine hdistinct.imp_of_mem fun _ hrow' hne he => hne ?_
  exact (hplain _ hrow').eq_of_text_eq he

/-- A struct of a plan has its file, with the blocks of the rows. -/
theorem tableFile_of_built {singular : Bool} {excluded : List String} {plan : Plan}
    {framework : Framework} {files : List (String × String)}
    (hspellings : ∀ row ∈ a.columns, Unbroken row.formattedType)
    (hsnapshot : a.snapshot version = .ok snapshot) (h : plan.Built snapshot singular excluded)
    (hmodules : (plan.structs.map Struct.moduleName).Nodup)
    (hfiles : plan.files framework = .ok files) {row : TableRow} (hrow : row ∈ a.tables) {t : Table}
    (ht : a.tableRows.TableOf snapshot.types row t) {s : Struct} (hs : s ∈ plan.structs)
    (hts : StructOf snapshot.types t s) :
    TableFile a snapshot.types (fun labels => Sortable labels → InSortOrder labels) files
      row s := by
  obtain ⟨htypes, -, -⟩ := snapshot_eq_ok_iff.1 hsnapshot
  obtain ⟨file, hfile, hstructFile⟩ := h.exists_structFile hmodules hfiles hs
  have hblocks := blocks_structFile hnamed.toNamesUnbroken hspellings hsnapshot h hs hstructFile
  obtain ⟨imported, text, -, htext, rfl⟩ := structFile_eq_ok_iff.1 hstructFile
  obtain ⟨declarations, hdeclarations, -⟩ := tableFile_eq_ok_iff.1 htext
  refine ⟨hts.table_eq.trans ht.name, text, _, _, hfile, hblocks,
    tableBlock_of_tableOf hnamed hrow ht hts, ?_⟩
  intro block hblock
  obtain ⟨d, hd, rfl⟩ := List.mem_map.1 hblock
  obtain ⟨lines, -, hlines⟩ := exists_right_of_mem hdeclarations hd
  obtain ⟨typeRow, htypeRow, hdeclaration⟩ :=
    exists_row_of_declares htypes ((h.mem_ownedBy_iff hmodules).1 hd).1
  obtain ⟨hmem, hregistered⟩ := TypeRows.mem_of_mem_registered htypeRow
  exact ⟨typeRow, hmem, hregistered, typeBlock_of_declarationOf hnamed hmem hdeclaration hlines⟩

end Named

/-- **Members follow rows**: whatever order rows come in, the struct of each included table has one
field line for each of its columns in ordinal order, with its identifier and mapped type; each enum
that is written has one line for each of its labels, in sort order if they have one; and each
composite that is written has one line for each of its attributes in ordinal order. -/
theorem generate_members_follow_rows (a : Answers) (hnamed : a.WellNamed)
    (hspellings : ∀ row ∈ a.columns, Unbroken row.formattedType) {version : Option String}
    {snapshot : Snapshot} (hsnapshot : a.snapshot version = .ok snapshot) (options : Options)
    (hdistinct : ((a.included options.excluded).map fun row =>
      (⟨row.schema, row.name⟩ : QualifiedName)).Nodup)
    {artifacts : Artifacts} (h : generate snapshot options = .ok artifacts) :
    a.MembersFollowRows snapshot.types (fun labels => Sortable labels → InSortOrder labels)
      options.excluded artifacts := by
  obtain ⟨-, htables, -⟩ := snapshot_eq_ok_iff.1 hsnapshot
  obtain ⟨plan, hplan, hfiles, hstructs, -⟩ := generate_eq_ok_iff.1 h
  have hbuilt := built_of_planOf hplan
  obtain ⟨rows, hperm, hrows⟩ := TableRows.exists_rows_of_assemble
    (fun name => !isExcluded options.excluded name) htables
      (sortOn_perm QualifiedName.le Table.name _)
  have hmem : ∀ row ∈ rows, row ∈ a.tables := fun row hrow =>
    List.mem_of_mem_filter (hperm.mem_iff.1 hrow)
  have htexts := nodup_texts_of_tableOf hrows (fun row hrow => hnamed.plain row (hmem row hrow))
    ((hperm.map _).nodup_iff.2 hdistinct)
  have hmodules := hbuilt.nodup_moduleNames htexts
  refine ⟨hbuilt.nodup_map_fst_files hmodules hfiles, rows, hperm, ?_⟩
  rw [hstructs]
  have hrows' := (List.forall₂_and_left _ _).2 ⟨hmem, hrows⟩
  refine forall₂_comp hrows' hbuilt.structOf fun row t _ s hs ⟨hrow, ht⟩ hts => ?_
  exact tableFile_of_built hnamed hspellings hsnapshot hbuilt hmodules hfiles hrow ht hs hts

/-! ### Rows of a small catalog, in reverse -/

/-- What is generated from rows can be read off by evaluation. -/
theorem exists_generate {β : Type} (a : Answers) (view : Artifacts → β) {seen : β}
    (h :
      (((a.snapshot none).toOption.bind fun snapshot => (generate snapshot {}).toOption).map view) =
      some seen) :
    ∃ snapshot artifacts, a.snapshot none = .ok snapshot ∧ generate snapshot {} = .ok artifacts ∧
      view artifacts = seen := by
  obtain ⟨artifacts, hartifacts, hview⟩ := Option.map_eq_some_iff.1 h
  obtain ⟨snapshot, hsnapshot, hartifacts⟩ := Option.bind_eq_some_iff.1 hartifacts
  exact ⟨snapshot, artifacts, toOption_eq_some_iff.1 hsnapshot,
    toOption_eq_some_iff.1 hartifacts, hview⟩

theorem reversed_shop_members_follow_rows :
    shop.reversed.WellNamed ∧ (∀ row ∈ shop.reversed.columns, Unbroken row.formattedType) ∧
      ((shop.reversed.included []).map fun row => (⟨row.schema, row.name⟩ : QualifiedName)).Nodup ∧
      ∃ snapshot artifacts, shop.reversed.snapshot none = .ok snapshot ∧
        generate snapshot {} = .ok artifacts ∧
        shop.reversed.MembersFollowRows snapshot.types
          (fun labels => Sortable labels → InSortOrder labels) [] artifacts := by
  have hnamed : shop.reversed.WellNamed := by decide
  have hspellings : ∀ row ∈ shop.reversed.columns, Unbroken row.formattedType := by decide
  have hdistinct : ((shop.reversed.included []).map fun row =>
      (⟨row.schema, row.name⟩ : QualifiedName)).Nodup := by decide
  obtain ⟨snapshot, artifacts, hsnapshot, h, -⟩ := exists_generate shop.reversed
    (fun artifacts => artifacts.files.length) (show _ = some 3 by decide +kernel)
  exact ⟨hnamed, hspellings, hdistinct, snapshot, artifacts, hsnapshot, h,
    generate_members_follow_rows shop.reversed hnamed hspellings hsnapshot {} hdistinct h⟩

/-! ### What the conditions exclude

Members do not follow the rows of two tables with one name, of a column whose SQL spelling goes over
several lines, and of an enum with a sort order that is no number. -/

/-- Something can be generated in which members do not follow the rows. -/
def LosesMembers (a : Answers) : Prop :=
  ∃ snapshot artifacts, a.snapshot none = .ok snapshot ∧ generate snapshot {} = .ok artifacts ∧
    ¬ a.MembersFollowRows snapshot.types InSortOrder [] artifacts

theorem MembersFollowRows.exists_tableFile {registry : Registry} {labelOrder : List LabelRow → Prop}
    {excluded : List String} {artifacts : Artifacts}
    (h : a.MembersFollowRows registry labelOrder excluded artifacts) {row : TableRow}
    (hrow : row ∈ a.included excluded) :
    ∃ s ∈ artifacts.structs, TableFile a registry labelOrder artifacts.files row s := by
  obtain ⟨rows, hperm, hrows⟩ := h.tables
  exact exists_right_of_mem hrows (hperm.mem_iff.2 hrow)

/-- The number of members in the last block of a text. -/
def lastBlockSize (text : String) : Option Nat :=
  (blocks (linesOf text)).getLast?.map (·.members.length)

/-- The last block in the file of a table has as many members as the table has columns. -/
theorem TableFile.exists_lastBlockSize {registry : Registry} {labelOrder : List LabelRow → Prop}
    {files : List (String × String)} {row : TableRow} {s : Struct}
    (h : TableFile a registry labelOrder files row s) :
    ∃ text, (s.moduleName ++ ".rs", text) ∈ files ∧
      lastBlockSize text = some (a.columns.filter (·.table == row.oid)).length := by
  obtain ⟨text, types, block, hfile, hblocks, ⟨-, rows, hperm, -, -, hlines⟩, -⟩ := h.blocks
  refine ⟨text, hfile, ?_⟩
  rw [lastBlockSize, hblocks, List.getLast?_concat, Option.map_some, ← hlines.length_eq,
    hperm.length_eq]

/-! #### Two tables with one name -/

/-- Two tables `users`, one of them without columns. -/
def twins : Answers where
  types := [⟨23, "pg_catalog", "int4", "b", "N", 0, 0, -1, false, 0, none, none⟩]
  labels := []
  attributes := []
  tables := [⟨1, "public", "users", "r"⟩, ⟨2, "public", "users", "r"⟩]
  columns := [⟨1, "id", 1, 23, -1, 0, false, false, false, false, ""⟩]
  keys := []
  foreignKeys := []

/-- Both tables have one file, which cannot have the columns of both. -/
theorem twins_losesMembers : twins.LosesMembers := by
  obtain ⟨snapshot, artifacts, hsnapshot, h, hmodules⟩ := exists_generate twins
    (fun artifacts => artifacts.structs.map Struct.moduleName)
    (show _ = some ["users", "users"] by decide +kernel)
  refine ⟨snapshot, artifacts, hsnapshot, h, fun hfollows => ?_⟩
  have hmodule : ∀ s ∈ artifacts.structs, s.moduleName = "users" := by
    intro s hs
    have hmem := List.mem_map_of_mem (f := Struct.moduleName) hs
    rw [hmodules] at hmem
    simpa using hmem
  have hsize : ∀ row ∈ twins.included [], ∃ text, ("users.rs", text) ∈ artifacts.files ∧
      lastBlockSize text = some (twins.columns.filter (·.table == row.oid)).length := by
    intro row hrow
    obtain ⟨s, hs, hfile⟩ := hfollows.exists_tableFile hrow
    obtain ⟨text, htext⟩ := hfile.exists_lastBlockSize
    rw [hmodule s hs] at htext
    exact ⟨text, htext⟩
  obtain ⟨text, htext, hone⟩ := hsize ⟨1, "public", "users", "r"⟩ (by decide)
  obtain ⟨text', htext', hnone⟩ := hsize ⟨2, "public", "users", "r"⟩ (by decide)
  have hsame : ("users.rs", text) = ("users.rs", text') :=
    List.inj_on_of_nodup_map hfollows.files htext htext' rfl
  obtain rfl : text = text' := (Prod.mk.inj hsame).2
  rw [hone] at hnone
  exact absurd hnone (by decide)

/-! #### A spelling over two lines -/

/-- A text whose SQL spelling holds the line of a field. -/
def notes : Answers where
  types := [⟨1043, "pg_catalog", "varchar", "b", "S", 0, 0, -1, false, 0, none, none⟩]
  labels := []
  attributes := []
  tables := [⟨1, "public", "notes", "r"⟩]
  columns := [⟨1, "note", 1, 1043, 14, 0, false, false, false, false, "varchar\n    pub x: i32,"⟩]
  keys := []
  foreignKeys := []

/-- The entries of the file of the notes: the last comment goes on in the line of a field. -/
def notesLines : List String := [
  "#![allow(dead_code)]", "// Generated with autostruct", "",
  "/// Table `public.notes`", "#[derive(Debug, Clone)]", "pub struct Notes \x7b",
  "    /// SQL type: `varchar\n    pub x: i32,`",
  "    pub note: Option<String>,", "\x7d"]

theorem notes_losesMembers : notes.LosesMembers := by
  obtain ⟨snapshot, artifacts, hsnapshot, h, hfiles⟩ := exists_generate notes Artifacts.files
    (show _ = some [
      ("mod.rs", "// Generated with autostruct\n\npub mod notes;\n\npub use notes::Notes;\n"),
      ("notes.rs", textOfLines notesLines)] by decide +kernel)
  refine ⟨snapshot, artifacts, hsnapshot, h, fun hfollows => ?_⟩
  obtain ⟨s, -, hfile⟩ := hfollows.exists_tableFile
    (show (⟨1, "public", "notes", "r"⟩ : TableRow) ∈ notes.included [] by decide)
  obtain ⟨text, htext, hone⟩ := hfile.exists_lastBlockSize
  have htwo : lastBlockSize (textOfLines notesLines) = some 2 := by
    have hlines : notesLines ≠ [] := List.cons_ne_nil _ _
    rw [lastBlockSize, textOfLines, linesOf_intercalate_append hlines]
    decide +kernel
  rw [hfiles] at htext
  rcases List.mem_cons.1 htext with hindex | hnotes
  · obtain rfl := (Prod.mk.inj hindex).2
    exact absurd hone (by decide +kernel)
  · obtain rfl := (Prod.mk.inj (List.mem_singleton.1 hnotes)).2
    rw [htwo] at hone
    exact absurd hone (by decide)

/-! #### A sort order that is no number -/

/-- An enum with labels at 2, at an undefined place, and at 1. -/
def sizes : Answers where
  types := [⟨5, "public", "size", "e", "E", 0, 0, -1, false, 0, none, none⟩]
  labels := [⟨5, "two", .integer 2⟩, ⟨5, "nan", .undefined⟩, ⟨5, "one", .integer 1⟩]
  attributes := []
  tables := [⟨1, "public", "shirts", "r"⟩]
  columns := [⟨1, "size", 1, 5, -1, 0, false, false, false, false, ""⟩]
  keys := []
  foreignKeys := []

/-- The label at 2 stands before the one at 1, with the other one between them. -/
theorem not_enumerates_sizes :
    ¬ Enumerates (sizes.labels.filter (·.type == 5)) InSortOrder (variantName ·.label) LabelLine
      ["    Two,", "    Nan,", "    One,"] := by
  rintro ⟨labels, hperm, hordered, -, hlines⟩
  have hlabel : ∀ row ∈ labels, row ∈ sizes.labels := fun row hrow =>
    List.mem_of_mem_filter (hperm.mem_iff.1 hrow)
  have htwo : ∀ row ∈ sizes.labels, LabelLine row "    Two," → row.sortOrder = .integer 2 := by
    decide +kernel
  have hone : ∀ row ∈ sizes.labels, LabelLine row "    One," → row.sortOrder = .integer 1 := by
    decide +kernel
  obtain - | @⟨first, _, rest, _, hfirst, hrest⟩ := hlines
  have hlast : ∃ last ∈ rest, LabelLine last "    One," := exists_left_of_mem hrest (by simp)
  obtain ⟨last, hmem, hlast⟩ := hlast
  apply (List.pairwise_cons.1 hordered).1 last hmem
  rw [htwo first (hlabel first List.mem_cons_self) hfirst,
    hone last (hlabel last (List.mem_cons_of_mem _ hmem)) hlast]
  decide

theorem sizes_losesMembers : sizes.LosesMembers := by
  obtain ⟨snapshot, artifacts, hsnapshot, h, -⟩ := exists_generate sizes
    (fun artifacts => artifacts.files.length) (show _ = some 2 by decide +kernel)
  obtain ⟨plan, hplan, hfiles, hstructs, -⟩ := generate_eq_ok_iff.1 h
  have hbuilt := built_of_planOf hplan
  have hplanned : plan.structs.map (fun s => (s.moduleName,
      (plan.ownedBy s.moduleName).map declarationBlock)) =
        [("shirts", [⟨"pub enum Size \x7b", ["    Two,", "    Nan,", "    One,"]⟩])] := by
    have hview : (((sizes.snapshot none).toOption.bind fun snapshot =>
        (planOf snapshot false []).toOption).map fun plan => plan.structs.map fun s =>
          (s.moduleName, (plan.ownedBy s.moduleName).map declarationBlock)) =
        some [("shirts", [⟨"pub enum Size \x7b", ["    Two,", "    Nan,", "    One,"]⟩])] := by
      decide +kernel
    rw [toOption_eq_some_iff.2 hsnapshot, Option.bind_some, toOption_eq_some_iff.2 hplan] at hview
    exact Option.some.inj hview
  refine ⟨snapshot, artifacts, hsnapshot, h, fun hfollows => ?_⟩
  obtain ⟨s, hs, hfile⟩ := hfollows.exists_tableFile
    (show (⟨1, "public", "shirts", "r"⟩ : TableRow) ∈ sizes.included [] by decide)
  rw [hstructs] at hs
  have hmodules : (plan.structs.map Struct.moduleName).Nodup := by
    have hmodules := congrArg (List.map Prod.fst) hplanned
    rw [List.map_map] at hmodules
    rw [show plan.structs.map Struct.moduleName = ["shirts"] from hmodules]
    decide
  have howned : (plan.ownedBy s.moduleName).map declarationBlock =
      [⟨"pub enum Size \x7b", ["    Two,", "    Nan,", "    One,"]⟩] := by
    have hmem := List.mem_map_of_mem (f := fun s : Struct => (s.moduleName,
      (plan.ownedBy s.moduleName).map declarationBlock)) hs
    rw [hplanned] at hmem
    exact (Prod.mk.inj (List.mem_singleton.1 hmem)).2
  obtain ⟨text, types, block, htext, hread, -, htypes⟩ := hfile.blocks
  have hblocks :=
    blocks_of_mem_files (by decide) (by decide) hsnapshot hbuilt hmodules hfiles hs htext
  rw [hread, howned] at hblocks
  obtain ⟨rfl, -⟩ := List.append_inj' hblocks rfl
  obtain ⟨typeRow, htypeRow, -, hblock⟩ := htypes _ List.mem_cons_self
  obtain rfl := List.mem_singleton.1 htypeRow
  cases hblock with
  | composite hkind _ _ => exact absurd hkind (by decide)
  | enum _ _ hmembers => exact not_enumerates_sizes hmembers

/-- No condition of the theorem can be left out: each of the three catalogs meets all but one. -/
theorem members_follow_rows_conditions :
    (twins.WellNamed ∧ (∀ row ∈ twins.columns, Unbroken row.formattedType) ∧ twins.LosesMembers) ∧
    (notes.WellNamed ∧
      ((notes.included []).map fun row => (⟨row.schema, row.name⟩ : QualifiedName)).Nodup ∧
      notes.LosesMembers) ∧
    (sizes.WellNamed ∧ (∀ row ∈ sizes.columns, Unbroken row.formattedType) ∧
      ((sizes.included []).map fun row => (⟨row.schema, row.name⟩ : QualifiedName)).Nodup ∧
      sizes.LosesMembers) :=
  ⟨⟨by decide, by decide, twins_losesMembers⟩, ⟨by decide, by decide, notes_losesMembers⟩,
    ⟨by decide, by decide, by decide, sizes_losesMembers⟩⟩

end Server.Answers

end SchemaStructs
