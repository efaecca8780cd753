import SchemaStructs.Proofs.Generate.Collisions
import SchemaStructs.Proofs.Generate.Nullability
import SchemaStructs.Proofs.Generate.SingleLines

/-!
# Lines made from rows

The names that rows give and the SQL spellings of their columns are all that a line is made of which
is not known beforehand. If these have no line break, no line of a module is broken.
-/

namespace SchemaStructs.Generate

open Catalog Mapping Rust Text

/-! ## Kinds of scalars with modifiers -/

/-- Modifiers are decoded only for types that are known by name. -/
theorem unbroken_of_decode_ne {kind : String} {modifier : Int}
    (h : Modifiers.decode kind modifier ≠ {}) : Unbroken kind := by
  by_contra hbroken
  have hne : ∀ known, Unbroken known → kind ≠ known := by
    rintro known hknown rfl
    exact hbroken hknown
  apply h
  unfold Modifiers.decode
  split
  · rfl
  rw [if_neg (hne _ (by decide)), if_neg, if_neg, if_neg, if_neg (hne _ (by decide))]
  · rintro (rfl | rfl | rfl | rfl) <;> exact hbroken (by decide)
  · rintro (rfl | rfl) <;> exact hbroken (by decide)
  · rintro (rfl | rfl) <;> exact hbroken (by decide)

theorem unbroken_kind {rows : TypeRows} (hindexed : rows.Indexed) {type : TypeRef} {s : Scalar}
    (htype : rows.Gives type) (h : parameterisedScalar? type = some s) : Unbroken s.kind := by
  fun_induction parameterisedScalar? type with
  | case1 element dimension ih => exact ih (htype.part hindexed (List.mem_singleton_self _)) h
  | case2 name underlying notNull ih => exact ih (htype.part hindexed (List.mem_singleton_self _)) h
  | case3 s' hmodified =>
    cases h
    generalize hscalar : TypeRef.scalar s = type at htype
    cases htype with
    | defined _ _ hdefine =>
      cases TypeRows.expandsTo_of_define hdefine <;> cases hscalar
    | @leaf row modifier _ hleaf =>
      cases hleaf with
      | openRange _ _ => cases hscalar
      | multirange _ => cases hscalar
      | base =>
        cases hscalar
        have hdecode : Modifiers.decode row.name modifier ≠ {} := by
          intro hnone
          simp [Scalar.ofModifier, hnone] at hmodified
        exact unbroken_of_decode_ne hdecode
    | missing _ => cases hscalar
    | layer w _ => cases w <;> cases hscalar
  | case4 _ _ => cases h
  | case5 _ _ _ _ => cases h

theorem unbroken_describeScalar {s : Scalar} (h : Unbroken s.kind) :
    Unbroken (describeScalar s) := by
  unfold describeScalar
  split
  · simp only [toString, unbroken_append]
    exact ⟨⟨⟨⟨⟨h, by decide⟩, unbroken_toString_int _⟩, by decide⟩, unbroken_toString_int _⟩,
      by decide⟩
  · simp only [toString, unbroken_append]
    exact ⟨⟨⟨h, by decide⟩, unbroken_toString_int _⟩, by decide⟩
  · have hlength : Unbroken ((s.length.map toString).getD "None") := by
      cases s.length with
      | none => decide
      | some n => exact unbroken_toString_int n
    simp only [toString, unbroken_append]
    exact ⟨⟨⟨h, by decide⟩, hlength⟩, by decide⟩

end SchemaStructs.Generate

namespace SchemaStructs.Server

open Text

/-- The names that are written as they are have no line break: those of tables and types, and of the
columns that are referred to. -/
structure Answers.NamesUnbroken (a : Answers) : Prop where
  tables : ∀ row ∈ a.tables, Unbroken row.schema ∧ Unbroken row.name
  types : ∀ row ∈ a.types, Unbroken row.schema ∧ Unbroken row.name
  references : ∀ key ∈ a.foreignKeys, Unbroken key.referencedSchema ∧
    Unbroken key.referencedTable ∧ Unbroken key.referencedColumn

instance (a : Answers) : Decidable a.NamesUnbroken :=
  decidable_of_iff
    ((∀ row ∈ a.tables, Unbroken row.schema ∧ Unbroken row.name) ∧
      (∀ row ∈ a.types, Unbroken row.schema ∧ Unbroken row.name) ∧
      ∀ key ∈ a.foreignKeys, Unbroken key.referencedSchema ∧ Unbroken key.referencedTable ∧
        Unbroken key.referencedColumn)
    ⟨fun ⟨h₁, h₂, h₃⟩ => ⟨h₁, h₂, h₃⟩, fun ⟨h₁, h₂, h₃⟩ => ⟨h₁, h₂, h₃⟩⟩

end SchemaStructs.Server

namespace SchemaStructs.Generate

open Catalog Mapping Rust Text Server

theorem unbroken_text {n : QualifiedName} (hschema : Unbroken n.schema) (hname : Unbroken n.name) :
    Unbroken n.text := by
  simp only [QualifiedName.text, unbroken_append]
  exact ⟨⟨hschema, by decide⟩, hname⟩

/-! ## Fields -/

theorem mem_of_foreignKey? {rows : TableRows} {table : Oid} {constraint : String} {key : ForeignKey}
    (h : rows.foreignKey? table constraint = some key) :
    (∃ r ∈ rows.foreignKeys, key.referencedTable = ⟨r.referencedSchema, r.referencedTable⟩) ∧
      ∀ column ∈ key.referencedColumns, ∃ r ∈ rows.foreignKeys, column = r.referencedColumn := by
  obtain ⟨first, hfirst, rfl⟩ := Option.map_eq_some_iff.1 h
  have hrow : ∀ r ∈ sortOn .integer (·.position)
      (rows.foreignKeys.filter fun k => k.table == table && k.constraint == constraint),
      r ∈ rows.foreignKeys :=
    fun r hr => List.mem_of_mem_filter (mem_sortOn.1 hr)
  refine ⟨⟨first, hrow first (List.mem_of_mem_head? hfirst), rfl⟩, fun column hcolumn => ?_⟩
  obtain ⟨r, hr, rfl⟩ := List.mem_map.1 hcolumn
  exact ⟨r, hrow r hr, rfl⟩

section Rows

variable {a : Answers} {version : Option String} {snapshot : Snapshot} {t : Table}
  (hnames : a.NamesUnbroken) (hspellings : ∀ row ∈ a.columns, Unbroken row.formattedType)
  (hsnapshot : a.snapshot version = .ok snapshot)

include hsnapshot

include hspellings in
theorem unbroken_sqlType (ht : t ∈ snapshot.tables) {column : Column}
    (hcolumn : column ∈ t.columns) : ∀ text ∈ sqlType? column, Unbroken text := by
  obtain ⟨htypes, htables, -⟩ := Answers.snapshot_eq_ok_iff.1 hsnapshot
  obtain ⟨row, -, hrow⟩ := TableRows.exists_row_of_mem htables ht
  obtain ⟨columns, hcolumns, hrow⟩ := bind_eq_ok_iff.1 hrow
  obtain rfl := pure_eq_ok_iff.1 hrow
  obtain ⟨columnRow, hcolumnRow, hcolumn⟩ := exists_left_of_mem (mapM_eq_ok_iff.1 hcolumns) hcolumn
  obtain ⟨type, htype, hcolumn⟩ := bind_eq_ok_iff.1 hcolumn
  obtain rfl := pure_eq_ok_iff.1 hcolumn
  rw [Registry.resolve_eq (Registry.exists_row_of_get? htypes).1] at htype
  have hindexed : a.typeRows.Indexed := TypeRows.indexed_ofRows a.types a.labels a.attributes
  intro text htext
  obtain ⟨s, hs, rfl⟩ := Option.map_eq_some_iff.1 htext
  split
  · exact unbroken_describeScalar
      (unbroken_kind hindexed (TypeRows.gives_of_resolve hindexed htype) hs)
  · exact hspellings columnRow (TableRows.mem_columnsOf.1 hcolumnRow).1

include hnames

theorem unbroken_foreignKeys (ht : t ∈ snapshot.tables) : ∀ key ∈ t.foreignKeys,
    Unbroken key.referencedTable.text ∧ ∀ column ∈ key.referencedColumns, Unbroken column := by
  obtain ⟨-, htables, -⟩ := Answers.snapshot_eq_ok_iff.1 hsnapshot
  obtain ⟨row, -, hrow⟩ := TableRows.exists_row_of_mem htables ht
  obtain ⟨columns, -, hrow⟩ := bind_eq_ok_iff.1 hrow
  obtain rfl := pure_eq_ok_iff.1 hrow
  intro key hkey
  obtain ⟨constraint, -, hfound⟩ := List.mem_filterMap.1 hkey
  obtain ⟨⟨r, hr, htable⟩, hcolumns⟩ := mem_of_foreignKey? hfound
  obtain ⟨hschema, hname, -⟩ := hnames.references r hr
  refine ⟨htable ▸ unbroken_text hschema hname, fun column hcolumn => ?_⟩
  obtain ⟨r', hr', rfl⟩ := hcolumns column hcolumn
  exact (hnames.references r' hr').2.2

/-! ## Files -/

variable {singular : Bool} {excluded : List String} {plan : Plan} {s : Struct}
  {framework : Framework}

include hspellings in
theorem unbroken_linesOf_struct (h : plan.Built snapshot singular excluded)
    (hs : s ∈ plan.structs) : ∀ line ∈ s.lines framework, Unbroken line := by
  obtain ⟨-, htables, -⟩ := Answers.snapshot_eq_ok_iff.1 hsnapshot
  obtain ⟨t, ht, hts⟩ := h.exists_table hs
  have ht' := (mem_includedTables.1 ht).1
  obtain ⟨row, hmem, hrow⟩ := TableRows.exists_row_of_mem htables ht'
  have hkind : Unbroken (capitalized t.kind) := by
    obtain ⟨columns, -, hrow⟩ := bind_eq_ok_iff.1 hrow
    obtain rfl := pure_eq_ok_iff.1 hrow
    show Unbroken (capitalized (relationKind row.kind))
    unfold relationKind
    split <;> decide
  have hname : Unbroken t.name.text := by
    obtain ⟨hschema, htable⟩ := hnames.tables row hmem
    rw [(TableRows.tableOf_of_table hrow).name]
    exact unbroken_text hschema htable
  refine (h.confinedLines hs framework).unbroken_iff.2 (hts.unbroken_copiedTexts hkind hname ?_ ?_)
  · exact unbroken_foreignKeys hnames hsnapshot ht'
  · exact fun column hcolumn => unbroken_sqlType hspellings hsnapshot ht' hcolumn

theorem unbroken_linesOf_declaration {d : Declaration} (hd : Declares snapshot.types d)
    {lines : List String} (h : declarationLines framework d = .ok lines) :
    ∀ line ∈ lines, Unbroken line := by
  obtain ⟨htypes, -, -⟩ := Answers.snapshot_eq_ok_iff.1 hsnapshot
  obtain ⟨row, hrow, hdeclaration⟩ := exists_row_of_declares htypes hd
  obtain ⟨hschema, hname⟩ := hnames.types row (TypeRows.mem_of_mem_registered hrow).1
  rw [(confinedLines_declaration hd h).unbroken_iff, List.forall_mem_singleton,
    hdeclaration.name_eq]
  exact unbroken_text hschema hname

include hspellings in
/-- The blocks in the file of a struct: the declarations of its module, and the struct. -/
theorem blocks_structFile (h : plan.Built snapshot singular excluded) (hs : s ∈ plan.structs)
    {name text : String} (hfile : plan.structFile framework s = .ok (name, text)) :
    blocks (linesOf text) = (plan.ownedBy s.moduleName).map declarationBlock ++ [s.block] := by
  obtain ⟨imported, text', himported, htext, he⟩ := structFile_eq_ok_iff.1 hfile
  obtain ⟨rfl, rfl⟩ := Prod.mk.inj he
  apply blocks_tableFile htext
  · exact fun line hline => (h.isCode_crateImports hs line hline).singleLine.unbroken
  · exact fun line hline => (h.isCode_siblingImports himported line hline).singleLine.unbroken
  · intro d hd lines hlines
    exact unbroken_linesOf_declaration hnames hsnapshot (h.declares_of_mem_ownedBy hd) hlines
  · exact unbroken_linesOf_struct hnames hspellings hsnapshot h hs

include hspellings in
/-- Whatever text is listed for a struct, it has these blocks. -/
theorem blocks_of_mem_files (h : plan.Built snapshot singular excluded)
    (hmodules : (plan.structs.map Struct.moduleName).Nodup) {files : List (String × String)}
    (hfiles : plan.files framework = .ok files) (hs : s ∈ plan.structs) {text : String}
    (htext : (s.moduleName ++ ".rs", text) ∈ files) :
    blocks (linesOf text) = (plan.ownedBy s.moduleName).map declarationBlock ++ [s.block] := by
  obtain ⟨file, hfile, hstructFile⟩ := h.exists_structFile hmodules hfiles hs
  obtain ⟨_, text', -, -, rfl⟩ := structFile_eq_ok_iff.1 hstructFile
  have hsame : (s.moduleName ++ ".rs", text) = (s.moduleName ++ ".rs", text') :=
    List.inj_on_of_nodup_map (h.nodup_map_fst_files hmodules hfiles) htext hfile rfl
  obtain rfl : text = text' := (Prod.mk.inj hsame).2
  exact blocks_structFile hnames hspellings hsnapshot h hs hstructFile

end Rows

end SchemaStructs.Generate
