import SchemaStructs.Proofs.Catalog.Assembly
import SchemaStructs.Proofs.Generate.ModuleNames

/-!
# Nulls from rows to fields

A field is an `Option` exactly if its column or attribute may be null, and an `Option` is never
inside another one. The second part needs the whole of planning: the type of a field may be a type
of the catalog whose identifier is `Option`, and it is the check of names in a module that refuses
it, for every declaration that some struct needs.
-/

namespace SchemaStructs.Generate

open Catalog Mapping Rust

/-! ## Rendered types -/

/-- The text of a type that is an `Option`. -/
def IsOptionText (text : String) : Prop := text = "Option" ∨ "Option<".toList <+: text.toList

theorem takeWhile_ne_append_cons {c : Char} {xs ys : List Char} (h : c ∉ xs) :
    (xs ++ c :: ys).takeWhile (· ≠ c) = xs := by
  have hxs : ∀ a ∈ xs, decide (a ≠ c) = true := by
    intro a ha
    rw [decide_eq_true_eq]
    rintro rfl
    exact h ha
  rw [List.takeWhile_append_of_pos hxs]
  simp

/-- The text of a type shows what its head is. -/
theorem not_isOptionText_render {t : TypeExpr} (h : IsHead t.name) : ¬ IsOptionText t.render := by
  obtain ⟨hne, hbracket⟩ := h
  intro hoption
  rcases TypeExpr.render_eq t with hrender | ⟨inner, hrender⟩
  · rw [hrender] at hoption
    rcases hoption with he | hstart
    · exact hne he
    · exact hbracket (hstart.subset (by decide))
  · have hlist : t.render.toList = t.name.toList ++ '<' :: (inner ++ ">").toList := by
      rw [hrender]
      simp
    rcases hoption with he | ⟨rest, hrest⟩
    · have hmem : '<' ∈ t.render.toList := by rw [hlist]; simp
      rw [he] at hmem
      exact absurd hmem (by decide)
    · have hsplit : "Option".toList ++ '<' :: rest = t.name.toList ++ '<' ::
          (inner ++ ">").toList := by
        rw [← hlist, ← hrest]
        rfl
      have hhead := congrArg (List.takeWhile (· ≠ '<')) hsplit
      rw [takeWhile_ne_append_cons (by decide), takeWhile_ne_append_cons hbracket] at hhead
      exact hne (String.toList_inj.1 hhead.symm)

/-- A field of type `type` holds values of the type `inner`, wrapped exactly if it takes nulls. -/
structure WrappedIf (takesNull : Prop) (inner type : TypeExpr) : Prop where
  notOption : ¬ IsOptionText inner.render
  wrapped : takesNull → type.render = "Option<" ++ inner.render ++ ">"
  bare : ¬ takesNull → type.render = inner.render

theorem wrappedIf_nullable {m : Mapped} (h : IsHead m.type.name) {isNullable : Bool}
    {takesNull : Prop} (hnull : isNullable = true ↔ takesNull) :
    WrappedIf takesNull m.type (m.nullable isNullable).type := by
  have hoption : m.type.isOption = false := by simp [TypeExpr.isOption, h.1]
  constructor
  case notOption => exact not_isOptionText_render h
  case wrapped =>
    intro htakes
    rw [hnull.2 htakes]
    exact TypeExpr.render_option hoption
  case bare =>
    intro htakes
    obtain rfl : isNullable = false := Bool.eq_false_iff.2 fun he => htakes (hnull.1 he)
    rfl

/-! ## What rows say of nulls -/

/-- A column takes nulls if neither its own declaration nor its type forbids them, and it is no part
of a primary key and no identity column. -/
def ColumnTakesNull (types : List TypeRow) (keys : List KeyRow) (row : ColumnRow) : Prop :=
  row.notNull = false ∧ row.isIdentity = false ∧
    (¬ ∃ key ∈ keys, key.kind = "p" ∧ key.table = row.table ∧ key.column = row.name) ∧
    ¬ NotNullChain types row.type

def AttributeTakesNull (types : List TypeRow) (row : AttributeRow) : Prop :=
  row.notNull = false ∧ ¬ NotNullChain types row.type

/-- The field of a column row: the mapped type of the column, wrapped as the rows say. -/
structure ColumnField (types : List TypeRow) (keys : List KeyRow) (registry : Registry)
    (row : ColumnRow) (f : Field) : Prop where
  column : f.column = row.name
  type : ∃ type m, registry.resolve row.type row.modifier row.dimensions = .ok type ∧
    mapType registry type = .ok m ∧ WrappedIf (ColumnTakesNull types keys row) m.type f.type

/-- The field of an attribute row of a composite. -/
structure AttributeField (types : List TypeRow) (registry : Registry) (row : AttributeRow)
    (f : RecordField) : Prop where
  name : f.1 = row.name
  type : ∃ type m, registry.resolve row.type row.modifier row.dimensions = .ok type ∧
    mapType registry type = .ok m ∧ WrappedIf (AttributeTakesNull types row) m.type f.2

/-- A declaration is that of a type row: of an enum, or of a composite with a field for each of its
attributes. -/
inductive DeclaresRow (rows : TypeRows) (types : List TypeRow) (registry : Registry) (row : TypeRow)
    (d : Declaration) : Prop
  | enum (hkind : row.kind = "e") (hfields : d.fields = [])
  | composite (hkind : row.kind = "c")
    (hfields : List.Forall₂ (AttributeField types registry) (rows.attributesOf row.oid) d.fields)

/-! ## Declarations of rows -/

/-- The declaration of a type row: its labels, or its attributes with their mapped types. -/
inductive DeclarationOf (rows : TypeRows) (registry : Registry) (row : TypeRow) : Declaration → Prop
  | enum : row.kind = "e" →
      DeclarationOf rows registry row
        ⟨row.qualifiedName, Identifier.typeName row.name, .enum (rows.labelsOf row.oid)⟩
  | composite {source : List (Attribute TypeRef)} {mapped : List (String × Mapped)} :
    row.kind = "c" → registry.get? row.qualifiedName = some (.composite row.qualifiedName source) →
      List.Forall₂ (TypeRows.ResolvesTo registry.resolve) (rows.attributesOf row.oid) source →
      List.Forall₂ (MapsField registry) source mapped →
      DeclarationOf rows registry row (recordDeclaration row.qualifiedName source mapped)

theorem DeclarationOf.name_eq {rows : TypeRows} {registry : Registry} {row : TypeRow}
    {d : Declaration} (h : DeclarationOf rows registry row d) : d.name = row.qualifiedName := by
  cases h <;> rfl

/-- What a registry of rows declares is the declaration of a row. -/
theorem exists_row_of_declares {rows : TypeRows} {registry : Registry}
    (hregistry : Registry.ofRows rows = .ok registry) {d : Declaration} (hd : Declares registry d) :
    ∃ row ∈ rows.registered, DeclarationOf rows registry row d := by
  obtain ⟨hrows, hget?⟩ := Registry.exists_row_of_get? hregistry
  cases hd with
  | enum hget =>
    obtain ⟨row, hrow, rfl, hdefine⟩ := hget? _ _ hget
    cases TypeRows.expandsTo_of_define hdefine with
    | enum hkind => exact ⟨row, hrow, .enum hkind⟩
  | composite hget hmapped =>
    obtain ⟨row, hrow, rfl, hdefine⟩ := hget? _ _ hget
    cases TypeRows.expandsTo_of_define hdefine with
    | composite hkind _ hsource =>
      refine ⟨row, hrow, .composite hkind hget (hsource.imp ?_) hmapped⟩
      rintro a field ⟨hname, hnotNull, htype⟩
      exact ⟨hname, hnotNull, (Registry.resolve_eq hrows ..).trans htype⟩

/-! ## Heads of needed types -/

namespace Plan.Built

variable {snapshot : Snapshot} {singular : Bool} {excluded : List String} {plan : Plan} {s : Struct}

/-- No declaration that a struct needs is named `Option`. -/
theorem isHead_typeName (h : plan.Built snapshot singular excluded) (hs : s ∈ plan.structs)
    {n : QualifiedName} (hn : n ∈ s.declarations) : IsHead (Identifier.typeName n.name) := by
  refine ⟨?_, (Identifier.isPlainName_typeName n.name).not_mem (by decide) (by decide)⟩
  intro he
  obtain ⟨names, hnames, hconsistent⟩ := h.names s hs
  rw [h.namesIn_eq hs] at hnames
  cases hnames
  have hsource : "prelude " ++ "Option" = "type " ++ n.text := by
    refine hconsistent ("prelude " ++ "Option", "Option") (by simp [preludeNames, toString])
      ("type " ++ n.text, Identifier.typeName n.name) ?_ (by rw [he])
    simpa [toString] using Or.inr (Or.inr (Or.inl ⟨n, hn, rfl, rfl⟩))
  exact label_ne_label rfl rfl (by decide) _ _ hsource

/-- A type that leads only to declarations of a struct is not mapped to an `Option`. -/
theorem isHead_of_sound (h : plan.Built snapshot singular excluded) (hs : s ∈ plan.structs)
    {type : TypeRef} {m : Mapped} (hsound : m.Sound snapshot.types type)
    (hneeded : ∀ n, snapshot.types.Reaches type n → n ∈ s.declarations) : IsHead m.type.name := by
  cases hsound.grounded m.type (TypeExpr.mem_nodes_self m.type) with
  | builtin _ hdecl _ => exact hsound.head hdecl
  | crate _ _ hdecl _ => exact hsound.head hdecl
  | @generated d hd _ _ hname =>
    rw [hname, (hsound.declares d hd).identifier_eq]
    exact h.isHead_typeName hs (hneeded _ ((hsound.names _).1 (List.mem_map_of_mem hd)))

end Plan.Built

/-! ## Fields -/

section Rows

variable {types : List TypeRow} {labels : List LabelRow} {attributes : List AttributeRow}
  {tableRows : TableRows} {registry : Registry} {tables : List Table} {version : Option String}
  {singular : Bool} {excluded : List String} {plan : Plan}
  (hoids : (types.map TypeRow.oid).Nodup)
  (hregistry : Registry.ofRows (.ofRows types labels attributes) = .ok registry)

include hoids hregistry

theorem isNotNullDomain_iff {oid : Oid} {modifier dimensions : Int} {t : TypeRef}
    (h : registry.resolve oid modifier dimensions = .ok t) :
    t.isNotNullDomain = true ↔ NotNullChain types oid := by
  rw [Registry.resolve_eq (Registry.exists_row_of_get? hregistry).1] at h
  exact TypeRows.isNotNullDomain_resolve_iff
    (fun _ _ => TypeRows.row?_ofRows_eq_some_iff hoids) h

/-- The field built for a column is that of its row. -/
theorem columnField_of_columnOf (h : plan.Built ⟨tables, registry, version⟩ singular excluded)
    {s : Struct} (hs : s ∈ plan.structs) {t : Table} (hts : StructOf registry t s) {row : ColumnRow}
    {column : Column} (hcolumn : column ∈ t.columns)
    (hrow : tableRows.ColumnOf registry row column) {f : Field}
    (hf : FieldOf registry t column f) : ColumnField types tableRows.keys registry row f := by
  obtain ⟨m, hm, htype⟩ := hf.type_eq
  obtain ⟨m', hm', hsound, rfl⟩ := exists_sound_of_mapNullable hm
  have hhead : IsHead m'.type.name :=
    h.isHead_of_sound hs hsound fun n hn => (hts.declarations n).2 ⟨column, hcolumn, hn⟩
  have hnull : fieldTakesNull column = true ↔ ColumnTakesNull types tableRows.keys row := by
    rw [ColumnTakesNull, ← hrow.isPrimaryKey, ← isNotNullDomain_iff hoids hregistry hrow.type,
      fieldTakesNull, hrow.nullable, hrow.isIdentity]
    cases row.notNull <;> cases row.isIdentity <;> cases column.isPrimaryKey <;> simp
  exact ⟨hf.column_eq.trans hrow.name, column.type, m', hrow.type, hm',
    htype ▸ wrappedIf_nullable hhead hnull⟩

/-- The field declared for an attribute is that of its row. -/
theorem attributeField_of_mapsField (h : plan.Built ⟨tables, registry, version⟩ singular excluded)
    {s : Struct} (hs : s ∈ plan.structs) {row : AttributeRow} {field : Attribute TypeRef}
    (hrow : TypeRows.ResolvesTo registry.resolve row field) {m : String × Mapped}
    (hm : MapsField registry field m)
    (hneeded : ∀ n, registry.Reaches field.type n → n ∈ s.declarations) :
    AttributeField types registry row (m.1, m.2.type) := by
  obtain ⟨hname, hnotNull, htype⟩ := hrow
  obtain ⟨m', hm', hsound, hm'eq⟩ := exists_sound_of_mapNullable hm.2
  have hnull : fieldIsNullable field = true ↔ AttributeTakesNull types row := by
    rw [AttributeTakesNull, ← isNotNullDomain_iff hoids hregistry htype, fieldIsNullable, hnotNull]
    cases row.notNull <;> simp
  refine ⟨hm.1.trans hname, field.type, m', htype, hm', ?_⟩
  rw [hm'eq]
  exact wrappedIf_nullable (h.isHead_of_sound hs hsound hneeded) hnull

/-- A needed declaration is that of a registered row. -/
theorem exists_declaresRow (h : plan.Built ⟨tables, registry, version⟩ singular excluded)
    {n : QualifiedName} {d : Declaration} (hd : plan.declarations.get? n = some d) :
    ∃ row ∈ types, row.isRegistered = true ∧ row.qualifiedName = n ∧
      DeclaresRow (.ofRows types labels attributes) types registry row d := by
  obtain ⟨⟨s, hs, hn⟩, rfl, hdeclares⟩ := h.declarations_get?_eq_some_iff.1 hd
  obtain ⟨t, -, hts⟩ := h.exists_table hs
  obtain ⟨column, hcolumn, hreach⟩ := (hts.declarations _).1 hn
  obtain ⟨row, hrow, hdeclaration⟩ := exists_row_of_declares hregistry hdeclares
  obtain ⟨hmem, hregistered⟩ := (TypeRows.mem_registered hoids).1 hrow
  refine ⟨row, hmem, hregistered, hdeclaration.name_eq.symm, ?_⟩
  cases hdeclaration with
  | enum hkind => exact .enum hkind rfl
  | @composite source mapped hkind hget hsource hmapped =>
    refine .composite hkind ?_
    -- Attributes and declared fields meet in the registered definition.
    rw [show (recordDeclaration row.qualifiedName source mapped).fields =
      mapped.map fun m => (m.1, m.2.type) from rfl, List.forall₂_map_right_iff]
    refine forall₂_comp hsource hmapped fun a field hfield m _ ha hm => ?_
    refine attributeField_of_mapsField hoids hregistry h hs ha hm fun n' hn' => ?_
    exact (hts.declarations n').2 ⟨column, hcolumn, hreach.trans_field hget hfield hn'⟩

/-- The structs are those of the table rows that are not excluded, with a field for each column
row. -/
theorem exists_columnFields (htables : tableRows.assemble registry = .ok tables)
    (h : plan.Built ⟨tables, registry, version⟩ singular excluded) :
    ∃ included : List TableRow,
      included.Perm
        (tableRows.tables.filter fun row => !isExcluded excluded ⟨row.schema, row.name⟩) ∧
      List.Forall₂ (fun row s => s.table = ⟨row.schema, row.name⟩ ∧
          List.Forall₂ (ColumnField types tableRows.keys registry) (tableRows.columnsOf row.oid)
            s.fields)
        included plan.structs := by
  obtain ⟨included, hperm, hincluded⟩ := TableRows.exists_rows_of_assemble
    (fun name => !isExcluded excluded name) htables (sortOn_perm QualifiedName.le Table.name _)
  refine ⟨included, hperm, forall₂_comp hincluded h.structOf ?_⟩
  intro row t _ s hs hrow hts
  refine ⟨hts.table_eq.trans hrow.name, forall₂_comp hrow.columns hts.fields ?_⟩
  intro columnRow column hcolumn f _ hcolumnOf hf
  exact columnField_of_columnOf hoids hregistry h hs hts hcolumn hcolumnOf hf

end Rows

/-- What the fields of a plan owe to the rows that the catalog was read from. -/
structure Plan.NullsFollowRows (plan : Plan) (types : List TypeRow) (labels : List LabelRow)
    (attributes : List AttributeRow) (tableRows : TableRows) (registry : Registry)
    (tables : List Table) (excluded : List String) : Prop where
  columns : ∃ included : List TableRow,
    included.Perm (tableRows.tables.filter fun row => !isExcluded excluded ⟨row.schema, row.name⟩) ∧
    List.Forall₂ (fun row s => s.table = ⟨row.schema, row.name⟩ ∧
        List.Forall₂ (ColumnField types tableRows.keys registry) (tableRows.columnsOf row.oid)
          s.fields)
      included plan.structs
  needed : ∀ t ∈ includedTables tables excluded, ∀ n, Needs registry t n →
    ∃ d, plan.declarations.get? n = some d
  declared : ∀ n d, plan.declarations.get? n = some d → ∃ row,
    (∀ row', (row' ∈ types ∧ row'.isRegistered = true ∧ row'.qualifiedName = n) ↔ row' = row) ∧
    DeclaresRow (.ofRows types labels attributes) types registry row d

/-- **Nullability**: from rows with unique oids and unique names of registered types to the fields
of all structs and of all declarations that they need. -/
theorem generate_nulls_follow_rows {types : List TypeRow} {labels : List LabelRow}
    {attributes : List AttributeRow} {tableRows : TableRows} {registry : Registry}
    {tables : List Table} {version : Option String} {options : Options} {artifacts : Artifacts}
    (hoids : (types.map TypeRow.oid).Nodup)
    (hnames : ((types.filter (·.isRegistered)).map TypeRow.qualifiedName).Nodup)
    (hregistry : Registry.ofRows (.ofRows types labels attributes) = .ok registry)
    (htables : tableRows.assemble registry = .ok tables)
    (h : generate ⟨tables, registry, version⟩ options = .ok artifacts) :
    ∃ plan, planOf ⟨tables, registry, version⟩ options.singular options.excluded = .ok plan ∧
      artifacts.structs = plan.structs ∧
      plan.NullsFollowRows types labels attributes tableRows registry tables options.excluded := by
  obtain ⟨plan, hplan, -, hstructs, -⟩ := generate_eq_ok_iff.1 h
  have hbuilt := built_of_planOf hplan
  refine ⟨plan, hplan, hstructs, exists_columnFields hoids hregistry htables hbuilt, ?_, ?_⟩
  · intro t ht n hneeds
    obtain ⟨s, hs, hts⟩ := exists_right_of_mem hbuilt.structOf ht
    obtain ⟨d, hget, -⟩ := hbuilt.exists_declaration hs ((hts.declarations n).2 hneeds)
    exact ⟨d, hget⟩
  · intro n d hd
    obtain ⟨row, hrow, hregistered, hname, hdeclares⟩ :=
      exists_declaresRow hoids hregistry hbuilt hd
    refine ⟨row, fun row' => ⟨?_, ?_⟩, hdeclares⟩
    · rintro ⟨hrow', hregistered', hname'⟩
      exact List.inj_on_of_nodup_map hnames (List.mem_filter.2 ⟨hrow', hregistered'⟩)
        (List.mem_filter.2 ⟨hrow, hregistered⟩) (hname'.trans hname.symm)
    · rintro rfl
      exact ⟨hrow, hregistered, hname⟩

/-! ### Rows with a chain of domains

A table with a key, a column of a composite and a column of a domain over a domain that takes no
null. -/

def positiveTypes : List TypeRow := [
  { oid := 23, schema := "pg_catalog", name := "int4", kind := "b", category := "N" },
  { oid := 100, schema := "public", name := "positive", kind := "d", category := "N", base := 23,
    notNull := true },
  { oid := 101, schema := "public", name := "rank", kind := "d", category := "N", base := 100 },
  { oid := 102, schema := "public", name := "address", kind := "c", category := "C", relation := 9,
    relationKind := some "c" }]

def positiveAttributes : List AttributeRow := [
  { owner := 102, name := "street", ordinal := 1, type := 23 },
  { owner := 102, name := "number", ordinal := 2, type := 101 }]

def positiveTables : TableRows where
  tables := [{ oid := 1, schema := "public", name := "users" }]
  columns := [
    { table := 1, name := "id", ordinal := 1, type := 23 },
    { table := 1, name := "home", ordinal := 2, type := 102 },
    { table := 1, name := "rank", ordinal := 3, type := 101 }]
  keys := [{ table := 1, constraint := "users_pkey", kind := "p", column := "id", position := 1 }]

/-- The types of the fields of all structs, and of those of all declarations. -/
def Plan.renderedTypes (plan : Plan) : List (List (String × String)) :=
  plan.structs.map (fun s => s.fields.map fun f => (f.column, f.type.render)) ++
    plan.declarations.map fun e => e.2.fields.map fun f => (f.1, f.2.render)

/-- The key and the domains take no null; other columns and attributes do. -/
def positiveRendered : List (List (String × String)) := [
  [("id", "i32"), ("home", "Option<Address>"), ("rank", "i32")],
  [("street", "Option<i32>"), ("number", "i32")]]

theorem exists_plan_positive : ∃ registry tables plan artifacts,
    Registry.ofRows (.ofRows positiveTypes [] positiveAttributes) = .ok registry ∧
      positiveTables.assemble registry = .ok tables ∧
      planOf ⟨tables, registry, none⟩ false [] = .ok plan ∧
      plan.renderedTypes = positiveRendered ∧
      generate ⟨tables, registry, none⟩ {} = .ok artifacts := by
  have hrendered : ((Registry.ofRows (.ofRows positiveTypes [] positiveAttributes)).toOption.bind
      fun registry => (positiveTables.assemble registry).toOption.bind
        fun tables => (planOf ⟨tables, registry, none⟩ false []).toOption.bind
          fun plan => (generate ⟨tables, registry, none⟩ {}).toOption.map
            fun _ => plan.renderedTypes) = some positiveRendered := by
    decide +kernel
  obtain ⟨registry, hregistry, hrendered⟩ := Option.bind_eq_some_iff.1 hrendered
  obtain ⟨tables, htables, hrendered⟩ := Option.bind_eq_some_iff.1 hrendered
  obtain ⟨plan, hplan, hrendered⟩ := Option.bind_eq_some_iff.1 hrendered
  obtain ⟨artifacts, h, hrendered⟩ := Option.map_eq_some_iff.1 hrendered
  exact ⟨registry, tables, plan, artifacts, toOption_eq_some_iff.1 hregistry,
    toOption_eq_some_iff.1 htables, toOption_eq_some_iff.1 hplan, hrendered,
    toOption_eq_some_iff.1 h⟩

theorem positive_nulls_follow_rows :
    (positiveTypes.map TypeRow.oid).Nodup ∧
    ((positiveTypes.filter (·.isRegistered)).map TypeRow.qualifiedName).Nodup ∧
    ∃ registry tables artifacts,
      Registry.ofRows (.ofRows positiveTypes [] positiveAttributes) = .ok registry ∧
      positiveTables.assemble registry = .ok tables ∧
      generate ⟨tables, registry, none⟩ {} = .ok artifacts ∧
      ∃ plan, planOf ⟨tables, registry, none⟩ false [] = .ok plan ∧
        artifacts.structs = plan.structs ∧
        plan.renderedTypes = positiveRendered ∧
        plan.NullsFollowRows positiveTypes [] positiveAttributes positiveTables registry tables
          [] := by
  have hoids : (positiveTypes.map TypeRow.oid).Nodup := by decide
  have hnames : ((positiveTypes.filter (·.isRegistered)).map TypeRow.qualifiedName).Nodup := by
    decide
  obtain ⟨registry, tables, plan, artifacts, hregistry, htables, hplan, hrendered, h⟩ :=
    exists_plan_positive
  obtain ⟨plan', hplan', hstructs, hnulls⟩ :=
    generate_nulls_follow_rows hoids hnames hregistry htables h
  cases Except.ok.inj (hplan.symm.trans hplan')
  exact ⟨hoids, hnames, registry, tables, artifacts, hregistry, htables, h, plan, hplan, hstructs,
    hrendered, hnulls⟩

end SchemaStructs.Generate
