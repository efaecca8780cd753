import Mathlib.Data.List.Basic
import SchemaStructs.Proofs.Generate.Blocks
import SchemaStructs.Proofs.Generate.Plan
import SchemaStructs.Proofs.Rust.StringLiterals

/-!
# Names that the database knows

The framework `sqlx` looks for a member under the name in its `rename` attribute, or under its
identifier if there is none, and for a type under the name in its `type_name` attribute. Read in
this way, generated code has the names of the database again: those of the columns, labels and types
that it was made from, whatever characters they have.
-/

namespace SchemaStructs.Generate

open Catalog Mapping Rust Text Identifier

/-! ## Reading names -/

/-- The text in an attribute `#[sqlx(key = "…")]`. -/
def readAttribute? (key line : String) : Option String := do
  let rest ← (unindented line.toList).dropPrefix? s!"#[sqlx({key} = ".toList
  match ← readLiteral? rest with
  | (text, [')', ']']) => some (.ofList text)
  | _ => none

/-- The identifier in the line of a field or variant. -/
def memberIdentifier (line : String) : String :=
  let text := unindented line.toList
  .ofList (((text.dropPrefix? "pub ".toList).getD text).takeWhile fun c => c != ':' && c != ',')

/-- The names of the members in the lines of a body. A rename is for the next member; a member
without one goes by its identifier, in which the mark of a raw form does not count. -/
def memberNames (renamed? : Option String) : List String → List String
  | [] => []
  | line :: rest =>
    match readAttribute? "rename" line with
    | some name => memberNames (some name) rest
    | none =>
      if isMember line then
        renamed?.getD (bare (memberIdentifier line)) :: memberNames none rest
      else memberNames renamed? rest

/-- The names of the members of the first item among some lines. -/
def namesSeen (lines : List String) : List String :=
  memberNames none (((lines.dropWhile (!opensBlock ·)).drop 1).takeWhile (· != closing))

/-- The name of the type that the first item among some lines stands for. -/
def typeNameSeen? (lines : List String) : Option String :=
  (lines.takeWhile (!opensBlock ·)).findSome? (readAttribute? "type_name")

/-! ## Lines of attributes -/

theorem readAttribute?_append {margin : String} (hmargin : margin = "" ∨ margin = indent)
    (key text : String) :
    readAttribute? key (margin ++ s!"#[sqlx({key} = {stringLiteral text})]") = some text := by
  have hline : s!"#[sqlx({key} = {stringLiteral text})]" =
      s!"#[sqlx({key} = " ++ (stringLiteral text ++ ")]") := by
    simp [toString, String.append_assoc]
  have hhead : s!"#[sqlx({key} = {stringLiteral text})]".toList.head? ≠ some ' ' := by
    simp [toString]
  rw [readAttribute?, unindented_append hmargin hhead, hline, String.toList_append,
    List.dropPrefix?_append_of_beq _ (by simp), String.toList_append]
  simp [readLiteral?_stringLiteral]

theorem readAttribute?_attribute (key text : String) :
    readAttribute? key s!"#[sqlx({key} = {stringLiteral text})]" = some text := by
  have hread := @readAttribute?_append "" (.inl rfl) key text
  rwa [String.empty_append] at hread

theorem readAttribute?_eq_none {margin rest : String} (hmargin : margin = "" ∨ margin = indent)
    (key : String) (hblank : rest.toList.head? ≠ some ' ') (hhash : rest.toList.head? ≠ some '#') :
    readAttribute? key (margin ++ rest) = none := by
  have hprefix : rest.toList.dropPrefix? s!"#[sqlx({key} = ".toList = none := by
    rw [Option.eq_none_iff_forall_ne_some]
    intro s hs
    obtain ⟨start, hrest, hstart⟩ := List.dropPrefix?_eq_some_iff.1 hs
    rw [eq_of_beq hstart] at hrest
    exact hhash (by simp [hrest, toString])
  rw [readAttribute?, unindented_append hmargin hblank, hprefix]
  rfl

theorem readAttribute?_deriveLine (key : String) (derives : List String) :
    readAttribute? key (deriveLine derives) = none := by
  simp [readAttribute?, deriveLine, toString, unindented, List.dropPrefix?]

/-! ## Lines of members -/

/-- Lines that are neither a rename nor a member are passed over. -/
theorem memberNames_append_of_skipped {lines : List String} (renamed? : Option String)
    (h : ∀ line ∈ lines, readAttribute? "rename" line = none ∧ isMember line = false)
    (rest : List String) : memberNames renamed? (lines ++ rest) = memberNames renamed? rest := by
  induction lines with
  | nil => rfl
  | cons line lines ih =>
    obtain ⟨⟨hattribute, hmember⟩, hlines⟩ := List.forall_mem_cons.1 h
    rw [List.cons_append, memberNames, hattribute, if_neg (by simp [hmember]), ih hlines]

theorem memberNames_rename (renamed? : Option String) (text : String) (rest : List String) :
    memberNames renamed? ((indent ++ Framework.rename text) :: rest) =
      memberNames (some text) rest := by
  have hread : readAttribute? "rename" (indent ++ Framework.rename text) = some text :=
    readAttribute?_append (.inr rfl) "rename" text
  rw [memberNames, hread]

/-- The identifier is read up to the colon behind it. -/
theorem memberIdentifier_fieldLine {identifier : String}
    (h : ∀ c ∈ identifier.toList, c ≠ ':' ∧ c ≠ ',') (type : TypeExpr) :
    memberIdentifier (fieldLine identifier type) = identifier := by
  have hline : fieldLine identifier type =
      indent ++ ("pub " ++ (identifier ++ (": " ++ type.render ++ ","))) := by
    rw [fieldLine_eq]
    simp only [String.append_assoc]
  have hchars : ∀ c ∈ identifier.toList, (c != ':' && c != ',') = true := fun c hc => by
    simpa using h c hc
  rw [memberIdentifier, hline, unindented_append (.inr rfl) (by simp), String.toList_append,
    List.dropPrefix?_append_of_beq _ (by simp), Option.getD_some, String.toList_append,
    List.takeWhile_append_of_pos hchars]
  simp

theorem forall_mem_columnName (raw : String) :
    ∀ c ∈ (columnName raw).toList, c ≠ ':' ∧ c ≠ ',' := by
  have hname : ∀ name, IsPlainName name → ∀ c ∈ name.toList, c ≠ ':' ∧ c ≠ ',' := by
    intro name hname c hc
    constructor
    · rintro rfl
      exact hname.not_mem (by decide) (by decide) hc
    · rintro rfl
      exact hname.not_mem (by decide) (by decide) hc
  obtain ⟨name, hplain, he | he⟩ := columnName_cases raw
  · rw [he]
    exact hname name hplain
  · rw [he, String.toList_append]
    exact List.forall_mem_append.2 ⟨by simp, hname name hplain⟩

theorem memberNames_fieldLine (renamed? : Option String) {identifier : String}
    (h : ∀ c ∈ identifier.toList, c ≠ ':' ∧ c ≠ ',') (type : TypeExpr) (rest : List String) :
    memberNames renamed? (fieldLine identifier type :: rest) =
      renamed?.getD (bare identifier) :: memberNames none rest := by
  have hread : readAttribute? "rename" (fieldLine identifier type) = none := by
    rw [fieldLine_eq]
    exact readAttribute?_eq_none (.inr rfl) _ (by simp) (by simp)
  rw [memberNames, hread, if_pos (isMember_fieldLine identifier type),
    memberIdentifier_fieldLine h]

/-- A field of a column is looked for under the name of the column. -/
theorem memberNames_field {f : Field} (hname : f.name = columnName f.column) (rest : List String) :
    memberNames none (f.lines .sqlx ++ rest) = f.column :: memberNames none rest := by
  have hchars : ∀ c ∈ f.name.toList, c ≠ ':' ∧ c ≠ ',' := hname ▸ forall_mem_columnName f.column
  have hnotes : ∀ line ∈ f.notes.map fun note => s!"{indent}/// {note}",
      readAttribute? "rename" line = none ∧ isMember line = false := by
    intro line hline
    obtain ⟨note, -, rfl⟩ := List.mem_map.1 hline
    rw [documentation_eq]
    exact ⟨readAttribute?_eq_none (.inr rfl) _ (by simp) (by simp), not_isMember_documentation note⟩
  rw [Field.lines, List.append_assoc, List.append_assoc, memberNames_append_of_skipped none hnotes]
  dsimp only [Framework.fieldAttributes]
  split
  · rename_i hsame
    rw [List.map_nil, List.nil_append, List.singleton_append, memberNames_fieldLine none hchars,
      Option.getD_none, eq_of_beq hsame]
  · rw [List.map_singleton, List.singleton_append, List.singleton_append, memberNames_rename,
      memberNames_fieldLine _ hchars, Option.getD_some]

theorem memberNames_fields {fields : List Field} (h : ∀ f ∈ fields, f.name = columnName f.column) :
    memberNames none (fields.flatMap (Field.lines .sqlx)) = fields.map Field.column := by
  induction fields with
  | nil => rfl
  | cons f rest ih =>
    obtain ⟨hf, hrest⟩ := List.forall_mem_cons.1 h
    rw [List.flatMap_cons, memberNames_field hf, ih hrest, List.map_cons]

/-- A variant of a label is looked for under the label. -/
theorem memberNames_variant (label : String) (rest : List String) :
    memberNames none (variantLines .sqlx label (variantName label) ++ rest) =
      label :: memberNames none rest := by
  have hread : readAttribute? "rename" (variantLine (variantName label)) = none := by
    rw [variantLine_eq]
    exact readAttribute?_eq_none (.inr rfl) _ (head?_variant_ne (by decide) (by decide) (by decide))
      (head?_variant_ne (by decide) (by decide) (by decide))
  have hattributes : Framework.sqlx.variantAttributes label = [Framework.rename label] := rfl
  rw [variantLines_eq, hattributes, List.map_singleton, List.append_assoc, List.singleton_append,
    List.singleton_append, memberNames_rename, memberNames, hread,
    if_pos (isMember_variantLine label), Option.getD_some]

theorem memberNames_variants (labels : List String) :
    memberNames none (labels.flatMap fun label => variantLines .sqlx label (variantName label)) =
      labels := by
  induction labels with
  | nil => rfl
  | cons label rest ih => rw [List.flatMap_cons, memberNames_variant, ih]

/-! ## Lines of items -/

section Items

variable {before body : List String} {opening : String}

theorem namesSeen_item (hbefore : ∀ line ∈ before, opensBlock line = false)
    (hopening : opensBlock opening = true) (hbody : ∀ line ∈ body, ∃ rest, line = indent ++ rest) :
    namesSeen (before ++ [opening] ++ body ++ [closing]) = memberNames none body := by
  have hbefore' : ∀ line ∈ before, (!opensBlock line) = true := fun line hline => by
    rw [hbefore line hline, Bool.not_false]
  have hbody' : ∀ line ∈ body, (line != closing) = true := by
    intro line hline
    obtain ⟨rest, rfl⟩ := hbody line hline
    simpa using (indented rest).2
  rw [namesSeen, List.append_assoc, List.append_assoc, List.dropWhile_append_of_pos hbefore',
    List.singleton_append, List.dropWhile_cons_of_neg (by simp [hopening]), List.drop_one,
    List.tail_cons, List.takeWhile_append_of_pos hbody']
  simp

theorem typeNameSeen?_item (hbefore : ∀ line ∈ before, opensBlock line = false)
    (hopening : opensBlock opening = true) (rest : List String) :
    typeNameSeen? (before ++ [opening] ++ rest) =
      before.findSome? (readAttribute? "type_name") := by
  have hbefore' : ∀ line ∈ before, (!opensBlock line) = true := fun line hline => by
    rw [hbefore line hline, Bool.not_false]
  rw [typeNameSeen?, List.append_assoc, List.takeWhile_append_of_pos hbefore',
    List.singleton_append, List.takeWhile_cons_of_neg (by simp [hopening]), List.append_nil]

end Items

theorem namesSeen_struct {s : Struct} (h : ∀ f ∈ s.fields, f.name = columnName f.column) :
    namesSeen (s.lines .sqlx) = s.fields.map Field.column := by
  have hbody : ∀ line ∈ s.fields.flatMap (Field.lines .sqlx), ∃ rest, line = indent ++ rest := by
    intro line hline
    obtain ⟨f, -, hline⟩ := List.mem_flatMap.1 hline
    exact forall_mem_fieldLines .sqlx f line hline
  have hlines : s.lines .sqlx = [s!"/// {Text.capitalized s.kind} `{s.table.text}`",
      deriveLine Framework.sqlx.structDerives] ++ [s!"pub struct {s.name} \x7b"] ++
      s.fields.flatMap (Field.lines .sqlx) ++ [closing] := rfl
  rw [hlines,
    namesSeen_item (not_opensBlock_heading (by simp [toString])) (opensBlock_struct s.name)
    hbody, memberNames_fields h]

/-- The documentation and derives of a declaration do not name its type, its attribute does. -/
theorem findSome?_typeName {documentation : String} (name : QualifiedName) (derives : List String)
    (hdocumentation : documentation.toList.head? = some '/') :
    ([documentation, deriveLine derives] ++ Framework.sqlx.typeAttributes name).findSome?
      (readAttribute? "type_name") = some (Framework.databaseName name) := by
  have hfirst : readAttribute? "type_name" documentation = none := by
    rw [← String.empty_append (s := documentation)]
    exact readAttribute?_eq_none (.inl rfl) _ (by simp [hdocumentation]) (by simp [hdocumentation])
  have hattribute : readAttribute? "type_name"
      s!"#[sqlx(type_name = {stringLiteral (Framework.databaseName name)})]" =
        some (Framework.databaseName name) :=
    readAttribute?_attribute "type_name" _
  simp [Framework.typeAttributes, hfirst, readAttribute?_deriveLine, hattribute]

theorem databaseName_eq (name : QualifiedName) :
    Framework.databaseName name =
      if name.schema = "public" then name.name else name.schema ++ "." ++ name.name := by
  simp only [Framework.databaseName, QualifiedName.text, beq_iff_eq]

theorem typeNameSeen?_declaration {d : Declaration} {lines : List String}
    (h : declarationLines .sqlx d = .ok lines) :
    typeNameSeen? lines = some (Framework.databaseName d.name) := by
  obtain ⟨name, identifier, body⟩ := d
  cases body with
  | enum labels =>
    obtain ⟨-, rfl⟩ := enumLines_eq_ok h
    rw [List.append_assoc _ _ [closing],
      typeNameSeen?_item (not_opensBlock_preamble (by simp [toString]))
        (opensBlock_enum identifier),
      findSome?_typeName name _ (by simp [toString])]
  | composite source fields dependencies unsupported =>
    obtain ⟨-, rfl⟩ := compositeLines_eq_ok h
    rw [List.append_assoc _ _ [closing],
      typeNameSeen?_item (not_opensBlock_preamble (by simp [toString]))
        (opensBlock_struct identifier),
      findSome?_typeName name _ (by simp [toString])]

theorem namesSeen_enum {name : QualifiedName} {identifier : String} {labels lines : List String}
    (h : enumLines .sqlx name identifier labels = .ok lines) : namesSeen lines = labels := by
  obtain ⟨-, rfl⟩ := enumLines_eq_ok h
  have hbody : ∀ line ∈ labels.flatMap (fun label => variantLines .sqlx label (variantName label)),
      ∃ rest, line = indent ++ rest := by
    intro line hline
    obtain ⟨label, -, hline⟩ := List.mem_flatMap.1 hline
    exact forall_mem_variantLines .sqlx label _ line hline
  rw [namesSeen_item (not_opensBlock_preamble (by simp [toString]))
    (opensBlock_enum identifier) hbody,
    memberNames_variants]

/-- The fields of a planned struct have the identifiers of their columns. -/
theorem namesSeen_of_planOf {snapshot : Snapshot} {singular : Bool} {excluded : List String}
    {plan : Plan} (h : planOf snapshot singular excluded = .ok plan) :
    List.Forall₂ (fun (t : Table) s => namesSeen (s.lines .sqlx) = t.columns.map Column.name)
      (includedTables snapshot.tables excluded) plan.structs := by
  refine (built_of_planOf h).structOf.imp fun t s hts => ?_
  have hcolumns : t.columns.map Column.name = s.fields.map Field.column :=
    map_eq_map_of_related hts.fields fun _ _ hf => hf.column_eq.symm
  rw [hcolumns]
  refine namesSeen_struct fun f hf => ?_
  obtain ⟨column, -, hfield⟩ := exists_left_of_mem hts.fields hf
  rw [hfield.name_eq, hfield.column_eq]

/-- The rename of a field, or its identifier if it has none, is the name of its column. -/
theorem effectiveName_field (column identifier : String) :
    ((Framework.sqlx.fieldAttributes column identifier).findSome? (readAttribute? "rename")).getD
      (bare identifier) = column := by
  have hread : readAttribute? "rename" (Framework.rename column) = some column :=
    readAttribute?_attribute "rename" column
  dsimp only [Framework.fieldAttributes]
  split
  · rename_i hsame
    exact eq_of_beq hsame
  · simp [hread]

/-- **Names of the database**: a literal is one token that is read as its text, and under `sqlx`
fields go by the names of their columns, variants by their labels, and types by their names, with
the schema unless that is `public`. -/
theorem sqlx_sees_database_names :
    (∀ text : String,
      IsLiteral (stringLiteral text) ∧
      AllChars (fun c => c ≠ '\n' ∧ c ≠ '\r' ∧ c ≠ '\t') (stringLiteral text) ∧
      stringLiteral text = .ofList ('"' :: escapedInTurn text.toList ++ ['"']) ∧
      ∀ rest, readLiteral? ((stringLiteral text).toList ++ rest) = some (text.toList, rest)) ∧
    (∀ column, ((Framework.sqlx.fieldAttributes column (columnName column)).findSome?
      (readAttribute? "rename")).getD (bare (columnName column)) = column) ∧
    (∀ label, (Framework.sqlx.variantAttributes label).map (readAttribute? "rename") =
      [some label]) ∧
    (∀ name, (Framework.sqlx.typeAttributes name).map (readAttribute? "type_name") =
      [some (if name.schema = "public" then name.name else name.schema ++ "." ++ name.name)]) ∧
    (∀ s : Struct, (∀ f ∈ s.fields, f.name = columnName f.column) →
      namesSeen (s.lines .sqlx) = s.fields.map Field.column) ∧
    (∀ snapshot singular excluded plan, planOf snapshot singular excluded = .ok plan →
      List.Forall₂ (fun (t : Table) s => namesSeen (s.lines .sqlx) = t.columns.map Column.name)
        (includedTables snapshot.tables excluded) plan.structs) ∧
    ∀ d lines, declarationLines .sqlx d = .ok lines →
      typeNameSeen? lines =
          some (if d.name.schema = "public" then d.name.name
            else d.name.schema ++ "." ++ d.name.name) ∧
        ∀ labels, d.body = .enum labels → namesSeen lines = labels := by
  refine ⟨fun text => ?literal, fun column => effectiveName_field column _, fun label => ?label,
    fun name => ?name, fun s hs => namesSeen_struct hs, fun _ _ _ _ h => namesSeen_of_planOf h,
    fun d lines h => ?declaration⟩
  case literal =>
    have hliteral := isLiteral_stringLiteral text
    refine ⟨hliteral, hliteral.not_mem_controls, ?_, readLiteral?_stringLiteral text⟩
    rw [escapedInTurn_eq, stringLiteral]
  case label => exact congrArg ([·]) (readAttribute?_attribute "rename" label)
  case name =>
    rw [← databaseName_eq]
    exact congrArg ([·]) (readAttribute?_attribute "type_name" _)
  case declaration =>
    rw [← databaseName_eq]
    refine ⟨typeNameSeen?_declaration h, fun labels hlabels => ?_⟩
    rw [declarationLines, hlabels] at h
    exact namesSeen_enum h

/-- Columns named by a keyword, by a word without a raw form, and with characters that are
escaped. -/
def awkwardColumns : Struct where
  name := "Orders"
  moduleName := "orders"
  table := ⟨"public", "orders"⟩
  fields := ["type", "self", "Order \"ID\"", "a\\n\tb", "total"].map fun column =>
    ⟨columnName column, column, ⟨"i32", none, [], none, none, none, none⟩, {}, none, none⟩

/-- An enum of another schema with labels that are not their identifiers. -/
def awkwardLabels : Declaration :=
  ⟨⟨"shop", "state \"x\""⟩, "StateX", .enum ["in progress", "\\done\\"]⟩

theorem awkward_names_seen :
    (∀ f ∈ awkwardColumns.fields, f.name = columnName f.column) ∧
      namesSeen (awkwardColumns.lines .sqlx) =
        ["type", "self", "Order \"ID\"", "a\\n\tb", "total"] ∧
      ∃ lines, declarationLines .sqlx awkwardLabels = .ok lines ∧
        typeNameSeen? lines = some "shop.state \"x\"" ∧
        namesSeen lines = ["in progress", "\\done\\"] := by
  obtain ⟨-, -, -, -, hstruct, -, hdeclaration⟩ := sqlx_sees_database_names
  have hnames : ∀ f ∈ awkwardColumns.fields, f.name = columnName f.column := by
    intro f hf
    obtain ⟨column, -, rfl⟩ := List.mem_map.1 hf
    rfl
  have hlines : (declarationLines .sqlx awkwardLabels).isOk = true := by decide +kernel
  obtain ⟨lines, hlines⟩ := exists_of_isOk hlines
  obtain ⟨htype, hlabels⟩ := hdeclaration awkwardLabels lines hlines
  exact ⟨hnames, hstruct awkwardColumns hnames, lines, hlines, htype, hlabels _ rfl⟩

end SchemaStructs.Generate
