import SchemaStructs.Proofs.Generate.SingleLines

/-!
# Erasing the framework

The two frameworks make the same plan and differ in attributes and derives only: when these are
taken out of the files for `sqlx`, line by line, the plain files are left. What else looks like an
attribute can only be the rest of a comment that has a line break.
-/

namespace SchemaStructs.Generate

open Catalog Mapping Rust Text

/-! ## Erasing lines -/

/-- A line of derives without the entries of the framework. -/
def eraseDerives (line : String) : String :=
  if startsWith "#[derive(" line then
    let inner := line.toList.drop "#[derive(".toList.length
    let entries := splitAtEach ',' (inner.takeWhile (· != ')'))
    let kept := entries.filter fun entry => !"sqlx::".toList.isPrefixOf (unindented entry)
    "#[derive(" ++ .ofList ([','].intercalate kept ++ inner.dropWhile (· != ')'))
  else line

/-- A line without what belongs to the framework; nothing is left of an attribute. -/
def eraseLine (line : String) : Option String :=
  if "#[sqlx(".toList.isPrefixOf (unindented line.toList) then none else some (eraseDerives line)

/-- Nothing is erased from the line. -/
def Kept (line : String) : Prop := eraseLine line = some line

instance (line : String) : Decidable (Kept line) := inferInstanceAs (Decidable (_ = _))

def eraseSqlx (text : String) : String := "\n".intercalate ((linesOf text).filterMap eraseLine)

/-- What is left of the lines of an entry. -/
def erased (entry : String) : List String := (linesOf entry).filterMap eraseLine

theorem erased_of_unbroken {entry : String} (h : Unbroken entry) :
    erased entry = (eraseLine entry).toList := by
  rw [erased, linesOf_of_unbroken h]
  cases hline : eraseLine entry <;> simp [hline]

theorem eraseSqlx_textOfLines {lines : List String} (hne : lines ≠ []) :
    eraseSqlx (textOfLines lines) = "\n".intercalate (lines.flatMap erased ++ [""]) := by
  have hlast : eraseLine "" = some "" := by decide +kernel
  rw [eraseSqlx, textOfLines, linesOf_intercalate_append hne, List.filterMap_append,
    List.filterMap_flatMap]
  simp only [List.filterMap_cons, List.filterMap_nil, hlast]
  rfl

/-! ## Attributes -/

/-- No attribute of the framework is left. -/
theorem erased_eq_nil {margin line : String} (hmargin : margin = "" ∨ margin = indent)
    (hstart : startsWith "#[sqlx(" line = true) (hunbroken : Unbroken (margin ++ line)) :
    erased (margin ++ line) = [] := by
  have hhead : line.toList.head? ≠ some ' ' := by
    intro hhead
    rw [startsWith_eq_false (c := '#') rfl (by rw [hhead]; decide)] at hstart
    cases hstart
  rw [erased_of_unbroken hunbroken, eraseLine, unindented_append hmargin hhead]
  unfold startsWith at hstart
  rw [if_pos hstart, Option.toList_none]

theorem erased_rename (text : String) : erased (indent ++ Framework.rename text) = [] := by
  refine erased_eq_nil (Or.inr rfl) ?_ (Confined.rename (by decide) text).unbroken
  show startsWith "#[sqlx(" s!"#[sqlx(rename = {stringLiteral text})]" = true
  simp [toString, startsWith, List.isPrefixOf]

theorem erased_typeAttributes (name : QualifiedName) :
    (Framework.sqlx.typeAttributes name).flatMap erased = [] := by
  rw [List.flatMap_eq_nil_iff]
  intro line hline
  have hunbroken : Unbroken line := (Confined.of_mem_typeAttributes hline).unbroken
  rw [← String.empty_append (s := line)] at hunbroken ⊢
  refine erased_eq_nil (Or.inl rfl) ?_ hunbroken
  rw [List.mem_singleton.1 hline]
  simp [toString, startsWith, List.isPrefixOf]

theorem erased_fieldAttributes (column identifier : String) :
    ((Framework.sqlx.fieldAttributes column identifier).map (indent ++ ·)).flatMap erased = [] := by
  unfold Framework.fieldAttributes
  split
  · rfl
  · simp [erased_rename]

/-- The derives of the framework are entries of their own. -/
theorem eraseLine_deriveLines :
    eraseLine (deriveLine Framework.sqlx.structDerives) =
      some (deriveLine Framework.plain.structDerives) ∧
    eraseLine (deriveLine Framework.sqlx.enumDerives) =
      some (deriveLine Framework.plain.enumDerives) ∧
    eraseLine (deriveLine Framework.sqlx.compositeDerives) =
      some (deriveLine Framework.plain.compositeDerives) := by
  decide +kernel

theorem kept_deriveLines : Kept (deriveLine Framework.plain.structDerives) ∧
    Kept (deriveLine Framework.plain.enumDerives) ∧
    Kept (deriveLine Framework.plain.compositeDerives) := by
  decide +kernel

theorem erased_deriveLine {derives derives' : List String}
    (h : eraseLine (deriveLine derives') = some (deriveLine derives))
    (hkept : Kept (deriveLine derives)) (hcode : IsCode (deriveLine derives))
    (hcode' : IsCode (deriveLine derives')) :
    erased (deriveLine derives') = erased (deriveLine derives) := by
  rw [erased_of_unbroken hcode.singleLine.unbroken,
    erased_of_unbroken hcode'.singleLine.unbroken, h,
    hkept]

theorem erased_derives :
    erased (deriveLine Framework.sqlx.structDerives) =
      erased (deriveLine Framework.plain.structDerives) ∧
    erased (deriveLine Framework.sqlx.enumDerives) =
      erased (deriveLine Framework.plain.enumDerives) ∧
    erased (deriveLine Framework.sqlx.compositeDerives) =
      erased (deriveLine Framework.plain.compositeDerives) := by
  obtain ⟨hstruct, henum, hcomposite⟩ := isCode_deriveLines .plain
  obtain ⟨hstruct', henum', hcomposite'⟩ := isCode_deriveLines .sqlx
  exact ⟨erased_deriveLine eraseLine_deriveLines.1 kept_deriveLines.1 hstruct hstruct',
    erased_deriveLine eraseLine_deriveLines.2.1 kept_deriveLines.2.1 henum henum',
    erased_deriveLine eraseLine_deriveLines.2.2 kept_deriveLines.2.2 hcomposite hcomposite'⟩

/-! ## Items -/

/-- The same is left of both. -/
def ErasedAlike (plain sqlx : List String) : Prop := plain.flatMap erased = sqlx.flatMap erased

namespace ErasedAlike

@[refl] theorem refl (lines : List String) : ErasedAlike lines lines := rfl

theorem append {plain plain' sqlx sqlx' : List String} (h : ErasedAlike plain sqlx)
    (h' : ErasedAlike plain' sqlx') : ErasedAlike (plain ++ plain') (sqlx ++ sqlx') := by
  simp only [ErasedAlike, List.flatMap_append] at *
  rw [h, h']

theorem flatMap {α β : Type} {R : α → β → Prop} {f : α → List String} {g : β → List String}
    {xs : List α} {ys : List β} (h : List.Forall₂ R xs ys)
    (hfg : ∀ x y, R x y → ErasedAlike (f x) (g y)) : ErasedAlike (xs.flatMap f) (ys.flatMap g) := by
  induction h with
  | nil => exact .refl _
  | cons hxy _ ih => exact (hfg _ _ hxy).append ih

theorem eraseSqlx_eq {plain sqlx : List String} (h : ErasedAlike plain sqlx) (hplain : plain ≠ [])
    (hsqlx : sqlx ≠ []) : eraseSqlx (textOfLines sqlx) = eraseSqlx (textOfLines plain) := by
  rw [eraseSqlx_textOfLines hplain, eraseSqlx_textOfLines hsqlx, h]

end ErasedAlike

theorem erasedAlike_field (f : Field) : ErasedAlike (f.lines .plain) (f.lines .sqlx) := by
  refine .append (.append (.refl _) ?_) (.refl _)
  rw [ErasedAlike, erased_fieldAttributes]
  rfl

theorem erasedAlike_struct (s : Struct) : ErasedAlike (s.lines .plain) (s.lines .sqlx) := by
  have hpreamble : ErasedAlike
      [s!"/// {capitalized s.kind} `{s.table.text}`", deriveLine Framework.plain.structDerives,
        s!"pub struct {s.name} \x7b"]
      [s!"/// {capitalized s.kind} `{s.table.text}`", deriveLine Framework.sqlx.structDerives,
        s!"pub struct {s.name} \x7b"] := by
    simp only [ErasedAlike, List.flatMap_cons, erased_derives.1]
  have hfields : List.Forall₂ (· = ·) s.fields s.fields := List.forall₂_same.2 fun _ _ => rfl
  refine .append (hpreamble.append (.flatMap hfields ?_)) (.refl _)
  rintro f _ rfl
  exact erasedAlike_field f

theorem erasedAlike_variant (label identifier : String) :
    ErasedAlike (variantLines .plain label identifier) (variantLines .sqlx label identifier) := by
  refine .append ?_ (.refl _)
  simp [ErasedAlike, Framework.variantAttributes, erased_rename]

theorem erasedAlike_preamble {derives derives' : List String}
    (h : erased (deriveLine derives') = erased (deriveLine derives)) (documentation : String)
    (name : QualifiedName) :
    ErasedAlike ([documentation, deriveLine derives] ++ Framework.plain.typeAttributes name)
      ([documentation, deriveLine derives'] ++ Framework.sqlx.typeAttributes name) := by
  refine .append ?_ ?_
  · simp only [ErasedAlike, List.flatMap_cons, h]
  · rw [ErasedAlike, erased_typeAttributes]
    rfl

/-- Identifiers do not depend on the framework, so a declaration can be written for both or for
none. -/
theorem declarationLines_alike (d : Declaration) :
    SameOutcome ErasedAlike (declarationLines .plain d) (declarationLines .sqlx d) := by
  obtain ⟨name, identifier, body⟩ := d
  cases body with
  | enum labels =>
    -- the identifiers of the variants are the same, or fail in the same way
    refine (SameOutcome.of_eq rfl).bind ?_
    rintro variants _ - - rfl
    have hvariant : ∀ label ∈ labels, SameOutcome ErasedAlike
        (do pure (variantLines .plain label (← identifierOf variants label)))
        (do pure (variantLines .sqlx label (← identifierOf variants label))) := by
      intro label _
      refine (SameOutcome.of_eq rfl).bind ?_
      rintro variant _ - - rfl
      exact .ok (erasedAlike_variant label variant)
    refine (SameOutcome.mapM hvariant).bind fun body body' _ _ hbody => .ok ?_
    have hpreamble := erasedAlike_preamble erased_derives.2.1 s!"/// Enum `{name.text}`" name
    have hbody' : ErasedAlike body.flatten body'.flatten := by
      rw [← List.flatMap_id, ← List.flatMap_id]
      exact .flatMap hbody fun _ _ h => h
    exact .append (.append (.append hpreamble (.refl _)) hbody') (.refl _)
  | composite source fields dependencies unsupported =>
    refine (SameOutcome.of_eq rfl).bind ?_
    rintro identifiers _ - - rfl
    refine (SameOutcome.of_eq rfl).bind ?_
    rintro body _ - - rfl
    have hpreamble := erasedAlike_preamble erased_derives.2.2 s!"/// Composite type `{name.text}`"
      name
    exact .ok (.append (.append (.append hpreamble (.refl _)) (.refl _)) (.refl _))

/-! ## Files -/

/-- The files under one name: the index is the same, and otherwise the same is left of both. -/
structure FilesAlike (name plain sqlx : String) : Prop where
  index : name = indexFileName → sqlx = plain
  erased : eraseSqlx sqlx = eraseSqlx plain

theorem tableFile_alike (s : Struct) (owned : List Declaration) (imported : List SiblingImport) :
    SameOutcome (fun plain sqlx => eraseSqlx sqlx = eraseSqlx plain)
      (tableFile .plain s owned imported) (tableFile .sqlx s owned imported) := by
  refine (SameOutcome.mapM fun d _ => declarationLines_alike d).bind ?_
  intro declarations declarations' _ _ hdeclarations
  refine .ok ?_
  have halike : ErasedAlike
      (["#![allow(dead_code)]", generatedMark, ""] ++
        paragraph (groupImports (crateImports s owned)) ++ paragraph (siblingImports imported) ++
        declarations.flatMap (· ++ [""]) ++ s.lines .plain)
      (["#![allow(dead_code)]", generatedMark, ""] ++
        paragraph (groupImports (crateImports s owned)) ++ paragraph (siblingImports imported) ++
        declarations'.flatMap (· ++ [""]) ++ s.lines .sqlx) :=
    .append (.append (.refl _) (.flatMap hdeclarations fun _ _ h => h.append (.refl _)))
      (erasedAlike_struct s)
  exact halike.eraseSqlx_eq (List.cons_ne_nil _ _) (List.cons_ne_nil _ _)

section Plans

variable {snapshot : Snapshot} {singular : Bool} {excluded : List String} {plan : Plan} {s : Struct}

theorem Plan.Built.structFile_alike (h : plan.Built snapshot singular excluded)
    (hs : s ∈ plan.structs) :
    SameOutcome (fun f g => f.1 = g.1 ∧ FilesAlike f.1 f.2 g.2)
      (plan.structFile .plain s) (plan.structFile .sqlx s) := by
  refine (SameOutcome.of_eq rfl).bind ?_
  rintro imported _ - - rfl
  refine (tableFile_alike s _ imported).bind fun plain sqlx _ _ herased => .ok ⟨rfl, ?_, herased⟩
  exact fun hindex => absurd hindex (h.fileName_ne_indexFileName hs)

theorem Plan.Built.files_alike (h : plan.Built snapshot singular excluded) :
    SameOutcome (List.Forall₂ fun f g => f.1 = g.1 ∧ FilesAlike f.1 f.2 g.2)
      (plan.files .plain) (plan.files .sqlx) := by
  refine (SameOutcome.mapM fun s hs => h.structFile_alike hs).bind ?_
  intro structFiles structFiles' _ _ hfiles
  refine .ok (forall₂_sortOn (fun _ _ hfg => hfg.1) (Entries.forall₂_ofPairs ?_))
  refine List.rel_append hfiles (.cons ⟨rfl, ?_, rfl⟩ .nil)
  exact fun _ => rfl

end Plans

/-! ## Lines of plain files -/

/-- Lines that are kept can be read back. -/
theorem eraseSqlx_textOfLines_eq_self {lines : List String} (hne : lines ≠ [])
    (h : ∀ line ∈ lines, Unbroken line ∧ Kept line) :
    eraseSqlx (textOfLines lines) = textOfLines lines := by
  have hlast : Kept "" := by decide +kernel
  have hkept : ∀ line ∈ linesOf (textOfLines lines), eraseLine line = some line :=
    forall_mem_linesOf_textOfLines hne hlast h
  rw [eraseSqlx, List.filterMap_congr hkept, List.filterMap_some, intercalate_linesOf]

theorem kept_append {margin rest : String} (hmargin : margin = "" ∨ margin = indent)
    (hspace : rest.toList.head? ≠ some ' ') (hhash : rest.toList.head? ≠ some '#') :
    Kept (margin ++ rest) := by
  have hsqlx : startsWith "#[sqlx(" rest = false := startsWith_eq_false (c := '#') rfl hhash
  have hderive : startsWith "#[derive(" (margin ++ rest) = false := by
    refine startsWith_eq_false (c := '#') rfl ?_
    rcases hmargin with rfl | rfl
    · rwa [String.empty_append]
    · simp [indent]
  simp only [startsWith] at hsqlx
  rw [Kept, eraseLine, unindented_append hmargin hspace, hsqlx, eraseDerives, hderive]
  rfl

theorem kept_indented {start rest : String} {c : Char} (hstart : start.toList.head? = some c)
    (hspace : c ≠ ' ') (hhash : c ≠ '#') : Kept (indent ++ (start ++ rest)) := by
  refine kept_append (Or.inr rfl) ?_ ?_ <;>
    rw [head?_toList_append hstart, ne_eq, Option.some.injEq]
  · exact hspace
  · exact hhash

theorem kept_of_head {start rest : String} {c : Char} (hstart : start.toList.head? = some c)
    (hspace : c ≠ ' ') (hhash : c ≠ '#') : Kept (start ++ rest) := by
  rw [← String.empty_append (s := start ++ rest)]
  refine kept_append (Or.inl rfl) ?_ ?_ <;>
    rw [head?_toList_append hstart, ne_eq, Option.some.injEq]
  · exact hspace
  · exact hhash

theorem kept_fieldLine (identifier : String) (type : TypeExpr) :
    Kept (fieldLine identifier type) := by
  rw [fieldLine_eq]
  simp only [String.append_assoc]
  exact kept_indented (c := 'p') rfl (by decide) (by decide)

theorem kept_of_mem_structLines {s : Struct} : ∀ line ∈ s.lines .plain, Kept line := by
  intro line hline
  simp only [Struct.lines, List.mem_append, List.mem_cons, List.not_mem_nil, or_false] at hline
  rcases hline with ((rfl | rfl | rfl) | hline) | rfl
  · simp only [toString, String.append_assoc]
    exact kept_of_head (c := '/') rfl (by decide) (by decide)
  · exact kept_deriveLines.1
  · simp only [toString, String.append_assoc]
    exact kept_of_head (c := 'p') rfl (by decide) (by decide)
  · obtain ⟨f, -, hline⟩ := List.mem_flatMap.1 hline
    simp only [Field.lines, Framework.fieldAttributes, List.mem_append, List.map_nil,
      List.not_mem_nil, or_false, List.mem_singleton] at hline
    rcases hline with hline | rfl
    · obtain ⟨note, -, rfl⟩ := List.mem_map.1 hline
      rw [documentation_eq]
      exact kept_indented (c := '/') rfl (by decide) (by decide)
    · exact kept_fieldLine f.name f.type
  · decide +kernel

theorem kept_variantLine (label : String) : Kept (variantLine (Identifier.variantName label)) := by
  rw [variantLine_eq]
  exact kept_append (Or.inr rfl) (head?_variant_ne (by decide) (by decide) (by decide))
    (head?_variant_ne (by decide) (by decide) (by decide))

theorem kept_of_declarationLines {d : Declaration} {lines : List String}
    (h : declarationLines .plain d = .ok lines) : ∀ line ∈ lines, Kept line := by
  intro line hline
  obtain ⟨name, identifier, body⟩ := d
  cases body with
  | enum labels =>
    obtain ⟨-, rfl⟩ := enumLines_eq_ok h
    simp only [Framework.typeAttributes, variantLines_eq, Framework.variantAttributes,
      List.mem_append, List.mem_cons, List.not_mem_nil, or_false] at hline
    rcases hline with (((rfl | rfl) | rfl) | hline) | rfl
    · simp only [toString, String.append_assoc]
      exact kept_of_head (c := '/') rfl (by decide) (by decide)
    · exact kept_deriveLines.2.1
    · simp only [toString, String.append_assoc]
      exact kept_of_head (c := 'p') rfl (by decide) (by decide)
    · obtain ⟨label, -, hline⟩ := List.mem_flatMap.1 hline
      rw [List.map_nil, List.nil_append, List.mem_singleton] at hline
      rw [hline]
      exact kept_variantLine label
    · decide +kernel
  | composite source fields dependencies unsupported =>
    obtain ⟨-, rfl⟩ := compositeLines_eq_ok h
    simp only [Framework.typeAttributes, List.mem_append, List.mem_cons, List.not_mem_nil,
      or_false] at hline
    rcases hline with (((rfl | rfl) | rfl) | hline) | rfl
    · simp only [toString, String.append_assoc]
      exact kept_of_head (c := '/') rfl (by decide) (by decide)
    · exact kept_deriveLines.2.2
    · simp only [toString, String.append_assoc]
      exact kept_of_head (c := 'p') rfl (by decide) (by decide)
    · obtain ⟨f, -, rfl⟩ := List.mem_map.1 hline
      exact kept_fieldLine _ _
    · decide +kernel

theorem kept_groupImports (paths : List String) : ∀ line ∈ groupImports paths, Kept line := by
  intro line hline
  obtain ⟨parent, -, rfl⟩ := List.mem_map.1 hline
  unfold useLine
  split <;>
  · simp only [toString, String.append_assoc]
    exact kept_of_head (c := 'u') rfl (by decide) (by decide)

theorem kept_siblingImports (imported : List SiblingImport) :
    ∀ line ∈ siblingImports imported, Kept line := by
  intro line hline
  obtain ⟨i, -, rfl⟩ := List.mem_map.1 (mem_sortedSet.1 hline)
  simp only [toString, String.append_assoc]
  exact kept_of_head (c := 'u') rfl (by decide) (by decide)

/-! ## Comments without breaks -/

/-- The names that comments copy have no line break: those of tables and types, and of the tables
and columns that are referred to. -/
structure UnbrokenNames (registry : Registry) (tables : List Table) : Prop where
  tableNames : ∀ t ∈ tables, Unbroken t.name.text
  typeNames : ∀ n ∈ registry.names, Unbroken n.text
  references : ∀ t ∈ tables, ∀ key ∈ t.foreignKeys, Unbroken key.referencedTable.text ∧
    ∀ column ∈ key.referencedColumns, Unbroken column

/-- Nor have the kinds of tables and the SQL spellings of types. -/
structure UnbrokenComments (registry : Registry) (tables : List Table) : Prop
    extends UnbrokenNames registry tables where
  kinds : ∀ t ∈ tables, Unbroken (capitalized t.kind)
  spellings : ∀ t ∈ tables, ∀ column ∈ t.columns, ∀ text ∈ sqlType? column, Unbroken text

section Plans

variable {snapshot : Snapshot} {singular : Bool} {excluded : List String} {plan : Plan} {s : Struct}

/-- The lines of a plain file are read back, and nothing is erased from them. -/
theorem Plan.Built.eraseSqlx_plain (h : plan.Built snapshot singular excluded)
    (hcomments : UnbrokenComments snapshot.types (includedTables snapshot.tables excluded))
    (hs : s ∈ plan.structs) {file : String × String} (hfile : plan.structFile .plain s = .ok file) :
    eraseSqlx file.2 = file.2 := by
  obtain ⟨imported, text, himported, htext, rfl⟩ := structFile_eq_ok_iff.1 hfile
  obtain ⟨declarations, hdeclarations, rfl⟩ := tableFile_eq_ok_iff.1 htext
  obtain ⟨t, ht, hts⟩ := h.exists_table hs
  have himports := fun line hline => (h.isCode_crateImports hs line hline).singleLine.unbroken
  have hsiblings :=
    fun line hline => (h.isCode_siblingImports himported line hline).singleLine.unbroken
  have hstruct := (h.confinedLines hs .plain).unbroken_iff.2
    (hts.unbroken_copiedTexts (hcomments.kinds t ht) (hcomments.tableNames t ht)
      (hcomments.references t ht) (hcomments.spellings t ht))
  have hdeclared : ∀ lines ∈ declarations, ∀ line ∈ lines, Unbroken line ∧ Kept line := by
    intro lines hlines line hline
    obtain ⟨d, hd, hdlines⟩ := exists_left_of_mem hdeclarations hlines
    have hdeclares := h.declares_of_mem_ownedBy hd
    have hname : Unbroken d.name.text :=
      hcomments.typeNames d.name (Entries.has_eq_true_iff.1 hdeclares.contains)
    have hunbroken := (confinedLines_declaration hdeclares hdlines).unbroken_iff.2
      (List.forall_mem_singleton.2 hname)
    exact ⟨hunbroken line hline, kept_of_declarationLines hdlines line hline⟩
  have hlines :=
    forall_mem_fileLines (P := fun line => Unbroken line ∧ Kept line) (by decide +kernel)
    (fun line hline => ⟨himports line hline, kept_groupImports _ line hline⟩)
    (fun line hline => ⟨hsiblings line hline, kept_siblingImports _ line hline⟩)
    hdeclared
    (fun line hline => ⟨hstruct line hline, kept_of_mem_structLines line hline⟩)
  exact eraseSqlx_textOfLines_eq_self (List.cons_ne_nil _ _) hlines

/-- A file is the index or that of a struct. -/
theorem exists_struct_of_mem_files {framework : Framework} {files : List (String × String)}
    (hfiles : plan.files framework = .ok files) {file : String × String} (hfile : file ∈ files) :
    file.1 = indexFileName ∨ ∃ s ∈ plan.structs, plan.structFile framework s = .ok file := by
  obtain ⟨structFiles, hstructFiles, rfl⟩ := files_eq_ok_iff.1 hfiles
  rcases List.mem_append.1 (Entries.mem_of_mem_ofPairs (mem_sortOn.1 hfile)) with hfile | hfile
  · exact Or.inr (exists_left_of_mem hstructFiles hfile)
  · rw [List.mem_singleton.1 hfile]
    exact Or.inl rfl

end Plans

/-- The artifacts for two frameworks: the same structs, warnings, file names and index, and the same
is left of the files. -/
structure ArtifactsAlike (plain sqlx : Artifacts) : Prop where
  structs : sqlx.structs = plain.structs
  warnings : sqlx.warnings = plain.warnings
  files : List.Forall₂ (fun f g => f.1 = g.1 ∧ FilesAlike f.1 f.2 g.2) plain.files sqlx.files

/-- **The framework adds attributes only**: for both frameworks generation fails with the same
error, or gives the same structs, warnings, file names and index, and table files of which the same
is left without attributes and derives of the framework. If no comment has a line break, what is
left of a table file is the plain one. -/
theorem generate_alike (snapshot : Snapshot) (singular : Bool) (excluded : List String) :
    SameOutcome (fun plain sqlx => ArtifactsAlike plain sqlx ∧
        (UnbrokenComments snapshot.types (includedTables snapshot.tables excluded) →
          List.Forall₂ (fun f g => f.1 = indexFileName ∨ eraseSqlx g.2 = f.2) plain.files
            sqlx.files))
      (generate snapshot ⟨singular, .plain, excluded⟩)
        (generate snapshot ⟨singular, .sqlx, excluded⟩) := by
  refine (SameOutcome.of_eq rfl).bind ?_
  rintro plan _ hplan - rfl
  have hbuilt := built_of_planOf hplan
  refine hbuilt.files_alike.bind fun plain sqlx hplain _ hfiles => .ok ⟨⟨rfl, rfl, hfiles⟩, ?_⟩
  intro hcomments
  refine forall₂_comp (List.forall₂_same.2 fun _ _ => rfl) hfiles fun f f' hf' g _ hff hfg => ?_
  subst hff
  rcases exists_struct_of_mem_files hplain hf' with hindex | ⟨s, hs, hfile⟩
  · exact Or.inl hindex
  · exact Or.inr (hfg.2.erased.trans (hbuilt.eraseSqlx_plain hcomments hs hfile))

/-- An enum, a composite and a table with a column that takes another name. -/
def renamedColumns : Snapshot where
  tables := [
    { name := ⟨"public", "users"⟩
      columns := [
        { name := "userId", type := .scalar { kind := "int4" }, isPrimaryKey := true },
        { name := "mood", type := .enum ⟨"public", "mood"⟩ [] },
        { name := "home", type := .composite ⟨"geo", "place"⟩ [] },
        { name := "balance"
          type := .scalar { kind := "numeric", precision := some 10, scale := some 2 }
          formattedType := "numeric(10,2)" }] }]
  types := {
    entries := [
      (⟨"geo", "place"⟩,
        .composite ⟨"geo", "place"⟩ [{ name := "label", type := .scalar { kind := "text" } }]),
      (⟨"public", "mood"⟩, .enum ⟨"public", "mood"⟩ ["so-so", "fine"])] }

theorem renamedColumns_alike :
    ∃ plain sqlx, generate renamedColumns ⟨false, .plain, []⟩ = .ok plain ∧
      generate renamedColumns ⟨false, .sqlx, []⟩ = .ok sqlx ∧
      List.Forall₂ (fun f g => f.1 = indexFileName ∨ eraseSqlx g.2 = f.2) plain.files
        sqlx.files := by
  have hcomments :
      UnbrokenComments renamedColumns.types (includedTables renamedColumns.tables []) := {
    tableNames := by decide +kernel
    typeNames := by decide +kernel
    references := by decide +kernel
    kinds := by decide +kernel
    spellings := by decide +kernel }
  obtain ⟨plain, hplain⟩ : ∃ plain, generate renamedColumns ⟨false, .plain, []⟩ = .ok plain :=
    exists_of_isOk (by decide +kernel)
  have h := generate_alike renamedColumns false []
  rw [hplain] at h
  cases hsqlx : generate renamedColumns ⟨false, .sqlx, []⟩ with
  | error e =>
    rw [hsqlx] at h
    cases h
  | ok sqlx =>
    rw [hsqlx] at h
    cases h with
    | ok h => exact ⟨plain, sqlx, hplain, rfl, h.2 hcomments⟩

/-- A column whose SQL type goes on in a line that looks like an attribute. -/
def brokenSpelling : Snapshot where
  tables := [
    { name := ⟨"public", "prices"⟩
      columns := [
        { name := "amount"
          type := .scalar { kind := "numeric", precision := some 10, scale := some 2 }
          formattedType := "numeric(10,2)\n#[sqlx(default)]" }] }]
  types := { entries := [] }

/-- The entries of the file of the prices. -/
def pricesLines (derives : String) : List String := [
  "#![allow(dead_code)]", "// Generated with autostruct", "",
  "use rust_decimal::Decimal;", "",
  "/// Table `public.prices`", derives, "pub struct Prices \x7b",
  "    /// SQL type: `numeric(10,2)\n#[sqlx(default)]`",
  "    pub amount: Option<Decimal>,", "\x7d"]

/-- What is generated from `brokenSpelling`. -/
def pricesFiles (derives : String) : List (String × String) := [
  ("mod.rs", "// Generated with autostruct\n\npub mod prices;\n\npub use prices::Prices;\n"),
  ("prices.rs", textOfLines (pricesLines derives))]

/-- It is not enough that names have no line break. -/
theorem not_forall_eraseSqlx_eq :
    ¬ ∀ (snapshot : Snapshot) (singular : Bool) (excluded : List String) (plain sqlx : Artifacts),
      UnbrokenNames snapshot.types snapshot.tables →
      (∀ t ∈ snapshot.tables, ∀ column ∈ t.columns, Unbroken column.name) →
      generate snapshot ⟨singular, .plain, excluded⟩ = .ok plain →
      generate snapshot ⟨singular, .sqlx, excluded⟩ = .ok sqlx →
      List.Forall₂ (fun f g => f.1 = indexFileName ∨ eraseSqlx g.2 = f.2) plain.files
        sqlx.files := by
  intro hall
  obtain ⟨plain, hplain, hwritten⟩ : ∃ plain,
      generate brokenSpelling ⟨false, .plain, []⟩ = .ok plain ∧
        plain.files = pricesFiles "#[derive(Debug, Clone)]" :=
    map_eq_ok_iff.1 (by decide +kernel)
  obtain ⟨sqlx, hsqlx, hwritten'⟩ : ∃ sqlx,
      generate brokenSpelling ⟨false, .sqlx, []⟩ = .ok sqlx ∧
        sqlx.files = pricesFiles "#[derive(Debug, Clone, sqlx::FromRow)]" :=
    map_eq_ok_iff.1 (by decide +kernel)
  have hnames : UnbrokenNames brokenSpelling.types brokenSpelling.tables := {
    tableNames := by decide +kernel
    typeNames := by decide +kernel
    references := by decide +kernel }
  have hfiles := hall brokenSpelling false [] plain sqlx hnames (by decide +kernel) hplain hsqlx
  rw [hwritten, hwritten'] at hfiles
  have hprices := (List.forall₂_cons.1 (List.forall₂_cons.1 hfiles).2).1
  have herased : eraseSqlx (textOfLines (pricesLines "#[derive(Debug, Clone, sqlx::FromRow)]")) =
      textOfLines (pricesLines "#[derive(Debug, Clone)]") := hprices.resolve_left (by decide)
  -- What is left of the comment is its first line, the other one being taken for an attribute.
  have hlines : pricesLines "#[derive(Debug, Clone, sqlx::FromRow)]" ≠ [] := List.cons_ne_nil _ _
  rw [eraseSqlx_textOfLines hlines] at herased
  exact absurd herased (by decide +kernel)

end SchemaStructs.Generate
