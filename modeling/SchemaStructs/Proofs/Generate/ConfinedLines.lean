import SchemaStructs.Proofs.Generate.CodeText

/-!
# Where catalog text is written

A text of the catalog is written as it is in comments only, with its line breaks. Elsewhere it is
escaped in a string literal or cut into identifiers. So every entry of a list of lines is a comment,
or code with at most one literal, and has a line break exactly if a text that is copied into it
does.
-/

namespace SchemaStructs.Generate

open Catalog Mapping Rust Text

/-! ## Entries -/

/-- An entry is one of the comments `notes`, code around one string literal, or code alone. -/
inductive Confined (notes : List String) : String → Prop
  | comment {margin note : String} (hmargin : margin = "" ∨ margin = indent)
      (hnote : note ∈ notes) :
      Confined notes (margin ++ ("/// " ++ note))
  | literal {before after : String} (text : String) (hbefore : IsCode before)
      (hafter : IsCode after) :
      Confined notes (before ++ stringLiteral text ++ after)
  | code {line : String} (hline : IsCode line) : Confined notes line

namespace Confined

variable {notes notes' : List String} {line : String}

theorem mono (h : Confined notes line) (hsub : notes ⊆ notes') : Confined notes' line := by
  cases h with
  | comment hmargin hnote => exact .comment hmargin (hsub hnote)
  | literal text hbefore hafter => exact .literal text hbefore hafter
  | code hline => exact .code hline

/-- Only a comment can take more than one line. -/
theorem allChars (h : Confined notes line) {p : Char → Prop} (hp : HoldsInLines p)
    (hnotes : ∀ note ∈ notes, AllChars p note) : AllChars p line := by
  cases h with
  | @comment margin note hmargin hnote =>
    have hmargin' : SingleLine margin := by
      rcases hmargin with rfl | rfl
      · decide
      · decide
    rw [allChars_append, allChars_append]
    exact ⟨hp.allChars hmargin', hp.allChars (by decide), hnotes note hnote⟩
  | literal text hbefore hafter =>
    rw [allChars_append, allChars_append]
    exact ⟨⟨hp.allChars hbefore.singleLine, hp.allChars (singleLine_stringLiteral text)⟩,
      hp.allChars hafter.singleLine⟩
  | code hline => exact hp.allChars hline.singleLine

theorem unbroken (h : Confined [] line) : Unbroken line :=
  unbroken_iff_allChars.2 (h.allChars holdsInLines_unbroken nofun)

theorem indented_code {line : String} (hline : IsCode line) : Confined notes (indent ++ line) :=
  .code (isCode_append.2 ⟨by decide, hline⟩)

theorem rename {margin : String} (hmargin : IsCode margin) (text : String) :
    Confined notes (margin ++ Framework.rename text) := by
  have hline : margin ++ Framework.rename text =
      (margin ++ "#[sqlx(rename = ") ++ stringLiteral text ++ ")]" := by
    show margin ++ s!"#[sqlx(rename = {stringLiteral text})]" = _
    simp only [toString, String.append_assoc]
  rw [hline]
  exact .literal text (isCode_append.2 ⟨hmargin, by decide⟩) (by decide)

theorem of_mem_typeAttributes {framework : Framework} {name : QualifiedName}
    (h : line ∈ framework.typeAttributes name) : Confined notes line := by
  cases framework with
  | plain => cases h
  | sqlx =>
    rw [List.mem_singleton.1 h]
    simp only [toString]
    exact .literal _ (by decide) (by decide)

theorem of_mem_variantLines {framework : Framework} {label : String}
    (h : line ∈ variantLines framework label (Identifier.variantName label)) :
    Confined notes line := by
  rw [variantLines_eq, List.mem_append] at h
  rcases h with h | h
  · obtain ⟨rest, hrest, rfl⟩ := List.mem_map.1 h
    cases framework with
    | plain => cases hrest
    | sqlx =>
      rw [List.mem_singleton.1 hrest]
      exact rename (by decide) label
  · rw [List.mem_singleton.1 h, variantLine_eq]
    refine indented_code (isCode_append.2 ⟨?_, by decide⟩)
    exact isCode_of_isPlainName (Identifier.isPlainName_variantName label)

end Confined

theorem isCode_deriveLines (framework : Framework) : IsCode (deriveLine framework.structDerives) ∧
    IsCode (deriveLine framework.enumDerives) ∧ IsCode (deriveLine framework.compositeDerives) := by
  cases framework <;> decide +kernel

/-- Some lines with the comments `notes` among them, into which the texts `copied` are written as
they are. These alone decide whether each line is one. -/
structure ConfinedLines (notes copied lines : List String) : Prop where
  confined : ∀ line ∈ lines, Confined notes line
  singleLine_iff : (∀ line ∈ lines, SingleLine line) ↔ ∀ text ∈ copied, SingleLine text
  unbroken_iff : (∀ line ∈ lines, Unbroken line) ↔ ∀ text ∈ copied, Unbroken text

/-- The comments say the same of their characters as the texts that are copied into them. -/
def CopiedInto (copied notes : List String) : Prop :=
  ∀ p : Char → Prop, HoldsInLines p →
    ((∀ note ∈ notes, AllChars p note) ↔ ∀ text ∈ copied, AllChars p text)

/-- Each comment stands among the lines, and has no line break if the texts copied into it have
none. -/
theorem ConfinedLines.of_comments {notes copied lines : List String}
    (hconfined : ∀ line ∈ lines, Confined notes line)
    (hcomments : ∀ note ∈ notes, ∃ margin, margin ++ ("/// " ++ note) ∈ lines)
    (hcopied : CopiedInto copied notes) : ConfinedLines notes copied lines := by
  have hiff : ∀ p : Char → Prop, HoldsInLines p →
      ((∀ line ∈ lines, AllChars p line) ↔ ∀ text ∈ copied, AllChars p text) := by
    intro p hp
    rw [← hcopied p hp]
    constructor
    · intro h note hnote
      obtain ⟨margin, hline⟩ := hcomments note hnote
      exact (allChars_append.1 (allChars_append.1 (h _ hline)).2).2
    · exact fun h line hline => (hconfined line hline).allChars hp h
  refine ⟨hconfined, hiff _ fun _ h => h, ?_⟩
  simp only [unbroken_iff_allChars]
  exact hiff _ holdsInLines_unbroken

/-! ## Structs -/

/-- Texts that the notes of a field copy. -/
def Field.copiedTexts (f : Field) : List String := f.references.toList ++ f.sqlType.toList

/-- The comments of a struct. -/
def Struct.comments (s : Struct) : List String :=
  s!"{capitalized s.kind} `{s.table.text}`" :: s.fields.flatMap Field.notes

/-- Texts that the comments of a struct copy. -/
def Struct.copiedTexts (s : Struct) : List String :=
  capitalized s.kind :: s.table.text :: s.fields.flatMap Field.copiedTexts

theorem allChars_filter_iff {p : Char → Prop} {text? : Option String} {f : String → String}
    (hf : ∀ text, AllChars p (f text) ↔ AllChars p text) :
    (∀ note ∈ (text?.filter (· != "")).toList.map f, AllChars p note) ↔
      ∀ text ∈ text?.toList, AllChars p text := by
  cases text? with
  | none => simp
  | some text =>
    by_cases htext : text = ""
    · simp [htext, AllChars]
    · simp [htext, hf]

/-- A comment around one text. -/
theorem allChars_around {p : Char → Prop} (hp : HoldsInLines p) {before after : String}
    (hbefore : SingleLine before) (hafter : SingleLine after) (text : String) :
    AllChars p (before ++ text ++ after) ↔ AllChars p text := by
  rw [allChars_append, allChars_append, and_iff_left (hp.allChars hafter),
    and_iff_right (hp.allChars hbefore)]

theorem Field.copiedInto_notes (f : Field) : CopiedInto f.copiedTexts f.notes := by
  intro p hp
  have hreference : ∀ r : String, AllChars p s!"References `{r}`" ↔ AllChars p r :=
    allChars_around hp (by decide) (by decide)
  have hspelling : ∀ t : String, AllChars p s!"SQL type: `{t}`" ↔ AllChars p t :=
    allChars_around hp (by decide) (by decide)
  have hfixed : ∀ note ∈
      (if f.facts.primaryKey then ["Primary key"] else []) ++
      (if f.facts.identity then ["Identity column"] else []) ++
      (if f.facts.generated then ["Generated column"] else []) ++
      (if f.facts.unique then ["Unique"] else []), SingleLine note := by
    cases f.facts.primaryKey <;> cases f.facts.identity <;> cases f.facts.generated <;>
      cases f.facts.unique <;> decide
  have hfixed' := fun note hnote => hp.allChars (hfixed note hnote)
  simp only [Field.notes, Field.copiedTexts, List.forall_mem_append] at hfixed' ⊢
  rw [allChars_filter_iff hreference, allChars_filter_iff hspelling, and_iff_right hfixed']

theorem Struct.copiedInto_comments (s : Struct) : CopiedInto s.copiedTexts s.comments := by
  intro p hp
  have hheader : AllChars p s!"{capitalized s.kind} `{s.table.text}`" ↔
      AllChars p (capitalized s.kind) ∧ AllChars p s.table.text := by
    have hbefore : AllChars p " `" := hp.allChars (by decide)
    have hafter : AllChars p "`" := hp.allChars (by decide)
    simp only [toString, allChars_append, and_iff_left hafter, and_iff_left hbefore]
  simp only [Struct.comments, Struct.copiedTexts, List.forall_mem_cons, hheader, and_assoc,
    List.forall_mem_flatMap, fun f => Field.copiedInto_notes f p hp]

theorem Field.confined_lines (framework : Framework) {f : Field} (hname : IsCode f.name)
    (htype : IsCode f.type.render) : ∀ line ∈ f.lines framework, Confined f.notes line := by
  intro line hline
  rcases List.mem_append.1 hline with hline | hline
  · rcases List.mem_append.1 hline with hline | hline
    · obtain ⟨note, hnote, rfl⟩ := List.mem_map.1 hline
      rw [documentation_eq]
      exact .comment (Or.inr rfl) hnote
    · obtain ⟨rest, hrest, rfl⟩ := List.mem_map.1 hline
      cases framework with
      | plain => cases hrest
      | sqlx =>
        dsimp only [Framework.fieldAttributes] at hrest
        split at hrest
        · cases hrest
        · rw [List.mem_singleton.1 hrest]
          exact .rename (by decide) f.column
  · rw [List.mem_singleton.1 hline]
    exact .code (isCode_fieldLine hname htype)

theorem documentation_struct_eq (s : Struct) :
    s!"/// {capitalized s.kind} `{s.table.text}`" =
      "" ++ ("/// " ++ s!"{capitalized s.kind} `{s.table.text}`") := by
  simp only [toString, String.append_assoc, String.empty_append]

/-- The lines of a struct with plain identifiers and types. -/
theorem Struct.confinedLines (framework : Framework) {s : Struct} (hname : IsCode s.name)
    (hfields : ∀ f ∈ s.fields, IsCode f.name ∧ IsCode f.type.render) :
    ConfinedLines s.comments s.copiedTexts (s.lines framework) := by
  refine .of_comments (fun line hline => ?_) (fun note hnote => ?_) s.copiedInto_comments
  · simp only [Struct.lines, List.mem_append, List.mem_cons, List.not_mem_nil, or_false] at hline
    rcases hline with ((rfl | rfl | rfl) | hline) | rfl
    · rw [documentation_struct_eq]
      exact .comment (Or.inl rfl) List.mem_cons_self
    · exact .code (isCode_deriveLines framework).1
    · refine .code ?_
      simp only [toString, isCode_append]
      exact ⟨⟨by decide, hname⟩, by decide⟩
    · obtain ⟨f, hf, hline⟩ := List.mem_flatMap.1 hline
      obtain ⟨hname, htype⟩ := hfields f hf
      refine (Field.confined_lines framework hname htype line hline).mono fun note hnote => ?_
      exact List.mem_cons_of_mem _ (List.mem_flatMap.2 ⟨f, hf, hnote⟩)
    · exact .code (by decide)
  · rcases List.mem_cons.1 hnote with rfl | hnote
    · refine ⟨"", ?_⟩
      rw [← documentation_struct_eq]
      simp [Struct.lines]
    · obtain ⟨f, hf, hnote⟩ := List.mem_flatMap.1 hnote
      refine ⟨indent, ?_⟩
      rw [← documentation_eq, Struct.lines]
      refine List.mem_append_left _ (List.mem_append_right _ (List.mem_flatMap.2 ⟨f, hf, ?_⟩))
      exact List.mem_append_left _ (List.mem_append_left _ (List.mem_map_of_mem hnote))

theorem unbroken_referenceNote {t : Table} {column : String} {note : Option String}
    (hkeys : ∀ key ∈ t.foreignKeys, Unbroken key.referencedTable.text ∧
      ∀ column ∈ key.referencedColumns, Unbroken column)
    (h : referenceNote? t column = .ok note) : ∀ text ∈ note, Unbroken text := by
  unfold referenceNote? at h
  split at h
  · cases h
    simp
  · rename_i key hkey
    split at h
    · rename_i referenced hreferenced
      cases h
      obtain ⟨htable, hcolumns⟩ := hkeys key (List.mem_of_find?_eq_some hkey)
      have hcolumn := hcolumns referenced (List.mem_of_getElem? hreferenced)
      simp only [Option.mem_def, Option.some.injEq, forall_eq', unbroken_append]
      exact ⟨⟨htable, by decide⟩, hcolumn⟩
    · cases h

/-- The copied texts come from the table that the struct is built from. -/
theorem StructOf.unbroken_copiedTexts {registry : Registry} {t : Table} {s : Struct}
    (h : StructOf registry t s) (hkind : Unbroken (capitalized t.kind))
    (hname : Unbroken t.name.text)
    (hkeys : ∀ key ∈ t.foreignKeys, Unbroken key.referencedTable.text ∧
      ∀ column ∈ key.referencedColumns, Unbroken column)
    (hspellings : ∀ column ∈ t.columns, ∀ text ∈ sqlType? column, Unbroken text) :
    ∀ text ∈ s.copiedTexts, Unbroken text := by
  simp only [Struct.copiedTexts, List.forall_mem_cons, h.kind_eq, h.table_eq]
  refine ⟨hkind, hname, fun text htext => ?_⟩
  obtain ⟨f, hf, htext⟩ := List.mem_flatMap.1 htext
  obtain ⟨column, hcolumn, hfield⟩ := exists_left_of_mem h.fields hf
  rcases List.mem_append.1 htext with htext | htext
  · exact unbroken_referenceNote hkeys hfield.references_eq text (Option.mem_toList.1 htext)
  · rw [hfield.sqlType_eq] at htext
    exact hspellings column hcolumn text (Option.mem_toList.1 htext)

/-! ## Declarations -/

/-- The comment of a declaration. -/
def declarationComment (d : Declaration) : String :=
  match d.body with
  | .enum _ => s!"Enum `{d.name.text}`"
  | .composite .. => s!"Composite type `{d.name.text}`"

theorem copiedInto_declarationComment (d : Declaration) :
    CopiedInto [d.name.text] [declarationComment d] := by
  intro p hp
  rw [List.forall_mem_singleton, List.forall_mem_singleton]
  unfold declarationComment
  split
  · exact allChars_around hp (by decide) (by decide) d.name.text
  · exact allChars_around hp (by decide) (by decide) d.name.text

/-- A comment, code, attributes of the framework and what stands between braces. -/
theorem confinedLines_item {framework : Framework} {name : QualifiedName}
    {note derives opening : String} {copied body : List String} (hcopied : CopiedInto copied [note])
    (hderives : IsCode derives) (hopening : IsCode opening)
    (hbody : ∀ line ∈ body, Confined [note] line) :
    ConfinedLines [note] copied (["/// " ++ note, derives] ++ framework.typeAttributes name ++
      [opening] ++ body ++ [closing]) := by
  refine .of_comments (fun line hline => ?_) (fun note' hnote => ⟨"", ?_⟩) hcopied
  · simp only [List.mem_append, List.mem_cons, List.not_mem_nil, or_false] at hline
    rcases hline with ((((rfl | rfl) | hline) | rfl) | hline) | rfl
    · rw [← String.empty_append (s := "/// " ++ note)]
      exact .comment (Or.inl rfl) List.mem_cons_self
    · exact .code hderives
    · exact .of_mem_typeAttributes hline
    · exact .code hopening
    · exact hbody line hline
    · exact .code (by decide)
  · rw [List.mem_singleton.1 hnote, String.empty_append]
    simp

/-- The lines of a declaration. Labels may be any texts. -/
theorem confinedLines_declaration {registry : Registry} {framework : Framework} {d : Declaration}
    (hd : Declares registry d) {lines : List String}
    (h : declarationLines framework d = .ok lines) :
    ConfinedLines [declarationComment d] [d.name.text] lines := by
  have hidentifier : IsCode d.identifier := by
    rw [hd.identifier_eq]
    exact isCode_of_isPlainName (Identifier.isPlainName_typeName d.name.name)
  have htypes : ∀ f ∈ d.fields, IsCode f.2.render := fun f hf => isCode_render_of_declares hd hf
  clear hd
  have hcopied := copiedInto_declarationComment d
  obtain ⟨-, henum, hcomposite⟩ := isCode_deriveLines framework
  obtain ⟨name, identifier, body⟩ := d
  cases body with
  | enum labels =>
    obtain ⟨-, rfl⟩ := enumLines_eq_ok h
    have hcomment : s!"/// Enum `{name.text}`" = "/// " ++ s!"Enum `{name.text}`" := by
      rw [← String.append_assoc, ← String.append_assoc]
      rfl
    have hopening : IsCode s!"pub enum {identifier} \x7b" := by
      simp only [toString, isCode_append]
      exact ⟨⟨by decide, hidentifier⟩, by decide⟩
    rw [hcomment]
    refine confinedLines_item hcopied henum hopening fun line hline => ?_
    obtain ⟨label, -, hline⟩ := List.mem_flatMap.1 hline
    exact .of_mem_variantLines hline
  | composite source fields dependencies unsupported =>
    obtain ⟨-, rfl⟩ := compositeLines_eq_ok h
    have hcomment : s!"/// Composite type `{name.text}`" =
        "/// " ++ s!"Composite type `{name.text}`" := by
      rw [← String.append_assoc, ← String.append_assoc]
      rfl
    have hopening : IsCode s!"pub struct {identifier} \x7b" := by
      simp only [toString, isCode_append]
      exact ⟨⟨by decide, hidentifier⟩, by decide⟩
    rw [hcomment]
    refine confinedLines_item hcopied hcomposite hopening fun line hline => ?_
    obtain ⟨f, hf, rfl⟩ := List.mem_map.1 hline
    exact .code (isCode_fieldLine (isCode_columnName f.1) (htypes f hf))

end SchemaStructs.Generate
