import SchemaStructs.Proofs.Generate.ConfinedLines
import SchemaStructs.Proofs.Generate.CrateNames
import SchemaStructs.Proofs.Generate.TableAlone

/-!
# Lines of the files of a plan

The structs and declarations of a plan have plain identifiers and types, whatever the names in the
catalog are. So in the file of a struct a text of the catalog stands in a comment or in a string
literal, and if what the comments copy has no line break then each entry is one line of the file.
-/

namespace SchemaStructs.Generate

open Catalog Mapping Rust Text

/-- The lines of a file are those it is written from, and an empty one. -/
theorem forall_mem_linesOf_textOfLines {P : String → Prop} {lines : List String} (hne : lines ≠ [])
    (hlast : P "") (h : ∀ line ∈ lines, Unbroken line ∧ P line) :
    ∀ line ∈ linesOf (textOfLines lines), P line := by
  intro line hline
  rw [textOfLines, linesOf_intercalate hne fun line hline => (h line hline).1] at hline
  rcases List.mem_append.1 hline with hline | hline
  · exact (h line hline).2
  · rw [List.mem_singleton.1 hline]
    exact hlast

section Plans

variable {snapshot : Snapshot} {singular : Bool} {excluded : List String} {plan : Plan} {s : Struct}
  {framework : Framework}

theorem Plan.Built.isCode_name (h : plan.Built snapshot singular excluded) (hs : s ∈ plan.structs) :
    IsCode s.name := by
  obtain ⟨t, -, hname, -⟩ := exists_left_of_mem h.structs hs
  obtain ⟨u, -, he⟩ := List.mem_map.1 (Entries.mem_of_mem_ofPairs (Entries.mem_of_get? hname))
  obtain ⟨-, he⟩ := Prod.mk.inj he
  rw [← he]
  exact isCode_of_isPlainName (Identifier.isPlainName_tableName singular u.name.name)

theorem Plan.Built.confinedLines (h : plan.Built snapshot singular excluded) (hs : s ∈ plan.structs)
    (framework : Framework) : ConfinedLines s.comments s.copiedTexts (s.lines framework) := by
  obtain ⟨t, -, hts⟩ := h.exists_table hs
  refine s.confinedLines framework (h.isCode_name hs) fun f hf => ?_
  obtain ⟨column, -, hfield⟩ := exists_left_of_mem hts.fields hf
  obtain ⟨m, hm, htype⟩ := hfield.type_eq
  rw [hfield.name_eq, htype]
  exact ⟨isCode_columnName column.name, isCode_render_of_mapNullable hm⟩

/-- Declarations are owned by modules of structs. -/
theorem Plan.Built.exists_owner (h : plan.Built snapshot singular excluded) {n : QualifiedName}
    {m : String} (hm : plan.ownership.owners.get? n = some m) :
    ∃ s ∈ plan.structs, s.moduleName = m := by
  refine foldlM_induction (P := fun done (o : Ownership) =>
    ∀ n m, o.owners.get? n = some m → ∃ s ∈ done, s.moduleName = m) ?_ (by simp) h.ownership n m hm
  intro done s o o' ih hclaim n m hm
  rw [get?_owners_claim h.eq_name_of_get? hclaim] at hm
  split at hm
  · exact ⟨s, by simp, Option.some.inj hm⟩
  · obtain ⟨s', hs', he⟩ := ih n m hm
    exact ⟨s', List.mem_append_left _ hs', he⟩

theorem Plan.Built.declares_of_mem_ownedBy (h : plan.Built snapshot singular excluded) {m : String}
    {d : Declaration} (hd : d ∈ plan.ownedBy m) : Declares snapshot.types d :=
  (h.declarations_get?_eq_some_iff.1 (h.get?_of_mem_ownedBy hd)).2.2

theorem Plan.Built.isCode_crateImports (h : plan.Built snapshot singular excluded)
    (hs : s ∈ plan.structs) :
    ∀ line ∈ groupImports (crateImports s (plan.ownedBy s.moduleName)), IsCode line := by
  obtain ⟨t, -, hts⟩ := h.exists_table hs
  exact isCode_groupImports
    (mem_cratePaths_of_crateImports hts fun d hd => h.declares_of_mem_ownedBy hd)

theorem Plan.Built.isCode_siblingImports (h : plan.Built snapshot singular excluded)
    {imported : List SiblingImport} (himported : plan.importedBy s = .ok imported) :
    ∀ line ∈ siblingImports imported, IsCode line := by
  apply Generate.isCode_siblingImports
  obtain ⟨imports, himports, he⟩ := bind_eq_ok_iff.1 himported
  obtain rfl := pure_eq_ok_iff.1 he
  intro i hi
  obtain ⟨import?, hmem, rfl⟩ := List.mem_filterMap.1 hi
  obtain ⟨n, -, himport⟩ := exists_left_of_mem (mapM_eq_ok_iff.1 himports) hmem
  obtain ⟨owner, howner, himport⟩ := bind_eq_ok_iff.1 himport
  split at himport
  · cases himport
  obtain ⟨d, hd, himport⟩ := bind_eq_ok_iff.1 himport
  cases himport
  dsimp only [id]
  constructor
  · unfold Plan.ownerOf at howner
    split at howner
    · rename_i hget
      cases howner
      obtain ⟨o, ho, rfl⟩ := h.exists_owner hget
      rw [h.moduleName_eq ho]
      exact isCode_of_isPlainName (Identifier.isPlainName_moduleName o.name)
    · cases howner
  · obtain ⟨-, -, hdeclares⟩ := h.declarations_get?_eq_some_iff.1 (declarationOf_eq_ok_iff.1 hd)
    rw [hdeclares.identifier_eq]
    exact isCode_of_isPlainName (Identifier.isPlainName_typeName d.name.name)

/-- If what is copied into the module of a struct is on single lines, then so is every entry, and
each line of the file is one. -/
theorem Plan.Built.confined_structFile (h : plan.Built snapshot singular excluded)
    (hs : s ∈ plan.structs) {file : String × String}
    (hfile : plan.structFile framework s = .ok file)
    (hstruct : ∀ text ∈ s.copiedTexts, SingleLine text)
    (howned : ∀ d ∈ plan.ownedBy s.moduleName, SingleLine d.name.text) :
    ∀ line ∈ linesOf file.2, line = generatedMark ∨
      Confined (s.comments ++ (plan.ownedBy s.moduleName).map declarationComment) line := by
  obtain ⟨imported, text, himported, htext, rfl⟩ := structFile_eq_ok_iff.1 hfile
  obtain ⟨declarations, hdeclarations, rfl⟩ := tableFile_eq_ok_iff.1 htext
  have hcode : ∀ line, IsCode line → SingleLine line ∧ (line = generatedMark ∨
      Confined (s.comments ++ (plan.ownedBy s.moduleName).map declarationComment) line) :=
    fun line hline => ⟨hline.singleLine, Or.inr (.code hline)⟩
  have hall := forall_mem_fileLines (P := fun line => SingleLine line ∧ (line = generatedMark ∨
      Confined (s.comments ++ (plan.ownedBy s.moduleName).map declarationComment) line))
    (by
      intro line hline
      simp only [List.mem_cons, List.not_mem_nil, or_false] at hline
      rcases hline with rfl | rfl | rfl
      · exact hcode _ (by decide)
      · exact ⟨by decide, Or.inl rfl⟩
      · exact hcode _ (by decide))
    (fun line hline => hcode line (h.isCode_crateImports hs line hline))
    (fun line hline => hcode line (h.isCode_siblingImports himported line hline))
    (by
      intro lines hlines line hline
      obtain ⟨d, hd, hlines⟩ := exists_left_of_mem hdeclarations hlines
      have hconfined := confinedLines_declaration (h.declares_of_mem_ownedBy hd) hlines
      refine ⟨hconfined.singleLine_iff.2 (by simpa using howned d hd) line hline, Or.inr ?_⟩
      refine (hconfined.confined line hline).mono fun note hnote => ?_
      rw [List.mem_singleton.1 hnote]
      exact List.mem_append_right _ (List.mem_map_of_mem hd))
    (by
      intro line hline
      have hconfined := h.confinedLines hs framework
      refine ⟨hconfined.singleLine_iff.2 hstruct line hline, Or.inr ?_⟩
      exact (hconfined.confined line hline).mono (List.subset_append_left _ _))
  exact forall_mem_linesOf_textOfLines (List.cons_ne_nil _ _) (Or.inr (.code (by decide)))
    fun line hline => (hall line hline).imp_left SingleLine.unbroken

end Plans

/-- **Catalog text is confined**: each entry of the lines of a struct or declaration is a comment,
code around one string literal, or code alone, where code is made of identifiers and punctuation.
All entries are single lines exactly if the texts copied into the comments are: the name of the
table and its kind, the columns that are referred to, and the SQL spellings of types, or the name of
the declared type. The lines of a file are then all of these kinds. -/
theorem planOf_confinedLines {snapshot : Snapshot} {singular : Bool} {excluded : List String}
    {plan : Plan} (h : planOf snapshot singular excluded = .ok plan) (framework : Framework) :
    (∀ s ∈ plan.structs, ConfinedLines s.comments s.copiedTexts (s.lines framework)) ∧
    (∀ e ∈ plan.declarations, ∀ lines, declarationLines framework e.2 = .ok lines →
      ConfinedLines [declarationComment e.2] [e.2.name.text] lines) ∧
    ∀ s ∈ plan.structs, ∀ file, plan.structFile framework s = .ok file →
      (∀ text ∈ s.copiedTexts, SingleLine text) →
      (∀ d ∈ plan.ownedBy s.moduleName, SingleLine d.name.text) →
      ∀ line ∈ linesOf file.2, line = generatedMark ∨
        Confined (s.comments ++ (plan.ownedBy s.moduleName).map declarationComment) line := by
  have hbuilt := built_of_planOf h
  refine ⟨fun s hs => hbuilt.confinedLines hs framework, fun e he lines hlines => ?_, ?_⟩
  · exact confinedLines_declaration (hbuilt.declarations.declares e he).2 hlines
  · exact fun s hs file hfile => hbuilt.confined_structFile hs hfile

/-- A label and a column with line breaks and quotes. -/
def awkwardTexts : Snapshot where
  tables := [
    { name := ⟨"public", "users"⟩
      columns :=
        [{ name := "a\nb", type := .enum ⟨"public", "mood"⟩ [], formattedType := "mood" }] }]
  types := {
    entries := [(⟨"public", "mood"⟩, .enum ⟨"public", "mood"⟩ ["so\r\nso", "\"fine\""])] }

theorem awkwardTexts_singleLines :
    ∃ plan, planOf awkwardTexts false [] = .ok plan ∧
      ∀ s ∈ plan.structs, ∀ line ∈ s.lines .sqlx, SingleLine line := by
  obtain ⟨plan, h, htexts⟩ : ∃ plan, planOf awkwardTexts false [] = .ok plan ∧
      decide (∀ s ∈ plan.structs, ∀ text ∈ s.copiedTexts, SingleLine text) = true :=
    map_eq_ok_iff.1 (by decide +kernel)
  have hcopied := of_decide_eq_true htexts
  exact ⟨plan, h, fun s hs =>
    ((planOf_confinedLines h .sqlx).1 s hs).singleLine_iff.2 (hcopied s hs)⟩

/-- The name of a table that goes on in a line of its own. -/
def brokenName : Snapshot where
  tables := [{ name := ⟨"public", "users\nuse std::process;"⟩ }]
  types := { entries := [] }

/-- Names with line breaks are written into comments as they are. -/
theorem not_forall_singleLine :
    ¬ ∀ (snapshot : Snapshot) (singular : Bool) (excluded : List String) (framework : Framework)
      (plan : Plan), planOf snapshot singular excluded = .ok plan →
        ∀ s ∈ plan.structs, ∀ line ∈ s.lines framework, SingleLine line := by
  intro hall
  obtain ⟨plan, h, hlines⟩ : ∃ plan, planOf brokenName false [] = .ok plan ∧
      decide (∀ s ∈ plan.structs, ∀ line ∈ s.lines .plain, SingleLine line) = false :=
    map_eq_ok_iff.1 (by decide +kernel)
  exact of_decide_eq_false hlines (hall brokenName false [] .plain plan h)

end SchemaStructs.Generate
