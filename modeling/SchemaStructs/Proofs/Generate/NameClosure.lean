import SchemaStructs.Proofs.Generate.ModuleNames
import SchemaStructs.Proofs.Generate.SourceText

/-!
# Closure of names

In the module of a table every name has exactly one meaning. What the module brings in is distinct,
and every type written there, at any depth, is built in, or imported from a crate, or declared in
the module, or imported from the module that declares it. The nodes of mapped types lead to
declarations that the struct needs, and of those every one is either owned by the module or
imported.
-/

namespace SchemaStructs.Generate

open Catalog Mapping Rust

/-- Types written in the module of a struct. -/
def typesWritten (s : Struct) (owned : List Declaration) : List TypeExpr :=
  s.fields.map Field.type ++ owned.flatMap fun d => d.fields.map Prod.snd

theorem mem_crateImports_iff {s : Struct} {owned : List Declaration} {p : String} :
    p ∈ crateImports s owned ↔ ∃ type ∈ typesWritten s owned, p ∈ type.paths := by
  rw [crateImports, mem_sortedSet, ← List.mem_flatMap, typesWritten, List.flatMap_append,
    List.flatMap_map, List.flatMap_assoc]
  simp only [List.flatMap_map]

/-- How a node of a type is known in the module of a struct, whose file is `text`. -/
inductive Bound (plan : Plan) (framework : Framework) (files : List (String × String)) (s : Struct)
    (text : String) (u : TypeExpr) : Prop
  | builtin (hpath : u.path = none) (hdeclaration : u.declaration = none)
    (hname : u.name ∈ builtinNames)
  | crate {p : String} {names : List String} (hpath : u.path = some p)
    (hname : u.name = lastSegment p)
    (himport : p ∈ crateImports s (plan.ownedBy s.moduleName)) (hmem : lastSegment p ∈ names)
    (hline : HasLines text [useLine (splitPath p).1 names])
  | here {d : Declaration} (hdeclaration : u.declaration = some d.name)
    (hname : u.name = d.identifier) (howned : d ∈ plan.ownedBy s.moduleName)
    (hrenders : Renders framework text d)
  | sibling {d : Declaration} {o : Struct} {text' : String}
    (hdeclaration : u.declaration = some d.name) (hname : u.name = d.identifier)
    (ho : o ∈ plan.structs) (howned : d ∈ plan.ownedBy o.moduleName)
    (hfile : (o.moduleName ++ ".rs", text') ∈ files) (hrenders : Renders framework text' d)
    (hline : HasLines text [s!"use super::{o.moduleName}::{d.identifier};"])

/-- A file is the module of a struct and is closed: names brought in are distinct from each other
and from those of the prelude, and all nodes of all types are bound. -/
structure Plan.ClosedFile (plan : Plan) (framework : Framework) (files : List (String × String))
    (s : Struct) (imported : List SiblingImport) (file : String × String) : Prop where
  imports : plan.importedBy s = .ok imported
  name : file.1 = s.moduleName ++ ".rs"
  text : tableFile framework s (plan.ownedBy s.moduleName) imported = .ok file.2
  distinct : (broughtNames s (plan.ownedBy s.moduleName) imported).Nodup
  prelude : ∀ n ∈ broughtNames s (plan.ownedBy s.moduleName) imported, n ∉ Plan.preludeNames
  bound : ∀ type ∈ typesWritten s (plan.ownedBy s.moduleName), ∀ u ∈ type.nodes,
    Bound plan framework files s file.2 u

/-! ## Nodes lead to needed declarations -/

/-- The type of every column of a struct is mapped soundly. -/
theorem StructOf.exists_sound {registry : Registry} {table : Table} {s : Struct}
    (h : StructOf registry table s) {column : Column} (hcolumn : column ∈ table.columns) :
    ∃ f ∈ s.fields, ∃ m : Mapped, m.Sound registry column.type ∧
      f.type = (m.nullable (fieldTakesNull column)).type := by
  obtain ⟨f, hf, hfield⟩ := exists_right_of_mem h.fields hcolumn
  obtain ⟨m, hm, htype⟩ := hfield.type_eq
  obtain ⟨m', -, hsound, rfl⟩ := exists_sound_of_mapNullable hm
  exact ⟨f, hf, m', hsound, htype⟩

/-- A node written in the module of a struct needs a declaration only if the struct does. -/
theorem Plan.Built.grounded {snapshot : Snapshot} {singular : Bool} {excluded : List String}
    {plan : Plan} (h : plan.Built snapshot singular excluded)
    (hmodules : (plan.structs.map Struct.moduleName).Nodup) {s : Struct} (hs : s ∈ plan.structs)
    {type : TypeExpr} (htype : type ∈ typesWritten s (plan.ownedBy s.moduleName)) {u : TypeExpr}
    (hu : u ∈ type.nodes) :
    ∃ ds, Grounded ds u ∧ ∀ d ∈ ds, Declares snapshot.types d ∧ d.name ∈ s.declarations := by
  obtain ⟨t, -, hts⟩ := h.exists_table hs
  have hneeds : ∀ {column : Column} {m : Mapped}, column ∈ t.columns →
      m.Sound snapshot.types column.type →
      ∀ d ∈ m.declarations, Declares snapshot.types d ∧ d.name ∈ s.declarations := by
    intro column m hcolumn hsound d hd
    refine ⟨hsound.declares d hd, (hts.declarations _).2 ⟨column, hcolumn, ?_⟩⟩
    exact (hsound.names _).1 (List.mem_map_of_mem hd)
  rcases List.mem_append.1 htype with hfield | howned
  · obtain ⟨f, hf, rfl⟩ := List.mem_map.1 hfield
    obtain ⟨column, hcolumn, hfieldOf⟩ := exists_left_of_mem hts.fields hf
    obtain ⟨m, hm, htype⟩ := hfieldOf.type_eq
    obtain ⟨m', -, hsound, rfl⟩ := exists_sound_of_mapNullable hm
    exact ⟨_, hsound.nullable _ u (htype ▸ hu), hneeds hcolumn hsound⟩
  · obtain ⟨d, hd, hfield⟩ := List.mem_flatMap.1 howned
    obtain ⟨f, hf, rfl⟩ := List.mem_map.1 hfield
    obtain ⟨hdecl, ho⟩ := (h.mem_ownedBy_moduleName_iff hmodules hs).1 hd
    obtain ⟨column, hcolumn, hreach⟩ := (hts.declarations _).1 (mem_of_firstNeeding ho).2
    obtain ⟨-, -, m, hsound, -⟩ := hts.exists_sound hcolumn
    obtain ⟨d', hd', hname⟩ := List.mem_map.1 ((hsound.names _).2 hreach)
    obtain rfl := (hsound.declares d' hd').unique hdecl hname
    exact ⟨_, hsound.grounded_fields hd' f hf u hu, hneeds hcolumn hsound⟩

/-- A declaration that a struct needs is written in its module or in another one it imports from. -/
theorem Plan.Built.bound_of_needed {snapshot : Snapshot} {singular : Bool} {excluded : List String}
    {plan : Plan} (h : plan.Built snapshot singular excluded)
    (hmodules : (plan.structs.map Struct.moduleName).Nodup) {framework : Framework}
    {files : List (String × String)} (hfiles : plan.files framework = .ok files) {s : Struct}
    (hs : s ∈ plan.structs) {text : String}
    (htext : tableFile framework s (plan.ownedBy s.moduleName) (importsOf plan.structs s) =
      .ok text)
    {d : Declaration} (hd : Declares snapshot.types d) (hn : d.name ∈ s.declarations) {u : TypeExpr}
    (hdecl : u.declaration = some d.name) (hname : u.name = d.identifier) :
    Bound plan framework files s text u := by
  obtain ⟨o, ho⟩ := exists_firstNeeding hs hn
  have howned : d ∈ plan.ownedBy o.moduleName := (h.mem_ownedBy_iff hmodules).2 ⟨hd, o, ho, rfl⟩
  by_cases hm : o.moduleName = s.moduleName
  · rw [hm] at howned
    exact .here hdecl hname howned (renders_of_mem_owned htext howned)
  · obtain ⟨file, hmem, hfile⟩ := h.exists_structFile hmodules hfiles (mem_of_firstNeeding ho).1
    obtain ⟨imported, text', -, htext', rfl⟩ := structFile_eq_ok_iff.1 hfile
    have himport : (o.moduleName, d.identifier) ∈ importsOf plan.structs s :=
      (mem_importsOf_iff hs).2 ⟨d.name, hn, o, ho, hm, by rw [hd.identifier_eq]⟩
    exact .sibling hdecl hname (mem_of_firstNeeding ho).1 howned hmem
      (renders_of_mem_owned htext' howned) (hasLines_siblingImport htext himport)

/-! ## Files -/

/-- **Name closure**: with plain names, every file but the index is the closed module of a
struct. -/
theorem generate_names_closed {snapshot : Snapshot} {options : Options} {artifacts : Artifacts}
    (hplain : snapshot.PlainlyNamed) (h : generate snapshot options = .ok artifacts) :
    ∃ plan, planOf snapshot options.singular options.excluded = .ok plan ∧
      artifacts.structs = plan.structs ∧
      ∀ file ∈ artifacts.files, file.1 ≠ indexFileName → ∃ s ∈ plan.structs, ∃ imported,
        plan.ClosedFile options.framework artifacts.files s imported file := by
  obtain ⟨plan, hplan, hfiles, hstructs, -⟩ := generate_eq_ok_iff.1 h
  have hbuilt := built_of_planOf hplan
  have hmodules := hbuilt.nodup_moduleNames (Plan.Built.nodup_tableTexts hplain)
  refine ⟨plan, hplan, hstructs, ?_⟩
  intro file hfile hindex
  rcases (hbuilt.mem_files_iff hmodules hfiles).1 hfile with rfl | ⟨s, hs, hstructFile⟩
  · exact absurd rfl hindex
  obtain ⟨imported, text, himported, htext, rfl⟩ := structFile_eq_ok_iff.1 hstructFile
  have himports := hbuilt.importedBy_eq hmodules hs
  obtain rfl : importsOf plan.structs s = imported := Except.ok.inj (himports ▸ himported)
  have hnodup := List.nodup_append.1 (hbuilt.nodup_broughtNames hplain hs)
  refine ⟨s, hs, _, himports, rfl, htext, hnodup.2.1, ?_, ?_⟩
  · intro n hn hprelude
    exact hnodup.2.2 n hprelude n hn rfl
  intro type htype u hu
  obtain ⟨ds, hgrounded, hds⟩ := hbuilt.grounded hmodules hs htype hu
  cases hgrounded with
  | builtin hpath hdecl hname => exact .builtin hpath hdecl hname
  | @crate p hpath hne hdecl hname =>
    have himport : p ∈ crateImports s (plan.ownedBy s.moduleName) :=
      mem_crateImports_iff.2 ⟨type, htype, TypeExpr.mem_paths_iff.2 ⟨hne, u, hu, hpath⟩⟩
    obtain ⟨names, hmem, hline⟩ := hasLines_useLine htext himport
    exact .crate hpath hname himport hmem hline
  | generated hd hpath hdecl hname =>
    obtain ⟨hdeclares, hneeded⟩ := hds _ hd
    exact hbuilt.bound_of_needed hmodules hfiles hs htext hdeclares hneeded hdecl hname

/-- Both modules are closed; that of the visits imports from a crate and from the other one. -/
theorem sharedMood_names_closed :
    sharedMood.PlainlyNamed ∧ ∃ artifacts, generate sharedMood {} = .ok artifacts ∧
      artifacts.files = sharedMoodFiles ∧
      ∃ plan, planOf sharedMood false [] = .ok plan ∧ artifacts.structs = plan.structs ∧
      ∀ file ∈ sharedMoodFiles, file.1 ≠ indexFileName → ∃ s ∈ plan.structs, ∃ imported,
        plan.ClosedFile .plain sharedMoodFiles s imported file := by
  obtain ⟨artifacts, h, hfiles⟩ := exists_generate_sharedMood
  obtain ⟨plan, hplan, hstructs, hclosed⟩ := generate_names_closed sharedMood_plainlyNamed h
  exact ⟨sharedMood_plainlyNamed, artifacts, h, hfiles, plan, hplan, hstructs, hfiles ▸ hclosed⟩

end SchemaStructs.Generate
