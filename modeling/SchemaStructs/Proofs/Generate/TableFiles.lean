import SchemaStructs.Proofs.Generate.ModuleNames
import SchemaStructs.Proofs.Generate.SourceText

/-!
# Files of the included tables

Identifiers are assigned and compared by the text of a table name. No table is lost to the file of
another exactly if these texts are distinct. Distinct names are not enough: the tables `b.c` of
schema `a` and `c` of schema `a.b` have one text, so the second shares its struct and its module
with the first.
-/

namespace SchemaStructs.Generate

open Catalog

/-- Every one of some tables has a struct, a module and a file of its own. -/
structure KeepsTables (framework : Framework) (tables : List Table) (artifacts : Artifacts) :
    Prop where
  structs : artifacts.structs.map Struct.table = tables.map Table.name
  names : (artifacts.structs.map Struct.name).Nodup
  modules : (artifacts.structs.map Struct.moduleName).Nodup
  modulesWithoutCase : (artifacts.structs.map fun s => Text.lowercase s.moduleName).Nodup
  files : artifacts.files.length = tables.length + 1
  file : ∀ s ∈ artifacts.structs, ∃ text, (s.moduleName ++ ".rs", text) ∈ artifacts.files ∧
    HasLines text (s.lines framework)

namespace Plan.Built

variable {snapshot : Snapshot} {singular : Bool} {excluded : List String} {plan : Plan}

/-- Tables with one text share their identifier. -/
theorem nodup_texts_of_nodup_names (h : plan.Built snapshot singular excluded)
    (hnames : (plan.structs.map Struct.name).Nodup) :
    ((includedTables snapshot.tables excluded).map fun t => t.name.text).Nodup := by
  have hget := map_eq_map_of_related h.structs (f := fun t => (Entries.ofPairs
    (structNames singular (includedTables snapshot.tables excluded))).get? t.name.text)
    (g := fun s => some s.name) fun t s hts => hts.1
  have hsome : (plan.structs.map fun s => some s.name).Nodup := by
    have hmap := hnames.map (Option.some_injective String)
    rwa [List.map_map] at hmap
  rw [← hget] at hsome
  refine List.Nodup.of_map (Entries.ofPairs
    (structNames singular (includedTables snapshot.tables excluded))).get? ?_
  rwa [List.map_map]

theorem length_structs (h : plan.Built snapshot singular excluded) :
    plan.structs.length = (includedTables snapshot.tables excluded).length :=
  h.structs.length_eq.symm

theorem length_files (h : plan.Built snapshot singular excluded)
    (hmodules : (plan.structs.map Struct.moduleName).Nodup) {framework : Framework}
    {files : List (String × String)} (hfiles : plan.files framework = .ok files) :
    files.length = (includedTables snapshot.tables excluded).length + 1 := by
  obtain ⟨structFiles, hstructFiles, hperm⟩ := h.files_perm hmodules hfiles
  rw [hperm.length_eq, List.length_append, List.length_singleton, ← hstructFiles.length_eq,
    h.length_structs]

end Plan.Built

/-- No file replaces another only if the structs have distinct modules. -/
theorem Plan.Built.nodup_names_of_length_files {snapshot : Snapshot} {singular : Bool}
    {excluded : List String} {plan : Plan} (h : plan.Built snapshot singular excluded)
    {framework : Framework} {files : List (String × String)}
    (hfiles : plan.files framework = .ok files)
    (hlength : files.length = (includedTables snapshot.tables excluded).length + 1) :
    (plan.structs.map Struct.name).Nodup := by
  obtain ⟨structFiles, hstructFiles, rfl⟩ := files_eq_ok_iff.1 hfiles
  rw [length_sortOn, ← h.length_structs, hstructFiles.length_eq] at hlength
  have hkeys := Entries.nodup_keys_of_length_ofPairs (by rw [hlength, List.length_append]; rfl)
  rw [Entries.keys, List.map_append, map_fst_structFiles hstructFiles] at hkeys
  have hnames : (plan.structs.map fun s => Identifier.moduleName s.name ++ ".rs").Nodup := by
    rw [List.map_congr_left fun s hs => by rw [← h.moduleName_eq hs]]
    exact (List.nodup_append.1 hkeys).1
  refine List.Nodup.of_map (fun name => Identifier.moduleName name ++ ".rs") ?_
  rwa [List.map_map]

/-- No table is lost, and no file either, exactly if no two included tables have the same text. -/
theorem generate_keepsTables_iff {snapshot : Snapshot} {options : Options} {artifacts : Artifacts}
    (h : generate snapshot options = .ok artifacts) :
    (KeepsTables options.framework (includedTables snapshot.tables options.excluded) artifacts ↔
      ((includedTables snapshot.tables options.excluded).map fun t => t.name.text).Nodup) ∧
    (artifacts.files.length = (includedTables snapshot.tables options.excluded).length + 1 ↔
      ((includedTables snapshot.tables options.excluded).map fun t => t.name.text).Nodup) := by
  obtain ⟨plan, hplan, hfiles, hstructs, -⟩ := generate_eq_ok_iff.1 h
  have hbuilt := built_of_planOf hplan
  refine ⟨⟨?_, ?_⟩, ⟨?_, ?_⟩⟩
  · intro hkeeps
    exact hbuilt.nodup_texts_of_nodup_names (hstructs ▸ hkeeps.names)
  · intro htexts
    have hmodules := hbuilt.nodup_moduleNames htexts
    constructor
    case files => exact hbuilt.length_files hmodules hfiles
    all_goals rw [hstructs]
    case structs => exact hbuilt.map_table
    case names => exact hbuilt.nodup_names htexts
    case modules => exact hmodules
    case modulesWithoutCase => exact hbuilt.nodup_lowercase_moduleNames htexts
    case file =>
      intro s hs
      obtain ⟨file, hfile, hstructFile⟩ := hbuilt.exists_structFile hmodules hfiles hs
      obtain ⟨imported, text, -, htext, rfl⟩ := structFile_eq_ok_iff.1 hstructFile
      exact ⟨text, hfile, hasLines_struct htext⟩
  · intro hlength
    exact hbuilt.nodup_texts_of_nodup_names (hbuilt.nodup_names_of_length_files hfiles hlength)
  · intro htexts
    exact hbuilt.length_files (hbuilt.nodup_moduleNames htexts) hfiles

theorem sharedMood_keepsTables :
    ∃ artifacts, generate sharedMood {} = .ok artifacts ∧
      KeepsTables .plain (includedTables sharedMood.tables []) artifacts := by
  obtain ⟨artifacts, h, -⟩ := exists_generate_sharedMood
  obtain ⟨hkeeps, -⟩ := generate_keepsTables_iff h
  exact ⟨artifacts, h, hkeeps.2 (by decide +kernel)⟩

/-! ### Two tables with one text -/

def dottedTables : Snapshot where
  tables := [{ name := ⟨"a", "b.c"⟩ }, { name := ⟨"a.b", "c"⟩ }]
  types := { entries := [] }

/-- Distinct names do not keep tables apart: both tables have the struct `C`, and there is one
file. -/
theorem not_forall_keepsTables :
    ¬ ∀ (snapshot : Snapshot) (options : Options) (artifacts : Artifacts),
      (snapshot.tables.map Table.name).Nodup → generate snapshot options = .ok artifacts →
      KeepsTables options.framework (includedTables snapshot.tables options.excluded)
        artifacts := by
  intro hall
  obtain ⟨artifacts, h, hnames⟩ : ∃ artifacts, generate dottedTables {} = .ok artifacts ∧
      artifacts.structs.map Struct.name = ["C", "C"] :=
    map_eq_ok_iff.1 (by decide +kernel)
  have hnodup := (hall dottedTables {} artifacts (by decide) h).names
  rw [hnames] at hnodup
  exact absurd hnodup (by decide)

end SchemaStructs.Generate
