import SchemaStructs.Generate.Artifacts
import SchemaStructs.Proofs.Generate.Structs
import SchemaStructs.Proofs.Identifier.Characters
import SchemaStructs.Proofs.Sorting

/-!
# What a plan guarantees

Planning succeeds only if the structs of the included tables can be built and four checks of names
pass: struct identifiers, modules without regard to case, types of the whole crate, and the names
that meet in one module. `Plan.Built` collects what is known of a plan then. All the checks compare
the sources of names, so what they say of identifiers depends on which sources are told apart.
-/

namespace SchemaStructs.Generate

open Catalog Mapping Comparison

/-! ## Included tables -/

theorem mem_includedTables {tables : List Table} {excluded : List String} {t : Table} :
    t ∈ includedTables tables excluded ↔ t ∈ tables ∧ isExcluded excluded t.name = false := by
  rw [includedTables, mem_sortOn, List.mem_filter, Bool.not_eq_true']

theorem nodup_includedTables {tables : List Table} (h : (tables.map Table.name).Nodup)
    (excluded : List String) : ((includedTables tables excluded).map Table.name).Nodup := by
  have hperm := (sortOn_perm QualifiedName.le Table.name
    (tables.filter (!isExcluded excluded ·.name))).map Table.name
  exact hperm.nodup_iff.2 (h.sublist (List.filter_sublist.map Table.name))

/-- Tables with distinct names stand strictly in the order of their names. -/
theorem pairwise_includedTables {tables : List Table} (h : (tables.map Table.name).Nodup)
    (excluded : List String) :
    (includedTables tables excluded).Pairwise fun t t' => Before QualifiedName.le t.name t'.name :=
  pairwise_before_sortOn QualifiedName.le_linear (h.sublist (List.filter_sublist.map Table.name))

/-- Identifiers proposed for the structs of some tables. -/
def structNames (singular : Bool) (tables : List Table) : List Identifier.Named :=
  tables.map fun t => (t.name.text, Identifier.tableName singular t.name.name)

/-! ## Plans -/

/-- What holds of a plan for the included tables of a snapshot. -/
structure Plan.Built (snapshot : Snapshot) (singular : Bool) (excluded : List String)
    (plan : Plan) : Prop where
  identifiers : Identifier.Consistent .sensitive
    (structNames singular (includedTables snapshot.tables excluded))
  structs : List.Forall₂ (fun t s =>
      (Entries.ofPairs (structNames singular (includedTables snapshot.tables excluded))).get?
        t.name.text = some s.name ∧ StructOf snapshot.types t s)
    (includedTables snapshot.tables excluded) plan.structs
  declarations : Draft.Holds snapshot.types ⟨plan.declarations, plan.warnings⟩
    fun n => ∃ s ∈ plan.structs, n ∈ s.declarations
  modules : Identifier.Consistent .insensitive
    (plan.structs.map (fun s => (s.table.text, s.moduleName)) ++ [(indexFileName, "mod")])
  types : Identifier.Consistent .sensitive
    (plan.structs.map (fun s => (s.table.text, s.name)) ++
      plan.declarations.map fun e => (s!"type {e.1.text}", e.2.identifier))
  ownership : plan.structs.foldlM (Ownership.claim plan.declarations) {} = .ok plan.ownership
  names : ∀ s ∈ plan.structs, ∃ names, plan.namesIn s = .ok names ∧
    Identifier.Consistent .sensitive names

theorem checkNames_eq_ok_iff {plan : Plan} {s : Struct} :
    plan.checkNames s = .ok () ↔
      ∃ names, plan.namesIn s = .ok names ∧ Identifier.Consistent .sensitive names := by
  rw [Plan.checkNames, bind_eq_ok_iff]
  refine exists_congr fun names => and_congr_right fun _ => ?_
  rw [bind_eq_ok_iff]
  constructor
  · rintro ⟨identifiers, h, -⟩
    exact (assign_eq_ok_iff.1 h).1
  · exact fun h => ⟨_, assign_eq_ok_iff.2 ⟨h, rfl⟩, rfl⟩

/-- What planning does, one step after the other. -/
structure Plan.Steps (snapshot : Snapshot) (singular : Bool) (excluded : List String)
    (plan : Plan) : Prop where
  identifiers : Identifier.Consistent .sensitive
    (structNames singular (includedTables snapshot.tables excluded))
  structs : buildStructs snapshot.types
    (.ofPairs (structNames singular (includedTables snapshot.tables excluded))) {}
    (includedTables snapshot.tables excluded) =
      .ok (⟨plan.declarations, plan.warnings⟩, plan.structs)
  modules : Identifier.Consistent .insensitive
    (plan.structs.map (fun s => (s.table.text, s.moduleName)) ++ [(indexFileName, "mod")])
  types : Identifier.Consistent .sensitive
    (plan.structs.map (fun s => (s.table.text, s.name)) ++
      plan.declarations.map fun e => (s!"type {e.1.text}", e.2.identifier))
  ownership : plan.structs.foldlM (Ownership.claim plan.declarations) {} = .ok plan.ownership
  names : ∀ s ∈ plan.structs, plan.checkNames s = .ok ()

theorem planOf_eq_ok_iff {snapshot : Snapshot} {singular : Bool} {excluded : List String}
    {plan : Plan} :
    planOf snapshot singular excluded = .ok plan ↔ plan.Steps snapshot singular excluded := by
  constructor
  · intro h
    obtain ⟨identifiers, hids, h⟩ := bind_eq_ok_iff.1 h
    obtain ⟨⟨draft, structs⟩, hstructs, h⟩ := bind_eq_ok_iff.1 h
    obtain ⟨modules, hmodules, h⟩ := bind_eq_ok_iff.1 h
    obtain ⟨types, htypes, h⟩ := bind_eq_ok_iff.1 h
    obtain ⟨ownership, howner, h⟩ := bind_eq_ok_iff.1 h
    obtain ⟨⟨⟩, hcheck, h⟩ := bind_eq_ok_iff.1 h
    cases pure_eq_ok_iff.1 h
    obtain ⟨hconsistent, rfl⟩ := assign_eq_ok_iff.1 hids
    exact {
      identifiers := hconsistent
      structs := hstructs
      modules := (assign_eq_ok_iff.1 hmodules).1
      types := (assign_eq_ok_iff.1 htypes).1
      ownership := howner
      names := forM_eq_ok_iff.1 hcheck }
  · intro h
    refine bind_eq_ok_iff.2 ⟨_, assign_eq_ok_iff.2 ⟨h.identifiers, rfl⟩, ?_⟩
    refine bind_eq_ok_iff.2 ⟨_, h.structs, ?_⟩
    refine bind_eq_ok_iff.2 ⟨_, assign_eq_ok_iff.2 ⟨h.modules, rfl⟩, ?_⟩
    refine bind_eq_ok_iff.2 ⟨_, assign_eq_ok_iff.2 ⟨h.types, rfl⟩, ?_⟩
    refine bind_eq_ok_iff.2 ⟨_, h.ownership, ?_⟩
    exact bind_eq_ok_iff.2 ⟨⟨⟩, forM_eq_ok_iff.2 h.names, rfl⟩

theorem built_of_planOf {snapshot : Snapshot} {singular : Bool} {excluded : List String}
    {plan : Plan} (h : planOf snapshot singular excluded = .ok plan) :
    plan.Built snapshot singular excluded := by
  have hsteps := planOf_eq_ok_iff.1 h
  obtain ⟨hbuilt, hdraft⟩ := buildStructs_spec .empty hsteps.structs
  exact {
    identifiers := hsteps.identifiers
    structs := hbuilt
    declarations := hdraft.congr fun n => by rw [false_or]
    modules := hsteps.modules
    types := hsteps.types
    ownership := hsteps.ownership
    names := fun s hs => checkNames_eq_ok_iff.1 (hsteps.names s hs) }

namespace Plan.Built

variable {snapshot : Snapshot} {singular : Bool} {excluded : List String} {plan : Plan}

theorem structOf (h : plan.Built snapshot singular excluded) :
    List.Forall₂ (StructOf snapshot.types) (includedTables snapshot.tables excluded) plan.structs :=
  h.structs.imp fun _ _ hts => hts.2

theorem exists_table (h : plan.Built snapshot singular excluded) {s : Struct}
    (hs : s ∈ plan.structs) :
    ∃ t ∈ includedTables snapshot.tables excluded, StructOf snapshot.types t s :=
  exists_left_of_mem h.structOf hs

/-- The structs are those of the included tables, in their order. -/
theorem map_table (h : plan.Built snapshot singular excluded) :
    plan.structs.map Struct.table = (includedTables snapshot.tables excluded).map Table.name :=
  (map_eq_map_of_related h.structOf fun _ _ hts => hts.table_eq.symm).symm

theorem map_tableText (h : plan.Built snapshot singular excluded) :
    plan.structs.map (fun s => s.table.text) =
      (includedTables snapshot.tables excluded).map fun t => t.name.text :=
  (map_eq_map_of_related h.structOf fun _ _ hts => by rw [hts.table_eq]).symm

theorem moduleName_eq (h : plan.Built snapshot singular excluded) {s : Struct}
    (hs : s ∈ plan.structs) : s.moduleName = Identifier.moduleName s.name := by
  obtain ⟨t, -, hts⟩ := h.exists_table hs
  exact hts.moduleName_eq

/-! ### Distinct names

These need only that the included tables are told apart by their text. -/

section Texts

variable (htexts : ((includedTables snapshot.tables excluded).map fun t => t.name.text).Nodup)

include htexts

theorem nodup_names (h : plan.Built snapshot singular excluded) :
    (plan.structs.map Struct.name).Nodup := by
  have hsub : Identifier.Consistent .sensitive (plan.structs.map fun s => (s.table.text, s.name)) :=
    h.types.mono (List.subset_append_left _ _)
  have hkeys := hsub.nodup_keys (by simpa [Function.comp_def, h.map_tableText] using htexts)
  rw [List.map_map] at hkeys
  refine List.Nodup.of_map Identifier.bare ?_
  rw [List.map_map]
  exact hkeys

/-- Module names differ by more than case. -/
theorem nodup_lowercase_moduleNames (h : plan.Built snapshot singular excluded) :
    (plan.structs.map fun s => Text.lowercase s.moduleName).Nodup := by
  have hsub : Identifier.Consistent .insensitive
      (plan.structs.map fun s => (s.table.text, s.moduleName)) :=
    h.modules.mono (List.subset_append_left _ _)
  have hkeys := hsub.nodup_keys (by simpa [Function.comp_def, h.map_tableText] using htexts)
  rw [List.map_map] at hkeys
  rwa [List.map_congr_left fun s hs => ?_]
  show Text.lowercase s.moduleName = Text.lowercase (Identifier.bare s.moduleName)
  rw [h.moduleName_eq hs, (Identifier.isPlainName_moduleName s.name).bare_eq]

theorem nodup_moduleNames (h : plan.Built snapshot singular excluded) :
    (plan.structs.map Struct.moduleName).Nodup := by
  refine List.Nodup.of_map Text.lowercase ?_
  rw [List.map_map]
  exact h.nodup_lowercase_moduleNames htexts

end Texts

end Plan.Built

/-! ## Files -/

theorem generate_eq_ok_iff {snapshot : Snapshot} {options : Options} {artifacts : Artifacts} :
    generate snapshot options = .ok artifacts ↔
      ∃ plan, planOf snapshot options.singular options.excluded = .ok plan ∧
        plan.files options.framework = .ok artifacts.files ∧
        artifacts.structs = plan.structs ∧ artifacts.warnings = plan.warnings := by
  rw [generate, bind_eq_ok_iff]
  refine exists_congr fun plan => and_congr_right fun _ => ?_
  rw [bind_eq_ok_iff]
  constructor
  · rintro ⟨files, hfiles, h⟩
    cases pure_eq_ok_iff.1 h
    exact ⟨hfiles, rfl, rfl⟩
  · rintro ⟨hfiles, hstructs, hwarnings⟩
    obtain ⟨files, structs, warnings⟩ := artifacts
    cases hstructs
    cases hwarnings
    exact ⟨files, hfiles, rfl⟩

theorem structFile_eq_ok_iff {plan : Plan} {framework : Framework} {s : Struct}
    {file : String × String} :
    plan.structFile framework s = .ok file ↔
      ∃ imported text, plan.importedBy s = .ok imported ∧
        tableFile framework s (plan.ownedBy s.moduleName) imported = .ok text ∧
        file = (s.moduleName ++ ".rs", text) := by
  rw [Plan.structFile, bind_eq_ok_iff]
  refine exists_congr fun imported => ?_
  rw [bind_eq_ok_iff]
  constructor
  · rintro ⟨himported, text, htext, h⟩
    exact ⟨text, himported, htext, (pure_eq_ok_iff.1 h).symm⟩
  · rintro ⟨text, himported, htext, rfl⟩
    exact ⟨himported, text, htext, rfl⟩

/-- A file for each struct of a plan, in the order of the structs. -/
theorem files_eq_ok_iff {plan : Plan} {framework : Framework} {files : List (String × String)} :
    plan.files framework = .ok files ↔
      ∃ structFiles, List.Forall₂ (fun s f => plan.structFile framework s = .ok f)
          plan.structs structFiles ∧
        files = sortOn .text Prod.fst
          (Entries.ofPairs (structFiles ++
            [(indexFileName, indexFile plan.structs plan.ownership.owned)])) := by
  rw [Plan.files, bind_eq_ok_iff]
  refine exists_congr fun structFiles => ?_
  rw [mapM_eq_ok_iff, pure_eq_ok_iff, eq_comm]

theorem map_fst_structFiles {plan : Plan} {framework : Framework} {structs : List Struct}
    {structFiles : List (String × String)}
    (h : List.Forall₂ (fun s f => plan.structFile framework s = .ok f) structs structFiles) :
    structFiles.map Prod.fst = structs.map fun s => s.moduleName ++ ".rs" := by
  refine (map_eq_map_of_related h ?_).symm
  intro s f hf
  obtain ⟨-, -, -, -, rfl⟩ := structFile_eq_ok_iff.1 hf
  rfl

/-- No module takes the name of the index. -/
theorem Plan.Built.fileName_ne_indexFileName {snapshot : Snapshot} {singular : Bool}
    {excluded : List String} {plan : Plan} (h : plan.Built snapshot singular excluded) {s : Struct}
    (hs : s ∈ plan.structs) : s.moduleName ++ ".rs" ≠ indexFileName := by
  intro he
  rw [h.moduleName_eq hs, show indexFileName = "mod" ++ ".rs" by decide +kernel] at he
  exact Identifier.moduleName_ne_mod s.name ((String.append_left_inj _).1 he)

section Modules

variable {snapshot : Snapshot} {singular : Bool} {excluded : List String} {plan : Plan}
  {framework : Framework} {files structFiles : List (String × String)}
  (hmodules : (plan.structs.map Struct.moduleName).Nodup)

include hmodules

theorem Plan.Built.nodup_fileNames (h : plan.Built snapshot singular excluded)
    (hfiles : List.Forall₂ (fun s f => plan.structFile framework s = .ok f) plan.structs
      structFiles)
    (index : String) : (Entries.keys (structFiles ++ [(indexFileName, index)])).Nodup := by
  have hnames : (plan.structs.map fun s => s.moduleName ++ ".rs").Nodup := by
    rw [List.Nodup, List.pairwise_map] at hmodules ⊢
    exact hmodules.imp fun hne he => hne ((String.append_left_inj _).1 he)
  rw [Entries.keys, List.map_append, map_fst_structFiles hfiles]
  refine hnames.append (List.nodup_singleton _) ?_
  intro name hname hindex
  obtain ⟨s, hs, rfl⟩ := List.mem_map.1 hname
  exact h.fileName_ne_indexFileName hs (List.mem_singleton.1 hindex)

/-- With distinct modules no file of a struct replaces another, nor does the index. -/
theorem Plan.Built.files_perm (h : plan.Built snapshot singular excluded)
    (hfiles : plan.files framework = .ok files) :
    ∃ structFiles, List.Forall₂ (fun s f => plan.structFile framework s = .ok f)
        plan.structs structFiles ∧
      files.Perm
        (structFiles ++ [(indexFileName, indexFile plan.structs plan.ownership.owned)]) := by
  obtain ⟨structFiles, hstructFiles, rfl⟩ := files_eq_ok_iff.1 hfiles
  refine ⟨structFiles, hstructFiles, ?_⟩
  rw [Entries.ofPairs_eq_self (h.nodup_fileNames hmodules hstructFiles _)]
  exact sortOn_perm _ _ _

theorem Plan.Built.nodup_map_fst_files (h : plan.Built snapshot singular excluded)
    (hfiles : plan.files framework = .ok files) : (files.map Prod.fst).Nodup := by
  obtain ⟨structFiles, hstructFiles, hperm⟩ := h.files_perm hmodules hfiles
  exact (hperm.map _).nodup_iff.2 (h.nodup_fileNames hmodules hstructFiles _)

/-- The files are the index and one file for each struct. -/
theorem Plan.Built.mem_files_iff (h : plan.Built snapshot singular excluded)
    (hfiles : plan.files framework = .ok files) {file : String × String} :
    file ∈ files ↔ file = (indexFileName, indexFile plan.structs plan.ownership.owned) ∨
      ∃ s ∈ plan.structs, plan.structFile framework s = .ok file := by
  obtain ⟨structFiles, hstructFiles, hperm⟩ := h.files_perm hmodules hfiles
  rw [hperm.mem_iff, List.mem_append, List.mem_singleton, or_comm]
  refine or_congr_right ⟨exists_left_of_mem hstructFiles, ?_⟩
  rintro ⟨s, hs, hfile⟩
  obtain ⟨file', hmem, hfile'⟩ := exists_right_of_mem hstructFiles hs
  rw [hfile] at hfile'
  exact Except.ok.inj hfile' ▸ hmem

/-- Every struct has its file. -/
theorem Plan.Built.exists_structFile (h : plan.Built snapshot singular excluded)
    (hfiles : plan.files framework = .ok files) {s : Struct} (hs : s ∈ plan.structs) :
    ∃ file ∈ files, plan.structFile framework s = .ok file := by
  obtain ⟨structFiles, hstructFiles, -⟩ := h.files_perm hmodules hfiles
  obtain ⟨file, -, hfile⟩ := exists_right_of_mem hstructFiles hs
  exact ⟨file, (h.mem_files_iff hmodules hfiles).2 (Or.inr ⟨s, hs, hfile⟩), hfile⟩

end Modules

end SchemaStructs.Generate
