import SchemaStructs.Proofs.Generate.SingleOwner
import SchemaStructs.Proofs.Generate.TableFiles
import SchemaStructs.Proofs.Identifier.TypeNames

/-!
# Names in the index

Modules and types share one namespace of Rust, and the index brings both into it. Modules are
checked against modules and types against types, but none against the other. For names in ASCII the
only module that can have the name of a type is that of the struct itself, and it does for a table
such as `2024`.
-/

namespace SchemaStructs.Generate

open Catalog Mapping Identifier

/-- The names that the index of a plan brings into the namespace of modules and types: the modules
it declares, and what it exports of each. -/
def Plan.introducedNames (plan : Plan) : List String :=
  let entries := indexEntries plan.structs plan.ownership.owned
  entries.map Prod.fst ++ entries.flatMap Prod.snd

/-- Names of tables and types are plain, and in ASCII. -/
structure PlainInAscii (snapshot : Snapshot) : Prop where
  tables : ∀ t ∈ snapshot.tables, t.name.Plain ∧ IsAscii t.name.name.toList
  types : ∀ n ∈ snapshot.types.names, n.Plain ∧ IsAscii n.name.toList

/-! ## Tables that are left out -/

/-- A snapshot without the tables that are excluded. -/
def onlyIncluded (snapshot : Snapshot) (excluded : List String) : Snapshot :=
  { snapshot with tables := includedTables snapshot.tables excluded }

theorem includedTables_idem {tables : List Table} {excluded : List String}
    (h : ((includedTables tables excluded).map Table.name).Nodup) :
    includedTables (includedTables tables excluded) excluded = includedTables tables excluded := by
  have hfilter : (includedTables tables excluded).filter (!isExcluded excluded ·.name) =
      includedTables tables excluded := by
    refine List.filter_eq_self.2 fun t ht => ?_
    rw [(mem_includedTables.1 ht).2, Bool.not_false]
  rw [includedTables, hfilter]
  exact sortOn_eq_of_perm QualifiedName.le_linear (sortOn_perm _ _ _) h

/-- The plan depends on the included tables only. -/
theorem planOf_onlyIncluded {snapshot : Snapshot} {excluded : List String}
    (h : ((includedTables snapshot.tables excluded).map Table.name).Nodup) (singular : Bool) :
    planOf (onlyIncluded snapshot excluded) singular excluded =
      planOf snapshot singular excluded := by
  simp only [planOf, onlyIncluded, includedTables_idem h]

namespace PlainInAscii

variable {snapshot : Snapshot} (hnamed : PlainInAscii snapshot) {excluded : List String}

include hnamed

theorem onlyIncluded (excluded : List String) : PlainInAscii (onlyIncluded snapshot excluded) where
  tables := fun t ht => hnamed.tables t (mem_includedTables.1 ht).1
  types := hnamed.types

theorem plainlyNamed_onlyIncluded
    (h : ((includedTables snapshot.tables excluded).map Table.name).Nodup) :
    (Generate.onlyIncluded snapshot excluded).PlainlyNamed where
  nodup := h
  tables := fun t ht => (hnamed.tables t (mem_includedTables.1 ht).1).1
  types := fun n hn => (hnamed.types n hn).1

end PlainInAscii

/-! ## Modules and types -/

namespace Plan.Built

variable {snapshot : Snapshot} {singular : Bool} {excluded : List String} {plan : Plan}

/-- The names of structs are those proposed for tables. -/
theorem exists_tableName_eq (hplain : snapshot.PlainlyNamed)
    (h : plan.Built snapshot singular excluded) {s : Struct} (hs : s ∈ plan.structs) :
    ∃ t ∈ snapshot.tables, s.name = tableName singular t.name.name := by
  obtain ⟨t, -, hname, -⟩ := exists_left_of_mem h.structs hs
  have hkeys :
      (Entries.keys (structNames singular (includedTables snapshot.tables excluded))).Nodup := by
    rw [Entries.keys, structNames, List.map_map, Function.comp_def]
    exact nodup_tableTexts hplain
  rw [Entries.ofPairs_eq_self hkeys] at hname
  obtain ⟨t', ht', he⟩ := List.mem_map.1 (Entries.mem_of_get? hname)
  exact ⟨t', (mem_includedTables.1 ht').1, (Prod.mk.inj he).2.symm⟩

theorem isTypeName_name (hnamed : PlainInAscii snapshot) (hplain : snapshot.PlainlyNamed)
    (h : plan.Built snapshot singular excluded) {s : Struct} (hs : s ∈ plan.structs) :
    IsTypeName s.name.toList := by
  obtain ⟨t, ht, hname⟩ := h.exists_tableName_eq hplain hs
  rw [hname]
  exact isTypeName_tableName (hnamed.tables t ht).2 singular

theorem isTypeName_identifier (hnamed : PlainInAscii snapshot) (hplain : snapshot.PlainlyNamed)
    (h : plan.Built snapshot singular excluded) {m : String} {d : Declaration}
    (hd : d ∈ plan.ownedBy m) : IsTypeName d.identifier.toList := by
  obtain ⟨hdeclares, -⟩ := (h.mem_ownedBy_iff (h.nodup_moduleNames (nodup_tableTexts hplain))).1 hd
  rw [hdeclares.identifier_eq]
  exact isTypeName_typeName (hnamed.types _ (Entries.has_eq_true_iff.1 hdeclares.contains)).2

/-- What is exported under the name of a module is the struct of that module. -/
theorem name_eq_of_mem_exports (hnamed : PlainInAscii snapshot) (hplain : snapshot.PlainlyNamed)
    (h : plan.Built snapshot singular excluded) {s : Struct} (hs : s ∈ plan.structs)
    (hname : s.moduleName ∈ (indexEntries plan.structs plan.ownership.owned).flatMap Prod.snd) :
    s.name = s.moduleName := by
  obtain ⟨e, he, hname⟩ := List.mem_flatMap.1 hname
  obtain ⟨o, ho, rfl⟩ := List.mem_map.1 he
  rw [h.moduleName_eq hs] at hname ⊢
  refine eq_moduleName_of_isTypeName (h.isTypeName_name hnamed hplain hs) ?_
  rcases mem_exports_iff.1 hname with hname | ⟨d, hd, hname⟩
  · rw [hname]
    exact h.isTypeName_name hnamed hplain (mem_sortOn.1 ho)
  · rw [← hname]
    exact h.isTypeName_identifier hnamed hplain hd

/-- Without repeated names in the index no two tables have the same name. -/
theorem nodup_tableNames_of_nodup_introducedNames (h : plan.Built snapshot singular excluded)
    (hnodup : plan.introducedNames.Nodup) :
    ((includedTables snapshot.tables excluded).map Table.name).Nodup := by
  have hmodules := (List.nodup_append.1 hnodup).1
  rw [indexEntries, List.map_map] at hmodules
  have hnames : plan.structs.map (fun s => Identifier.moduleName s.name) =
      plan.structs.map Struct.moduleName :=
    List.map_congr_left fun s hs => (h.moduleName_eq hs).symm
  refine List.Nodup.of_map QualifiedName.text ?_
  rw [List.map_map, Function.comp_def]
  refine h.nodup_texts_of_nodup_names (List.Nodup.of_map Identifier.moduleName ?_)
  rw [List.map_map, Function.comp_def, hnames]
  exact ((sortOn_perm .text Struct.moduleName plan.structs).map _).nodup_iff.1 hmodules

theorem nodup_introducedNames (hnamed : PlainInAscii snapshot) (hplain : snapshot.PlainlyNamed)
    (h : plan.Built snapshot singular excluded) (hne : ∀ s ∈ plan.structs, s.name ≠ s.moduleName) :
    plan.introducedNames.Nodup := by
  have hordered := pairwise_indexEntries plan.ownership.owned
    (h.nodup_moduleNames (nodup_tableTexts hplain))
  have hmodules : ((indexEntries plan.structs plan.ownership.owned).map Prod.fst).Nodup :=
    hordered.imp fun hbefore => hbefore.2
  refine hmodules.append (h.nodup_exports hplain) ?_
  intro m hm hname
  obtain ⟨s, hs, rfl⟩ := mem_map_fst_indexEntries.1 hm
  exact hne s hs (h.name_eq_of_mem_exports hnamed hplain hs hname)

end Plan.Built

theorem Plan.name_ne_moduleName {plan : Plan} (h : plan.introducedNames.Nodup) {s : Struct}
    (hs : s ∈ plan.structs) : s.name ≠ s.moduleName := by
  intro he
  refine (List.nodup_append.1 h).2.2 s.moduleName (mem_map_fst_indexEntries.2 ⟨s, hs, rfl⟩)
    s.name ?_ he.symm
  exact List.mem_flatMap.2
    ⟨_, List.mem_map_of_mem (mem_sortOn.2 hs), mem_exports_iff.2 (Or.inl rfl)⟩

theorem indexFile_mem_files {plan : Plan} {framework : Framework} {files : List (String × String)}
    (h : plan.files framework = .ok files) :
    (indexFileName, indexText (indexEntries plan.structs plan.ownership.owned)) ∈ files := by
  obtain ⟨structFiles, -, rfl⟩ := files_eq_ok_iff.1 h
  rw [mem_sortOn, ← indexFile_eq]
  exact Entries.mem_ofPairs_append_singleton _ _ _

/-- For plain names in ASCII, the index introduces every name once exactly if the included tables
have distinct names and no struct has the name of its module. -/
theorem generate_nodup_introducedNames_iff {snapshot : Snapshot} {options : Options}
    {artifacts : Artifacts} (hnamed : PlainInAscii snapshot)
    (h : generate snapshot options = .ok artifacts) :
    ∃ plan, planOf snapshot options.singular options.excluded = .ok plan ∧
      artifacts.structs = plan.structs ∧
      (indexFileName, indexText (indexEntries plan.structs plan.ownership.owned)) ∈
        artifacts.files ∧
      (plan.introducedNames.Nodup ↔
        ((includedTables snapshot.tables options.excluded).map Table.name).Nodup ∧
          ∀ s ∈ artifacts.structs, s.name ≠ s.moduleName) := by
  obtain ⟨plan, hplan, hfiles, hstructs, -⟩ := generate_eq_ok_iff.1 h
  refine ⟨plan, hplan, hstructs, indexFile_mem_files hfiles, ?_, ?_⟩
  · intro hnodup
    refine ⟨(built_of_planOf hplan).nodup_tableNames_of_nodup_introducedNames hnodup, ?_⟩
    rw [hstructs]
    exact fun s hs => Plan.name_ne_moduleName hnodup hs
  · rintro ⟨hnames, hne⟩
    rw [hstructs] at hne
    rw [← planOf_onlyIncluded hnames] at hplan
    refine (built_of_planOf hplan).nodup_introducedNames ?_ ?_ hne
    · exact hnamed.onlyIncluded options.excluded
    · exact hnamed.plainlyNamed_onlyIncluded hnames

theorem sharedMood_plainInAscii : PlainInAscii sharedMood where
  tables := by decide
  types := by decide

theorem sharedMood_nodup_introducedNames_iff :
    PlainInAscii sharedMood ∧ ∃ artifacts, generate sharedMood {} = .ok artifacts ∧
      ∃ plan, planOf sharedMood false [] = .ok plan ∧ artifacts.structs = plan.structs ∧
        (indexFileName, indexText (indexEntries plan.structs plan.ownership.owned)) ∈
          artifacts.files ∧
        (plan.introducedNames.Nodup ↔
          ((includedTables sharedMood.tables []).map Table.name).Nodup ∧
            ∀ s ∈ artifacts.structs, s.name ≠ s.moduleName) := by
  obtain ⟨artifacts, h, -⟩ := exists_generate_sharedMood
  obtain ⟨plan, hplan, hstructs, hindex⟩ :=
    generate_nodup_introducedNames_iff sharedMood_plainInAscii h
  exact ⟨sharedMood_plainInAscii, artifacts, h, plan, hplan, hstructs, hindex⟩

/-! ### A table whose name is a number -/

def yearTable : Snapshot where
  tables := [{ name := ⟨"public", "2024"⟩ }]
  types := { entries := [] }

/-- Distinct names in ASCII without dots and blanks do not keep modules and structs apart: the index
has `pub mod _2024;` beside `pub use _2024::_2024;`. -/
theorem not_forall_nodup_introducedNames :
    ¬ ∀ (snapshot : Snapshot) (options : Options) (artifacts : Artifacts) (plan : Plan),
      (∀ n ∈ snapshot.tables.map Table.name ++ snapshot.types.names,
        IsAscii (n.schema.toList ++ n.name.toList) ∧ n.Plain ∧ ' ' ∉ n.name.toList) →
      (snapshot.tables.map Table.name).Nodup →
      generate snapshot options = .ok artifacts →
      planOf snapshot options.singular options.excluded = .ok plan →
        plan.introducedNames.Nodup := by
  intro hall
  obtain ⟨plan, hplan, hnames⟩ : ∃ plan, planOf yearTable false [] = .ok plan ∧
      plan.introducedNames = ["_2024", "_2024"] :=
    map_eq_ok_iff.1 (by decide +kernel)
  obtain ⟨artifacts, h⟩ : ∃ artifacts, generate yearTable {} = .ok artifacts :=
    exists_of_isOk (by decide +kernel)
  have hnodup := hall yearTable {} artifacts plan (by decide) (by decide) h hplan
  rw [hnames] at hnodup
  exact absurd hnodup (by decide)

end SchemaStructs.Generate
