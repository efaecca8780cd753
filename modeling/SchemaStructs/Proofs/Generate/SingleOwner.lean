import Mathlib.Logic.Relation
import SchemaStructs.Proofs.Generate.Index
import SchemaStructs.Proofs.Generate.SourceText

/-!
# One owner for each declaration

A declaration is written in the file of the first table that needs it, in the order of table names,
and every other table that needs it imports it from there. Imports therefore lead to earlier tables
only, and the modules of tables cannot import each other in a circle. The index names every module
and exports every struct and declaration once.
-/

namespace SchemaStructs.Generate

open Catalog Mapping Comparison

/-- `t` is the first of some tables, by name, that needs a declaration. -/
structure FirstTable (registry : Registry) (tables : List Table) (n : QualifiedName) (t : Table) :
    Prop where
  mem : t ∈ tables
  needs : Needs registry t n
  first : ∀ t' ∈ tables, Needs registry t' n → t' = t ∨ Before QualifiedName.le t.name t'.name

/-- `s` writes the declaration of `n`, and all others that need it import it from there. -/
structure Plan.WrittenBy (plan : Plan) (registry : Registry) (framework : Framework)
    (files : List (String × String)) (n : QualifiedName) (s : Struct) (d : Declaration) : Prop where
  mem : s ∈ plan.structs
  declares : Declares registry d
  name : d.name = n
  once : (plan.ownedBy s.moduleName).filter (·.name = n) = [d]
  renders : ∃ text, (s.moduleName ++ ".rs", text) ∈ files ∧ Renders framework text d
  elsewhere : ∀ o ∈ plan.structs, o ≠ s → ∀ e ∈ plan.ownedBy o.moduleName, e.name ≠ n
  imported : ∀ o ∈ plan.structs, o ≠ s → n ∈ o.declarations →
    ∃ imported, plan.importedBy o = .ok imported ∧ ∀ m, (m, d.identifier) ∈ imported ↔
      m = s.moduleName

/-- The module `m` imports from the module `m'`. -/
def Plan.Imports (plan : Plan) (m m' : String) : Prop :=
  ∃ s ∈ plan.structs, s.moduleName = m ∧
    ∃ imported, plan.importedBy s = .ok imported ∧ ∃ name, (m', name) ∈ imported

/-- The index lists the modules that have a file, in order, and exports what they write. -/
structure Plan.IndexedBy (plan : Plan) (files : List (String × String))
    (entries : List (String × List String)) : Prop where
  file : (indexFileName, indexText entries) ∈ files
  ordered : (entries.map Prod.fst).Pairwise (Before .text)
  modules : ∀ m, m ∈ entries.map Prod.fst ↔
    m ++ ".rs" ≠ indexFileName ∧ ∃ text, (m ++ ".rs", text) ∈ files
  nodup : (entries.flatMap Prod.snd).Nodup
  exported : ∀ m name, (∃ e ∈ entries, e.1 = m ∧ name ∈ e.2) ↔
    ∃ s ∈ plan.structs, s.moduleName = m ∧
      (name = s.name ∨ ∃ d ∈ plan.ownedBy s.moduleName, d.identifier = name)

/-- What a plan and its files say of the owners of declarations. -/
structure Plan.SinglyOwned (plan : Plan) (snapshot : Snapshot) (options : Options)
    (files : List (String × String)) : Prop where
  tables : List.Forall₂
    (fun t s => s.table = t.name ∧ ∀ n, n ∈ s.declarations ↔ Needs snapshot.types t n)
    (includedTables snapshot.tables options.excluded) plan.structs
  written : ∀ file, file ∈ files ↔
    file = (indexFileName, indexFile plan.structs plan.ownership.owned) ∨
      ∃ s ∈ plan.structs, plan.structFile options.framework s = .ok file
  distinct : (files.map Prod.fst).Nodup
  owner : ∀ n, (∃ t ∈ includedTables snapshot.tables options.excluded, Needs snapshot.types t n) →
    ∃ t s d, FirstTable snapshot.types (includedTables snapshot.tables options.excluded) n t ∧
      s.table = t.name ∧ plan.WrittenBy snapshot.types options.framework files n s d
  backward : ∀ s ∈ plan.structs, ∀ imported, plan.importedBy s = .ok imported → ∀ i ∈ imported,
    ∃ o ∈ plan.structs, o.moduleName = i.1 ∧ Before QualifiedName.le o.table s.table
  acyclic : ∀ m, ¬ Relation.TransGen plan.Imports m m
  index : ∃ entries, plan.IndexedBy files entries

namespace Plan.Built

variable {snapshot : Snapshot} {singular : Bool} {excluded : List String} {plan : Plan}

/-! ## Order of tables -/

theorem pairwise_structs (hplain : snapshot.PlainlyNamed)
    (h : plan.Built snapshot singular excluded) :
    plan.structs.Pairwise fun s s' => Before QualifiedName.le s.table s'.table := by
  have htables := pairwise_includedTables hplain.nodup excluded
  rw [← List.pairwise_map, ← h.map_table, List.pairwise_map] at htables
  exact htables

/-- Another struct that needs a declaration stands after the first one. -/
theorem before_of_firstNeeding (hplain : snapshot.PlainlyNamed)
    (h : plan.Built snapshot singular excluded) {n : QualifiedName} {o s : Struct}
    (ho : firstNeeding plan.structs n = some o) (hs : s ∈ plan.structs) (hn : n ∈ s.declarations)
    (hne : o ≠ s) : Before QualifiedName.le o.table s.table :=
  (pairwise_of_firstNeeding (h.pairwise_structs hplain) ho hs hn).resolve_left hne

/-- The first struct is that of the first table. -/
theorem firstTable_of_firstNeeding (hplain : snapshot.PlainlyNamed)
    (h : plan.Built snapshot singular excluded) {n : QualifiedName} {s : Struct}
    (ho : firstNeeding plan.structs n = some s) :
    ∃ t, FirstTable snapshot.types (includedTables snapshot.tables excluded) n t ∧
      s.table = t.name := by
  obtain ⟨hs, hn⟩ := mem_of_firstNeeding ho
  obtain ⟨t, ht, hts⟩ := h.exists_table hs
  refine ⟨t, ⟨ht, (hts.declarations n).1 hn, ?_⟩, hts.table_eq⟩
  intro t' ht' hneeds
  obtain ⟨s', hs', hts'⟩ := exists_right_of_mem h.structOf ht'
  have hn' : n ∈ s'.declarations := (hts'.declarations n).2 hneeds
  by_cases hss : s = s'
  · have hname : t'.name = t.name := by rw [← hts.table_eq, ← hts'.table_eq, hss]
    exact Or.inl
      (List.inj_on_of_nodup_map (nodup_includedTables hplain.nodup excluded) ht' ht hname)
  · have hbefore := h.before_of_firstNeeding hplain ho hs' hn' hss
    rw [hts.table_eq, hts'.table_eq] at hbefore
    exact Or.inr hbefore

/-! ## Imports -/

/-- Declarations that one struct needs have different identifiers. -/
theorem eq_of_typeName_eq (hplain : snapshot.PlainlyNamed)
    (h : plan.Built snapshot singular excluded) {s : Struct} (hs : s ∈ plan.structs)
    {n n' : QualifiedName} (hn : n ∈ s.declarations) (hn' : n' ∈ s.declarations)
    (hname : Identifier.typeName n.name = Identifier.typeName n'.name) : n = n' := by
  have hnodup := (List.nodup_append.1 (h.nodup_namesIn hplain hs)).1
  exact List.inj_on_of_nodup_map (List.nodup_append.1 hnodup).2.1 hn hn' hname

theorem mem_imported_iff (hplain : snapshot.PlainlyNamed)
    (h : plan.Built snapshot singular excluded) {s o : Struct} {d : Declaration}
    (hd : Declares snapshot.types d) (hs : firstNeeding plan.structs d.name = some s)
    (ho : o ∈ plan.structs) (hne : o ≠ s) (hn : d.name ∈ o.declarations) (m : String) :
    (m, d.identifier) ∈ importsOf plan.structs o ↔ m = s.moduleName := by
  have hmodules := h.nodup_moduleNames (nodup_tableTexts hplain)
  rw [mem_importsOf_iff ho]
  constructor
  · rintro ⟨n, hn', s', hs', -, he⟩
    obtain ⟨rfl, hid⟩ := Prod.mk.inj he
    rw [hd.identifier_eq] at hid
    rw [← h.eq_of_typeName_eq hplain ho hn hn' hid, hs] at hs'
    rw [Option.some.inj hs']
  · rintro rfl
    refine ⟨d.name, hn, s, hs, fun hm => hne ?_, by rw [hd.identifier_eq]⟩
    exact (eq_of_moduleName_eq hmodules (mem_of_firstNeeding hs).1 ho hm).symm

/-- An import leads to the module of an earlier table. -/
theorem exists_before_of_mem_importsOf (hplain : snapshot.PlainlyNamed)
    (h : plan.Built snapshot singular excluded) {s : Struct} (hs : s ∈ plan.structs)
    {i : SiblingImport} (hi : i ∈ importsOf plan.structs s) :
    ∃ o ∈ plan.structs, o.moduleName = i.1 ∧ Before QualifiedName.le o.table s.table := by
  obtain ⟨n, hn, o, ho, hm, rfl⟩ := (mem_importsOf_iff hs).1 hi
  refine ⟨o, (mem_of_firstNeeding ho).1, rfl, h.before_of_firstNeeding hplain ho hs hn ?_⟩
  rintro rfl
  exact hm rfl

/-- A chain of imports leads back to an earlier table. -/
theorem before_of_transGen_imports (hplain : snapshot.PlainlyNamed)
    (h : plan.Built snapshot singular excluded) {m m' : String}
    (himports : Relation.TransGen plan.Imports m m') :
    ∃ s ∈ plan.structs, ∃ o ∈ plan.structs, s.moduleName = m ∧ o.moduleName = m' ∧
      Before QualifiedName.le o.table s.table := by
  have hmodules := h.nodup_moduleNames (nodup_tableTexts hplain)
  have hstep : ∀ {m m'}, plan.Imports m m' → ∃ s ∈ plan.structs, ∃ o ∈ plan.structs,
      s.moduleName = m ∧ o.moduleName = m' ∧ Before QualifiedName.le o.table s.table := by
    rintro m m' ⟨s, hs, rfl, imported, himported, name, hmem⟩
    rw [h.importedBy_eq hmodules hs] at himported
    cases himported
    obtain ⟨o, ho, hom, hbefore⟩ := h.exists_before_of_mem_importsOf hplain hs hmem
    exact ⟨s, hs, o, ho, rfl, hom, hbefore⟩
  induction himports with
  | single himport => exact hstep himport
  | tail _ himport ih =>
    obtain ⟨s, hs, o, ho, hsm, hom, hbefore⟩ := ih
    obtain ⟨s', hs', o', ho', hsm', hom', hbefore'⟩ := hstep himport
    obtain rfl : s' = o := eq_of_moduleName_eq hmodules hs' ho (hsm'.trans hom.symm)
    exact ⟨s, hs, o', ho', hsm, hom', QualifiedName.le_linear.before_trans hbefore' hbefore⟩

theorem acyclic_imports (hplain : snapshot.PlainlyNamed) (h : plan.Built snapshot singular excluded)
    (m : String) : ¬ Relation.TransGen plan.Imports m m := by
  intro hcycle
  obtain ⟨s, hs, o, ho, hsm, hom, hbefore⟩ := h.before_of_transGen_imports hplain hcycle
  have hmodules := h.nodup_moduleNames (nodup_tableTexts hplain)
  exact hbefore.2 (by rw [eq_of_moduleName_eq hmodules ho hs (hom.trans hsm.symm)])

/-! ## Owners -/

/-- The first struct that needs a declaration writes it. -/
theorem writtenBy (hplain : snapshot.PlainlyNamed) (h : plan.Built snapshot singular excluded)
    {framework : Framework} {files : List (String × String)}
    (hfiles : plan.files framework = .ok files) {s : Struct} {d : Declaration}
    (hd : Declares snapshot.types d) (hs : firstNeeding plan.structs d.name = some s) :
    plan.WrittenBy snapshot.types framework files d.name s d := by
  have hmodules := h.nodup_moduleNames (nodup_tableTexts hplain)
  obtain ⟨hmem, -⟩ := mem_of_firstNeeding hs
  have howned : d ∈ plan.ownedBy s.moduleName :=
    (h.mem_ownedBy_moduleName_iff hmodules hmem).2 ⟨hd, hs⟩
  constructor
  case mem => exact hmem
  case declares => exact hd
  case name => rfl
  case once =>
    -- A list without a repeated name that holds `d` has nothing else of its name.
    have hnodup := h.nodup_ownedBy hmodules s.moduleName
    refine List.perm_singleton.1 ((List.perm_ext_iff_of_nodup (hnodup.of_map.filter _)
      (List.nodup_singleton d)).2 fun e => ?_)
    rw [List.mem_filter, List.mem_singleton, decide_eq_true_eq]
    constructor
    · rintro ⟨he, hname⟩
      exact List.inj_on_of_nodup_map hnodup he howned hname
    · rintro rfl
      exact ⟨howned, rfl⟩
  case renders =>
    obtain ⟨file, hfile, hstructFile⟩ := h.exists_structFile hmodules hfiles hmem
    obtain ⟨imported, text, -, htext, rfl⟩ := structFile_eq_ok_iff.1 hstructFile
    exact ⟨text, hfile, renders_of_mem_owned htext howned⟩
  case elsewhere =>
    intro o ho hne e he hname
    obtain ⟨-, ho'⟩ := (h.mem_ownedBy_moduleName_iff hmodules ho).1 he
    rw [hname, hs] at ho'
    exact hne (Option.some.inj ho').symm
  case imported =>
    intro o ho hne hn
    exact ⟨_, h.importedBy_eq hmodules ho, h.mem_imported_iff hplain hd hs ho hne hn⟩

/-! ## Index -/

theorem indexedBy (hplain : snapshot.PlainlyNamed) (h : plan.Built snapshot singular excluded)
    {framework : Framework} {files : List (String × String)}
    (hfiles : plan.files framework = .ok files) :
    plan.IndexedBy files (indexEntries plan.structs plan.ownership.owned) := by
  have hmodules := h.nodup_moduleNames (nodup_tableTexts hplain)
  have hmem := fun file => @mem_files_iff _ _ _ plan framework files hmodules h hfiles file
  constructor
  case file =>
    rw [← indexFile_eq]
    exact (hmem _).2 (Or.inl rfl)
  case ordered => exact pairwise_indexEntries _ hmodules
  case nodup => exact h.nodup_exports hplain
  case modules =>
    intro m
    rw [mem_map_fst_indexEntries]
    constructor
    · rintro ⟨s, hs, rfl⟩
      obtain ⟨file, hfile, hstructFile⟩ := h.exists_structFile hmodules hfiles hs
      obtain ⟨imported, text, -, -, rfl⟩ := structFile_eq_ok_iff.1 hstructFile
      exact ⟨h.fileName_ne_indexFileName hs, text, hfile⟩
    · rintro ⟨hne, text, hfile⟩
      rcases (hmem _).1 hfile with he | ⟨s, hs, hstructFile⟩
      · exact absurd (Prod.mk.inj he).1 hne
      · obtain ⟨imported, text', -, -, he⟩ := structFile_eq_ok_iff.1 hstructFile
        exact ⟨s, hs, ((String.append_left_inj _).1 (Prod.mk.inj he).1).symm⟩
  case exported =>
    intro m name
    simp only [indexEntries, List.mem_map, mem_sortOn]
    constructor
    · rintro ⟨-, ⟨s, hs, rfl⟩, rfl, hname⟩
      exact ⟨s, hs, rfl, mem_exports_iff.1 hname⟩
    · rintro ⟨s, hs, rfl, hname⟩
      exact ⟨_, ⟨s, hs, rfl⟩, rfl, mem_exports_iff.2 hname⟩

end Plan.Built

/-- **Single ownership**: with plain names, the first table that needs a declaration writes it, all
others import it from there, and the index has everything once. -/
theorem generate_singly_owned {snapshot : Snapshot} {options : Options} {artifacts : Artifacts}
    (hplain : snapshot.PlainlyNamed) (h : generate snapshot options = .ok artifacts) :
    ∃ plan, planOf snapshot options.singular options.excluded = .ok plan ∧
      artifacts.structs = plan.structs ∧ plan.SinglyOwned snapshot options artifacts.files := by
  obtain ⟨plan, hplan, hfiles, hstructs, -⟩ := generate_eq_ok_iff.1 h
  have hbuilt := built_of_planOf hplan
  have hmodules := hbuilt.nodup_moduleNames (Plan.Built.nodup_tableTexts hplain)
  refine ⟨plan, hplan, hstructs, ?_⟩
  constructor
  case tables => exact hbuilt.structOf.imp fun t s hts => ⟨hts.table_eq, hts.declarations⟩
  case written => exact fun file => hbuilt.mem_files_iff hmodules hfiles
  case distinct => exact hbuilt.nodup_map_fst_files hmodules hfiles
  case owner =>
    rintro n ⟨t, ht, hneeds⟩
    obtain ⟨s, hs, hts⟩ := exists_right_of_mem hbuilt.structOf ht
    have hn : n ∈ s.declarations := (hts.declarations n).2 hneeds
    obtain ⟨d, -, rfl, hd⟩ := hbuilt.exists_declaration hs hn
    obtain ⟨o, ho⟩ := exists_firstNeeding hs hn
    obtain ⟨t', ht', hname⟩ := hbuilt.firstTable_of_firstNeeding hplain ho
    exact ⟨t', o, d, ht', hname, hbuilt.writtenBy hplain hfiles hd ho⟩
  case backward =>
    intro s hs imported himported i hi
    rw [hbuilt.importedBy_eq hmodules hs] at himported
    cases himported
    exact hbuilt.exists_before_of_mem_importsOf hplain hs hi
  case acyclic => exact hbuilt.acyclic_imports hplain
  case index => exact ⟨_, hbuilt.indexedBy hplain hfiles⟩

theorem sharedMood_singly_owned :
    sharedMood.PlainlyNamed ∧ ∃ artifacts, generate sharedMood {} = .ok artifacts ∧
      artifacts.files = sharedMoodFiles ∧
      ∃ plan, planOf sharedMood false [] = .ok plan ∧ artifacts.structs = plan.structs ∧
        plan.SinglyOwned sharedMood {} sharedMoodFiles := by
  obtain ⟨artifacts, h, hfiles⟩ := exists_generate_sharedMood
  obtain ⟨plan, hplan, hstructs, howned⟩ := generate_singly_owned sharedMood_plainlyNamed h
  exact ⟨sharedMood_plainlyNamed, artifacts, h, hfiles, plan, hplan, hstructs, hfiles ▸ howned⟩

end SchemaStructs.Generate
