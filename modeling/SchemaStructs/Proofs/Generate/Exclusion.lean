import SchemaStructs.Proofs.Generate.Buildable
import SchemaStructs.Proofs.Generate.Collisions
import SchemaStructs.Proofs.Generate.CrateNames

/-!
# Excluding more tables

With more tables excluded the structs left are built as before, and every check of names but one has
fewer names to compare. The exception is the check of a single module: a declaration whose owner was
excluded moves into the module of the next struct that needs it, and brings the crate types of its
fields there.
-/

namespace SchemaStructs.Generate

open Catalog Mapping Rust Comparison

/-! ## Tables -/

section Tables

variable {tables : List Table} {excluded excluded' : List String}

theorem isExcluded_mono (hsub : excluded ⊆ excluded') {n : QualifiedName}
    (h : isExcluded excluded n = true) : isExcluded excluded' n = true := by
  simp only [isExcluded, exclusionsOf, List.isEmpty_iff, Bool.not_eq_true', List.filter_eq_nil_iff,
    List.contains_iff_mem, not_forall, not_not, ← Bool.not_eq_true] at h ⊢
  obtain ⟨name, hname, hmem⟩ := h
  exact ⟨name, hname, hsub hmem⟩

/-- With more exclusions fewer tables are included, in the same order. -/
theorem includedTables_of_subset (tables : List Table) (hsub : excluded ⊆ excluded') :
    includedTables tables excluded' =
      (includedTables tables excluded).filter (!isExcluded excluded' ·.name) := by
  rw [includedTables, includedTables, filter_sortOn QualifiedName.le_linear, List.filter_filter]
  congr 2
  funext t
  cases h : isExcluded excluded t.name with
  | false => simp
  | true => simp [isExcluded_mono hsub h]

end Tables

/-! ## Structs -/

/-- Structs of tables that are not excluded. -/
def keptStructs (structs : List Struct) (excluded : List String) : List Struct :=
  structs.filter (!isExcluded excluded ·.table)

section Plans

variable {snapshot : Snapshot} {singular : Bool} {excluded excluded' : List String}
  {plan plan' : Plan}

/-- Distinct texts give a table the identifier proposed for it. -/
theorem get?_ofPairs_structNames {tables : List Table} (h : (tables.map fun t => t.name.text).Nodup)
    {t : Table} (ht : t ∈ tables) :
    (Entries.ofPairs (structNames singular tables)).get? t.name.text =
      some (Identifier.tableName singular t.name.name) := by
  have hkeys : Entries.keys (structNames singular tables) = tables.map fun t => t.name.text := by
    rw [Entries.keys, structNames, List.map_map]
    rfl
  rw [Entries.ofPairs_eq_self (hkeys ▸ h), Entries.get?_eq_some_iff (hkeys ▸ h)]
  exact List.mem_map_of_mem ht

/-- The structs that are left belong to the tables that are left. -/
theorem Plan.Built.forall₂_keptStructs (h : plan.Built snapshot singular excluded)
    (htexts : ((includedTables snapshot.tables excluded).map fun t => t.name.text).Nodup)
    (hsub : excluded ⊆ excluded') :
    List.Forall₂ (fun t s => (Entries.ofPairs (structNames singular
        (includedTables snapshot.tables excluded'))).get? t.name.text = some s.name ∧
          StructOf snapshot.types t s)
      (includedTables snapshot.tables excluded') (keptStructs plan.structs excluded') := by
  have hincluded := includedTables_of_subset snapshot.tables hsub
  have htexts' : ((includedTables snapshot.tables excluded').map fun t => t.name.text).Nodup := by
    rw [hincluded]
    exact htexts.sublist (List.filter_sublist.map _)
  have hstructs : List.Forall₂ (fun t s => s.name = Identifier.tableName singular t.name.name ∧
      StructOf snapshot.types t s) (includedTables snapshot.tables excluded) plan.structs := by
    refine (List.forall₂_and_left _ _).2 ⟨fun t ht => ht, h.structs⟩ |>.imp ?_
    rintro t s ⟨ht, hname, hts⟩
    rw [get?_ofPairs_structNames htexts ht] at hname
    exact ⟨(Option.some.inj hname).symm, hts⟩
  have hkept := forall₂_filter (p := fun t => !isExcluded excluded' t.name)
    (q := fun s => !isExcluded excluded' s.table) hstructs fun t s hts => by rw [hts.2.table_eq]
  rw [← hincluded] at hkept
  refine (List.forall₂_and_left _ _).2 ⟨fun t ht => ht, hkept⟩ |>.imp ?_
  rintro t s ⟨ht, hname, hts⟩
  rw [get?_ofPairs_structNames htexts' ht, hname]
  exact ⟨rfl, hts⟩

/-- With more exclusions planning comes as far as the check of the single modules. -/
theorem exists_drafted_of_subset (h : planOf snapshot singular excluded = .ok plan)
    (htexts : ((includedTables snapshot.tables excluded).map fun t => t.name.text).Nodup)
    (hsub : excluded ⊆ excluded') :
    ∃ plan' : Plan, plan'.Drafted snapshot singular excluded' ∧
      plan'.structs = keptStructs plan.structs excluded' := by
  have hbuilt := built_of_planOf h
  have hincluded := includedTables_of_subset snapshot.tables hsub
  obtain ⟨draft', hstructs⟩ :=
    buildStructs_of_forall₂ .empty (hbuilt.forall₂_keptStructs htexts hsub)
  have hholds := (buildStructs_spec .empty hstructs).2
  have hkept : keptStructs plan.structs excluded' ⊆ plan.structs :=
    List.filter_sublist.subset
  have hdeclared : ∀ s ∈ keptStructs plan.structs excluded', ∀ n ∈ s.declarations,
      n ∈ draft'.declarations.keys := fun s hs n hn => (hholds.keys n).2 (Or.inr ⟨s, hs, hn⟩)
  obtain ⟨ownership', hownership⟩ := exists_claims_of_structs hdeclared {}
  let plan' : Plan :=
    ⟨keptStructs plan.structs excluded', draft'.declarations, ownership', draft'.warnings⟩
  refine ⟨plan', ?_, rfl⟩
  constructor
  case identifiers =>
    rw [hincluded]
    exact hbuilt.identifiers.mono (List.map_subset _ List.filter_sublist.subset)
  case structs => exact hstructs
  case modules => exact hbuilt.modules.mono (((List.filter_sublist.map _).append_right _).subset)
  case types =>
    refine hbuilt.types.mono (List.append_subset.2 ⟨?_, ?_⟩)
    · exact List.subset_append_of_subset_left _ (List.map_subset _ hkept)
    · refine List.subset_append_of_subset_right _ (List.map_subset _ fun e he => ?_)
      -- a declaration that is still met was met before
      have hget := (Entries.get?_eq_some_iff hholds.nodup).2 he
      obtain ⟨hneeded, hname, hd⟩ := hholds.get?_eq_some_iff.1 hget
      obtain ⟨s, hs, hn⟩ := hneeded.resolve_left id
      exact Entries.mem_of_get?
        (hbuilt.declarations_get?_eq_some_iff.2 ⟨⟨s, hkept hs, hn⟩, hname, hd⟩)
  case ownership => exact hownership

/-! ## The check of a module -/

section Drafted

variable (h : plan'.Drafted snapshot singular excluded')
  (hmodules : (plan'.structs.map Struct.moduleName).Nodup) {s : Struct}

include h

theorem Plan.Drafted.structOf (hs : s ∈ plan'.structs) :
    ∃ t ∈ includedTables snapshot.tables excluded', StructOf snapshot.types t s := by
  obtain ⟨t, ht, -, hts⟩ := exists_left_of_mem (buildStructs_spec .empty h.structs).1 hs
  exact ⟨t, ht, hts⟩

/-- The names that are checked in a module. -/
theorem Plan.Drafted.namesIn_eq (hs : s ∈ plan'.structs) :
    plan'.namesIn s = .ok (namesMeeting s (crateImports s (plan'.ownedBy s.moduleName))) := by
  refine namesIn_eq_of_declared fun n hn => ?_
  obtain ⟨d, hget⟩ := Entries.exists_get?_of_mem_keys ((h.holds.keys n).2 ⟨s, hs, hn⟩)
  obtain ⟨-, rfl, hd⟩ := h.holds.get?_eq_some_iff.1 hget
  exact ⟨d, hget, hd.identifier_eq⟩

include hmodules

theorem Plan.Drafted.mem_ownedBy_iff (hs : s ∈ plan'.structs) {d : Declaration} :
    d ∈ plan'.ownedBy s.moduleName ↔
      Declares snapshot.types d ∧ firstNeeding plan'.structs d.name = some s := by
  have htracks : plan'.ownership.Tracks plan'.declarations plan'.structs := by
    refine .of_foldlM (fun n d hd => (h.holds.get?_eq_some_iff.1 hd).2.1) (fun s hs => ?_) hmodules
      h.ownership
    obtain ⟨t, -, hts⟩ := h.structOf hs
    exact hts.nodup
  rw [ownedBy, htracks.owned, htracks.owner, Option.map_eq_some_iff, h.holds.get?_eq_some_iff]
  constructor
  · rintro ⟨⟨-, -, hd⟩, o, ho, hm⟩
    obtain rfl := List.inj_on_of_nodup_map hmodules (mem_of_firstNeeding ho).1 hs hm
    exact ⟨hd, ho⟩
  · rintro ⟨hd, ho⟩
    exact ⟨⟨⟨s, mem_of_firstNeeding ho⟩, rfl, hd⟩, s, ho, rfl⟩

end Drafted

/-- A struct is the first of those that are left to need a declaration, and was not the first of
all. -/
structure TakesOver (registry : Registry) (all kept : List Struct) (s : Struct) (d : Declaration) :
    Prop where
  declares : Declares registry d
  first : firstNeeding kept d.name = some s
  not_first : firstNeeding all d.name ≠ some s

/-- A declaration that a struct takes over brings a crate type into its module that has the name of
the struct or of a type that it needs. -/
def BringsClash (registry : Registry) (all kept : List Struct) (s : Struct) : Prop :=
  ∃ d, TakesOver registry all kept s d ∧ ∃ f ∈ d.fields, ∃ path ∈ f.2.paths, ClashesWith s path

/-- Planning with more exclusions: what is checked last, one module after the other, fails exactly
where a declaration is taken over that clashes. -/
theorem checkNames_iff_of_subset (h : planOf snapshot singular excluded = .ok plan)
    (htexts : ((includedTables snapshot.tables excluded).map fun t => t.name.text).Nodup)
    (h' : plan'.Drafted snapshot singular excluded')
    (hkept : plan'.structs = keptStructs plan.structs excluded') {s : Struct}
    (hs : s ∈ plan'.structs) :
    plan'.checkNames s = .ok () ↔ ¬ BringsClash snapshot.types plan.structs plan'.structs s := by
  have hbuilt := built_of_planOf h
  have hmodules := hbuilt.nodup_moduleNames htexts
  have hmodules' : (plan'.structs.map Struct.moduleName).Nodup := by
    rw [hkept]
    exact hmodules.sublist (List.filter_sublist.map _)
  have hmem : s ∈ plan.structs := List.filter_sublist.subset (hkept ▸ hs)
  obtain ⟨t, ht, hname, hts⟩ := exists_left_of_mem hbuilt.structs hmem
  have hbare : Identifier.bare s.name = s.name := by
    rw [get?_ofPairs_structNames htexts ht] at hname
    rw [← Option.some.inj hname]
    exact (Identifier.isPlainName_tableName singular _).bare_eq
  have howned : ∀ d, d ∈ plan.ownedBy s.moduleName ↔ _ :=
    fun d => hbuilt.mem_ownedBy_moduleName_iff hmodules hmem
  have howned' : ∀ d, d ∈ plan'.ownedBy s.moduleName ↔ _ := fun d => h'.mem_ownedBy_iff hmodules' hs
  -- the module was checked with the declarations it owned before
  obtain ⟨hbase, hnoclash⟩ := (checkNames_iff_of_namesIn (hbuilt.namesIn_eq hmem) hbare
    (mem_cratePaths_of_crateImports hts fun d hd => ((howned d).1 hd).1)).1
    ((planOf_eq_ok_iff.1 h).names s hmem)
  rw [checkNames_iff_of_namesIn (h'.namesIn_eq hs) hbare
    (mem_cratePaths_of_crateImports hts fun d hd => ((howned' d).1 hd).1), and_iff_right hbase]
  constructor
  · rintro hall ⟨d, htakes, f, hf, p, hp, hclash⟩
    have hd : d ∈ plan'.ownedBy s.moduleName := (howned' d).2 ⟨htakes.declares, htakes.first⟩
    exact hall p (mem_crateImports_iff_or.2 (Or.inr ⟨d, hd, f, hf, hp⟩)) hclash
  · intro hbrings p hp hclash
    rcases mem_crateImports_iff_or.1 hp with hfield | ⟨d, hd, f, hf, hp⟩
    · exact hnoclash p (mem_crateImports_iff_or.2 (Or.inl hfield)) hclash
    · obtain ⟨hdeclares, hfirst⟩ := (howned' d).1 hd
      by_cases hbefore : firstNeeding plan.structs d.name = some s
      · have hd : d ∈ plan.ownedBy s.moduleName := (howned d).2 ⟨hdeclares, hbefore⟩
        exact hnoclash p (mem_crateImports_iff_or.2 (Or.inr ⟨d, hd, f, hf, hp⟩)) hclash
      · exact hbrings ⟨d, ⟨hdeclares, hfirst, hbefore⟩, f, hf, p, hp, hclash⟩

/-! ## Files -/

/-- The files of the structs that are left can be written: each declaration in them was written
before. -/
theorem exists_files_of_subset {framework : Framework} {files : List (String × String)}
    (h : plan.Built snapshot singular excluded)
    (hmodules : (plan.structs.map Struct.moduleName).Nodup)
    (hfiles : plan.files framework = .ok files) (h' : plan'.Built snapshot singular excluded')
    (hkept : plan'.structs ⊆ plan.structs)
    (hmodules' : (plan'.structs.map Struct.moduleName).Nodup) :
    ∃ files', plan'.files framework = .ok files' := by
  have hlines : ∀ m, ∀ d ∈ plan'.ownedBy m, ∃ lines, declarationLines framework d = .ok lines := by
    intro m d hd
    obtain ⟨hdeclares, o', ho', -⟩ := (h'.mem_ownedBy_iff hmodules').1 hd
    obtain ⟨ho', hn⟩ := mem_of_firstNeeding ho'
    obtain ⟨o, ho⟩ := exists_firstNeeding (hkept ho') hn
    obtain ⟨file, -, hfile⟩ := h.exists_structFile hmodules hfiles (mem_of_firstNeeding ho).1
    obtain ⟨imported, text, -, htext, -⟩ := structFile_eq_ok_iff.1 hfile
    have howned := (h.mem_ownedBy_iff hmodules).2 ⟨hdeclares, o, ho, rfl⟩
    obtain ⟨lines, hlines, -⟩ := renders_of_mem_owned htext howned
    exact ⟨lines, hlines⟩
  have hstructFiles : ∀ s ∈ plan'.structs, ∃ file, plan'.structFile framework s = .ok file := by
    intro s hs
    obtain ⟨declarations, hdeclarations⟩ := exists_mapM_eq_ok (hlines s.moduleName)
    exact ⟨_, structFile_eq_ok_iff.2 ⟨_, _, h'.importedBy_eq hmodules' hs,
      tableFile_eq_ok_iff.2 ⟨declarations, mapM_eq_ok_iff.1 hdeclarations, rfl⟩, rfl⟩⟩
  obtain ⟨structFiles, hstructFiles⟩ := exists_mapM_eq_ok hstructFiles
  exact ⟨_, files_eq_ok_iff.2 ⟨structFiles, mapM_eq_ok_iff.1 hstructFiles, rfl⟩⟩

/-! ## The error -/

/-- A module that fails its check is named by the error. -/
theorem Plan.Drafted.exists_collision (h : plan'.Drafted snapshot singular excluded') {s : Struct}
    (hs : s ∈ plan'.structs) {e : GenerationError} (he : plan'.checkNames s = .error e) :
    ∃ c : Identifier.Collision, e = .collision c ∧ c.scope = s!"{s.moduleName}.rs" := by
  rw [Plan.checkNames, h.namesIn_eq hs] at he
  rcases bind_eq_error_iff.1 he with he | ⟨names, hnames, he⟩
  · cases he
  cases hnames
  rcases bind_eq_error_iff.1 he with he | ⟨-, -, he⟩
  · rw [assign] at he
    cases hassign : Identifier.assign s!"{s.moduleName}.rs" .sensitive
        (namesMeeting s (crateImports s (plan'.ownedBy s.moduleName))) with
    | ok identifiers =>
      rw [hassign] at he
      cases he
    | error c =>
      rw [hassign] at he
      cases he
      exact ⟨c, rfl, Identifier.scope_of_assign hassign⟩
  · cases he

end Plans

/-- **Excluding more tables**: if generation succeeds and tells the included tables apart, then with
more exclusions it succeeds too, with the structs that are left, unless one of these takes over a
declaration that brings a crate type of a clashing name into its module. It then fails with a
collision there, and it fails in no other way. -/
theorem generate_of_excluded_subset {snapshot : Snapshot} {options : Options}
    {artifacts : Artifacts} {excluded' : List String}
    (htexts : ((includedTables snapshot.tables options.excluded).map fun t => t.name.text).Nodup)
    (hsub : options.excluded ⊆ excluded') (h : generate snapshot options = .ok artifacts) :
    ((∃ artifacts', generate snapshot { options with excluded := excluded' } = .ok artifacts') ↔
      ∀ s ∈ keptStructs artifacts.structs excluded', ¬ BringsClash snapshot.types artifacts.structs
        (keptStructs artifacts.structs excluded') s) ∧
    (∀ artifacts', generate snapshot { options with excluded := excluded' } = .ok artifacts' →
      artifacts'.structs = keptStructs artifacts.structs excluded') ∧
    ∀ e, generate snapshot { options with excluded := excluded' } = .error e →
      ∃ s ∈ keptStructs artifacts.structs excluded', BringsClash snapshot.types artifacts.structs
          (keptStructs artifacts.structs excluded') s ∧
        ∃ c : Identifier.Collision, e = .collision c ∧ c.scope = s!"{s.moduleName}.rs" := by
  obtain ⟨plan, hplan, hfiles, hstructs, -⟩ := generate_eq_ok_iff.1 h
  have hbuilt := built_of_planOf hplan
  have hmodules := hbuilt.nodup_moduleNames htexts
  obtain ⟨plan', hdrafted, hkept⟩ := exists_drafted_of_subset hplan htexts hsub
  have hcheck := fun s hs => checkNames_iff_of_subset hplan htexts hdrafted hkept (s := s) hs
  have hfiles' : plan'.Built snapshot options.singular excluded' →
      ∃ files', plan'.files options.framework = .ok files' := by
    intro hbuilt'
    refine exists_files_of_subset hbuilt hmodules hfiles hbuilt' ?_ ?_
    · rw [hkept]
      exact List.filter_sublist.subset
    · rw [hkept]
      exact hmodules.sublist (List.filter_sublist.map _)
  rw [hstructs, ← hkept]
  refine ⟨⟨?_, fun hall => ?_⟩, fun artifacts' h' => ?_, fun e he => ?_⟩
  · rintro ⟨artifacts', h'⟩ s hs
    obtain ⟨plan'', hplan'', -⟩ := generate_eq_ok_iff.1 h'
    exact (hcheck s hs).1 ((hdrafted.planOf_ok_iff.1 hplan'').2 s hs)
  · have hplan' := hdrafted.planOf_ok_iff.2 ⟨rfl, fun s hs => (hcheck s hs).2 (hall s hs)⟩
    obtain ⟨files', hfiles'⟩ := hfiles' (built_of_planOf hplan')
    exact ⟨⟨files', plan'.structs, plan'.warnings⟩,
      generate_eq_ok_iff.2 ⟨plan', hplan', hfiles', rfl, rfl⟩⟩
  · obtain ⟨plan'', hplan'', -, hstructs', -⟩ := generate_eq_ok_iff.1 h'
    rw [hstructs', (hdrafted.planOf_ok_iff.1 hplan'').1]
  · rcases bind_eq_error_iff.1 he with he | ⟨plan'', hplan'', he⟩
    · obtain ⟨s, hs, hse⟩ := hdrafted.exists_of_planOf_error he
      refine ⟨s, hs, ?_, hdrafted.exists_collision hs hse⟩
      by_contra hbrings
      rw [(hcheck s hs).2 hbrings] at hse
      cases hse
    · -- the files of a plan that passes its checks can be written
      obtain rfl := (hdrafted.planOf_ok_iff.1 hplan'').1
      obtain ⟨files', hfiles'⟩ := hfiles' (built_of_planOf hplan'')
      rw [hfiles'] at he
      cases he

/-! ### A composite that moves -/

/-- Accounts come first and own the key. Without them it belongs to the table whose struct has the
name of the type of its field. -/
def sharedKey : Snapshot where
  tables := [
    { name := ⟨"public", "accounts"⟩
      columns := [{ name := "key", type := .composite ⟨"public", "key"⟩ [] }] },
    { name := ⟨"public", "uuid"⟩
      columns := [{ name := "key", type := .composite ⟨"public", "key"⟩ [] }] }]
  types := {
    entries := [
      (⟨"public", "key"⟩, .composite ⟨"public", "key"⟩ [⟨"id", .scalar { kind := "uuid" }, false⟩])]
        }

/-- What the module of the second table then brings together. -/
def sharedKeyCollision : Identifier.Collision :=
  ⟨"Uuid", "use uuid::Uuid", "public.uuid", "uuid.rs"⟩

theorem exists_generate_sharedKey : ∃ artifacts, generate sharedKey {} = .ok artifacts :=
  exists_of_isOk (by decide +kernel)

theorem generate_sharedKey_error :
    generate sharedKey { excluded := ["accounts"] } = .error (.collision sharedKeyCollision) := by
  have herror : Artifacts.warnings <$> generate sharedKey { excluded := ["accounts"] } =
      .error (.collision sharedKeyCollision) := by decide +kernel
  exact map_eq_error_iff.1 herror

theorem sharedKey_bringsClash :
    ∃ artifacts, generate sharedKey {} = .ok artifacts ∧
      ∃ s ∈ keptStructs artifacts.structs ["accounts"],
        BringsClash sharedKey.types artifacts.structs
        (keptStructs artifacts.structs ["accounts"]) s := by
  obtain ⟨artifacts, h⟩ := exists_generate_sharedKey
  have hsub : ([] : List String) ⊆ ["accounts"] := List.nil_subset _
  obtain ⟨-, -, herror⟩ := generate_of_excluded_subset (by decide +kernel) hsub h
  obtain ⟨s, hs, hbrings, -⟩ := herror _ generate_sharedKey_error
  exact ⟨artifacts, h, s, hs, hbrings⟩

/-- Excluding more tables can make generation fail. -/
theorem not_forall_generate_of_excluded_subset :
    ¬ ∀ (snapshot : Snapshot) (options : Options) (excluded' : List String),
      options.excluded ⊆ excluded' → (∃ artifacts, generate snapshot options = .ok artifacts) →
      ∃ artifacts', generate snapshot { options with excluded := excluded' } = .ok artifacts' := by
  intro hall
  obtain ⟨artifacts', h⟩ :=
    hall sharedKey {} ["accounts"] (List.nil_subset _) exists_generate_sharedKey
  rw [generate_sharedKey_error] at h
  cases h

/-- Two tables with one text and a third one that has the module of the first. -/
def dottedNames : Snapshot where
  tables := [{ name := ⟨"a", "b.c"⟩ }, { name := ⟨"a.b", "c"⟩ }, { name := ⟨"public", "bc"⟩ }]
  types := { entries := [] }

/-- Tables with one text have to be told apart: the last of them hides the identifier of the first,
which an exclusion brings to light though there is no declaration to take over. -/
theorem not_forall_generate_of_excluded_subset_of_entries_nil :
    ¬ ∀ (snapshot : Snapshot) (options : Options) (excluded' : List String),
      options.excluded ⊆ excluded' → snapshot.types.entries = [] →
      (∃ artifacts, generate snapshot options = .ok artifacts) →
      ∃ artifacts', generate snapshot { options with excluded := excluded' } = .ok artifacts' := by
  intro hall
  obtain ⟨artifacts', h⟩ := hall dottedNames {} ["c"] (List.nil_subset _) rfl
    (exists_of_isOk (by decide +kernel))
  have hfails : (generate dottedNames { excluded := ["c"] }).isOk = false := by decide +kernel
  rw [h] at hfails
  cases hfails

end SchemaStructs.Generate
