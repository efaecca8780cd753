import SchemaStructs.Proofs.Generate.ModuleNames

/-!
# An appended table

A table with a name greater than all others is planned last. What is met on its way comes after what
was met before, it claims only what has no owner, and no check loosens. So a plan with such a table
starts with the plan without it: the structs, owners and imports of the other tables are as they
were, and of their files only the index is another.
-/

namespace SchemaStructs.Generate

open Catalog Mapping Comparison

variable {registry : Registry} {table : Table}

/-- A snapshot with one more table. -/
def withTable (snapshot : Snapshot) (t : Table) : Snapshot :=
  { snapshot with tables := snapshot.tables ++ [t] }

theorem includedTables_append_singleton {tables : List Table} {t : Table} {excluded : List String}
    (hlast : ∀ u ∈ tables, QualifiedName.le u.name t.name)
    (hincluded : isExcluded excluded t.name = false) :
    includedTables (tables ++ [t]) excluded = includedTables tables excluded ++ [t] := by
  rw [includedTables, List.filter_append, List.filter_singleton, hincluded]
  exact sortOn_append_singleton fun u hu => hlast u (List.mem_of_mem_filter hu)

/-! ## Drafts -/

/-- What was met and warned of before is still there, and comes first. -/
structure Draft.Extends (draft draft' : Draft) : Prop where
  declarations : draft.declarations <+: draft'.declarations
  warnings : draft.warnings <+: draft'.warnings

namespace Draft.Extends

theorem trans {draft draft' draft'' : Draft} (h : draft.Extends draft')
    (h' : draft'.Extends draft'') : draft.Extends draft'' :=
  ⟨h.declarations.trans h'.declarations, h.warnings.trans h'.warnings⟩

theorem warn (draft : Draft) (warnings : List Warning) : draft.Extends (draft.warn warnings) :=
  ⟨List.prefix_rfl, List.prefix_append _ _⟩

theorem need (draft : Draft) (d : Declaration) : draft.Extends (draft.need d) := by
  unfold Draft.need
  split
  · exact ⟨List.prefix_rfl, List.prefix_rfl⟩
  · rename_i hhas
    have hnot : d.name ∉ draft.declarations.keys :=
      fun hmem => hhas (Entries.has_eq_true_iff.2 hmem)
    refine ⟨?_, List.prefix_append _ _⟩
    dsimp only
    rw [Entries.put_of_not_mem hnot]
    exact List.prefix_append _ _

theorem foldl_need (ds : List Declaration) (draft : Draft) :
    draft.Extends (ds.foldl Draft.need draft) := by
  induction ds generalizing draft with
  | nil => exact ⟨List.prefix_rfl, List.prefix_rfl⟩
  | cons d rest ih => exact (need draft d).trans (ih (draft.need d))

theorem of_buildField {draft draft' : Draft} {column : Column} {f : Field}
    {names : List QualifiedName} (h : buildField registry table draft column =
      .ok (draft', f, names)) : draft.Extends draft' := by
  obtain ⟨m, -, -, -, rfl, -, -⟩ := buildField_eq_ok_iff.1 h
  exact (warn draft _).trans (foldl_need m.declarations _)

theorem of_buildFields {columns : List Column} {draft draft' : Draft} {fields : List Field}
    {names : List QualifiedName}
    (h : buildFields registry table draft columns = .ok (draft', fields, names)) :
    draft.Extends draft' := by
  induction columns generalizing draft fields names with
  | nil =>
    cases h
    exact ⟨List.prefix_rfl, List.prefix_rfl⟩
  | cons column rest ih =>
    obtain ⟨⟨draft₁, f, names₁⟩, hfield, h⟩ := bind_eq_ok_iff.1 h
    obtain ⟨⟨draft₂, fields₂, names₂⟩, hrest, h⟩ := bind_eq_ok_iff.1 h
    cases pure_eq_ok_iff.1 h
    exact (of_buildField hfield).trans (ih hrest)

theorem of_buildStruct {draft draft' : Draft} {identifier : String} {s : Struct}
    (h : buildStruct registry draft table identifier = .ok (draft', s)) : draft.Extends draft' := by
  obtain ⟨⟨draft₁, fields, names⟩, hfields, h⟩ := bind_eq_ok_iff.1 h
  obtain ⟨-, -, h⟩ := bind_eq_ok_iff.1 h
  cases pure_eq_ok_iff.1 h
  exact of_buildFields hfields

end Draft.Extends

/-! ## Structs -/

/-- Only the identifiers of the tables themselves are looked up. -/
theorem buildStructs_congr {identifiers identifiers' : Entries String String} {tables : List Table}
    (h : ∀ t ∈ tables, identifiers'.get? t.name.text = identifiers.get? t.name.text)
    (draft : Draft) :
    buildStructs registry identifiers' draft tables =
      buildStructs registry identifiers draft tables := by
  induction tables generalizing draft with
  | nil => rfl
  | cons t rest ih =>
    obtain ⟨ht, hrest⟩ := List.forall_mem_cons.1 h
    rw [buildStructs, buildStructs, identifierOf, identifierOf, ht]
    simp only [ih hrest]

/-- The struct of the last table is built after all others. -/
theorem exists_of_buildStructs_append_singleton {identifiers : Entries String String}
    {tables : List Table} {draft draft' : Draft} {structs' : List Struct}
    (h : buildStructs registry identifiers draft (tables ++ [table]) = .ok (draft', structs')) :
    ∃ draft₁ structs identifier s,
      buildStructs registry identifiers draft tables = .ok (draft₁, structs) ∧
        buildStruct registry draft₁ table identifier = .ok (draft', s) ∧
          structs' = structs ++ [s] := by
  induction tables generalizing draft structs' with
  | nil =>
    obtain ⟨identifier, -, h⟩ := bind_eq_ok_iff.1 h
    obtain ⟨⟨draft₁, s⟩, hstruct, h⟩ := bind_eq_ok_iff.1 h
    cases pure_eq_ok_iff.1 h
    exact ⟨draft, [], identifier, s, rfl, hstruct, rfl⟩
  | cons t rest ih =>
    obtain ⟨first, hfirst, h⟩ := bind_eq_ok_iff.1 h
    obtain ⟨⟨draft₁, s₁⟩, hs₁, h⟩ := bind_eq_ok_iff.1 h
    obtain ⟨⟨draft₂, structs₂⟩, hrest, h⟩ := bind_eq_ok_iff.1 h
    cases pure_eq_ok_iff.1 h
    obtain ⟨draft₃, structs, identifier, s, hstructs, hstruct, rfl⟩ := ih hrest
    refine ⟨draft₃, s₁ :: structs, identifier, s, ?_, hstruct, rfl⟩
    refine bind_eq_ok_iff.2 ⟨first, hfirst, bind_eq_ok_iff.2 ⟨_, hs₁, ?_⟩⟩
    exact bind_eq_ok_iff.2 ⟨_, hstructs, rfl⟩

/-! ## Plans -/

theorem declarationOf_congr {declarations declarations' : Entries QualifiedName Declaration}
    {n : QualifiedName} (h : declarations'.get? n = declarations.get? n) :
    declarationOf declarations' n = declarationOf declarations n := by
  rw [declarationOf, declarationOf, h]

/-- A claim looks up only what its struct needs. -/
theorem claim_congr {declarations declarations' : Entries QualifiedName Declaration} {s : Struct}
    (h : ∀ n ∈ s.declarations, declarations'.get? n = declarations.get? n) (o : Ownership) :
    o.claim declarations' s = o.claim declarations s := by
  rw [Ownership.claim, Ownership.claim, mapM_congr_of_mem]
  exact fun n hn => declarationOf_congr (h n (List.mem_of_mem_filter hn))

/-- A plan with one more struct at its end. What concerns the structs before it is the same in
both. -/
structure Plan.Extends (plan plan' : Plan) (s : Struct) : Prop where
  structs : plan'.structs = plan.structs ++ [s]
  warnings : plan.warnings <+: plan'.warnings
  met : plan.declarations <+: plan'.declarations
  fresh : ∀ u ∈ plan.structs, u.moduleName ≠ s.moduleName
  declarations : ∀ u ∈ plan.structs, ∀ n ∈ u.declarations,
    plan'.declarations.get? n = plan.declarations.get? n
  owners : ∀ u ∈ plan.structs, ∀ n ∈ u.declarations,
    plan'.ownership.owners.get? n = plan.ownership.owners.get? n
  owned : ∀ u ∈ plan.structs, plan'.ownedBy u.moduleName = plan.ownedBy u.moduleName

namespace Plan.Extends

variable {plan plan' : Plan} {s u : Struct}

theorem namesIn_eq (h : plan.Extends plan' s) (hu : u ∈ plan.structs) :
    plan'.namesIn u = plan.namesIn u := by
  rw [namesIn, namesIn, h.owned u hu, mapM_congr_of_mem]
  intro n hn
  rw [declarationOf_congr (h.declarations u hu n hn)]

theorem checkNames_eq (h : plan.Extends plan' s) (hu : u ∈ plan.structs) :
    plan'.checkNames u = plan.checkNames u := by
  rw [checkNames, checkNames, h.namesIn_eq hu]

theorem importedBy_eq (h : plan.Extends plan' s) (hu : u ∈ plan.structs) :
    plan'.importedBy u = plan.importedBy u := by
  rw [importedBy, importedBy, mapM_congr_of_mem]
  intro n hn
  rw [ownerOf, ownerOf, h.owners u hu n hn, declarationOf_congr (h.declarations u hu n hn)]

theorem structFile_eq (h : plan.Extends plan' s) (framework : Framework) (hu : u ∈ plan.structs) :
    plan'.structFile framework u = plan.structFile framework u := by
  rw [structFile, structFile, h.importedBy_eq hu, h.owned u hu]

end Plan.Extends

section Planning

variable {snapshot : Snapshot} {singular : Bool} {excluded : List String} {plan plan' : Plan}

/-- A table that comes after all included tables, and whose text is the text of none of them. -/
structure ComesLast (snapshot : Snapshot) (excluded : List String) (table : Table) : Prop where
  included : includedTables (withTable snapshot table).tables excluded =
    includedTables snapshot.tables excluded ++ [table]
  text_ne : ∀ u ∈ includedTables snapshot.tables excluded, u.name.text ≠ table.name.text

theorem comesLast (hplain : ∀ u ∈ snapshot.tables, u.name.Plain)
    (hlast : ∀ u ∈ snapshot.tables, Before QualifiedName.le u.name table.name)
    (hincluded : isExcluded excluded table.name = false) : ComesLast snapshot excluded table where
  included := includedTables_append_singleton (fun u hu => (hlast u hu).1) hincluded
  text_ne u hu he := by
    have hmem := (mem_includedTables.1 hu).1
    exact (hlast u hmem).2 ((hplain u hmem).eq_of_text_eq he.symm).symm

/-- The structs of the other tables are built as they are without the appended table. -/
theorem exists_structs_of_withTable (hlast : ComesLast snapshot excluded table)
    (h : plan'.Steps (withTable snapshot table) singular excluded) :
    ∃ draft structs identifier s,
      buildStructs snapshot.types
        (.ofPairs (structNames singular (includedTables snapshot.tables excluded)))
          {} (includedTables snapshot.tables excluded) = .ok (draft, structs) ∧
        buildStruct snapshot.types draft table identifier =
          .ok (⟨plan'.declarations, plan'.warnings⟩, s) ∧
        plan'.structs = structs ++ [s] := by
  have hstructs := h.structs
  rw [hlast.included] at hstructs
  obtain ⟨draft, structs, identifier, s, hbuild, hstruct, hstructs'⟩ :=
    exists_of_buildStructs_append_singleton hstructs
  refine ⟨draft, structs, identifier, s, ?_, hstruct, hstructs'⟩
  rw [← hbuild]
  refine (buildStructs_congr (fun u hu => ?_) {}).symm
  rw [structNames, List.map_append, List.map_singleton, Entries.ofPairs_append_singleton,
    Entries.get?_put_of_ne (hlast.text_ne u hu)]
  rfl

/-- The module of the appended table is none of the others. -/
theorem moduleName_ne_of_withTable (hlast : ComesLast snapshot excluded table)
    (h : plan'.Steps (withTable snapshot table) singular excluded) {structs : List Struct}
    {s u : Struct} (hstructs : plan'.structs = structs ++ [s])
    (hs : StructOf snapshot.types table s) (hu : u ∈ structs) {t : Table}
    (ht : t ∈ includedTables snapshot.tables excluded) (hut : StructOf snapshot.types t u) :
    u.moduleName ≠ s.moduleName := by
  intro he
  have hmodules := h.modules
  rw [hstructs] at hmodules
  have hmem : ∀ v ∈ structs ++ [s], (v.table.text, v.moduleName) ∈
      (structs ++ [s]).map fun s => (s.table.text, s.moduleName) :=
    fun v hv => List.mem_map_of_mem (f := fun s : Struct => (s.table.text, s.moduleName)) hv
  have htext : u.table.text = s.table.text :=
    hmodules _ (List.mem_append_left _ (hmem u (List.mem_append_left _ hu)))
      _ (List.mem_append_left _ (hmem s (by simp))) (by rw [he])
  rw [hut.table_eq, hs.table_eq] at htext
  exact hlast.text_ne t ht htext

/-- Planning without the appended table passes all checks. -/
theorem Plan.Extends.steps (hlast : ComesLast snapshot excluded table) {s : Struct}
    (hextends : plan.Extends plan' s) (h : plan'.Steps (withTable snapshot table) singular excluded)
    (hstructs : buildStructs snapshot.types
      (.ofPairs (structNames singular (includedTables snapshot.tables excluded))) {}
      (includedTables snapshot.tables excluded) =
        .ok (⟨plan.declarations, plan.warnings⟩, plan.structs))
    (hownership : plan.structs.foldlM (Ownership.claim plan.declarations) {} = .ok plan.ownership) :
    plan.Steps snapshot singular excluded := by
  obtain ⟨hids, -, hmodules, htypes, -, hnames⟩ := h
  rw [hlast.included] at hids
  rw [hextends.structs] at hmodules htypes hnames
  constructor
  case identifiers => exact hids.mono (List.map_subset _ (List.subset_append_left _ _))
  case structs => exact hstructs
  case modules => exact hmodules.mono (((List.sublist_append_left _ _).map _).append_right _).subset
  case types =>
    have hstructs := (List.sublist_append_left plan.structs [s]).map fun s => (s.table.text, s.name)
    exact htypes.mono (hstructs.append (hextends.met.sublist.map _)).subset
  case ownership => exact hownership
  case names =>
    intro u hu
    rw [← hextends.checkNames_eq hu]
    exact hnames u (List.mem_append_left _ hu)

/-- A plan with an appended table extends the plan without it. -/
theorem exists_plan_of_withTable (hlast : ComesLast snapshot excluded table)
    (h : planOf (withTable snapshot table) singular excluded = .ok plan') :
    ∃ plan s, planOf snapshot singular excluded = .ok plan ∧ StructOf snapshot.types table s ∧
      plan.Extends plan' s := by
  have hsteps := planOf_eq_ok_iff.1 h
  obtain ⟨draft, structs, identifier, s, hbuild, hstruct, hstructs'⟩ :=
    exists_structs_of_withTable hlast hsteps
  obtain ⟨htables, hdraft⟩ := buildStructs_spec .empty hbuild
  obtain ⟨-, hs, -⟩ := buildStruct_spec hdraft hstruct
  have hgrown := Draft.Extends.of_buildStruct hstruct
  have hget : ∀ u ∈ structs, ∀ n ∈ u.declarations,
      plan'.declarations.get? n = draft.declarations.get? n := fun u hu n hn =>
    Entries.get?_eq_of_prefix hgrown.declarations ((hdraft.keys n).2 (Or.inr ⟨u, hu, hn⟩))
  have hfresh : ∀ u ∈ structs, u.moduleName ≠ s.moduleName := by
    intro u hu
    obtain ⟨t, ht, -, hut⟩ := exists_left_of_mem htables hu
    exact moduleName_ne_of_withTable hlast hsteps hstructs' hs hu ht hut
  -- the last claim is that of the appended table
  have hclaims := hsteps.ownership
  rw [hstructs', foldlM_append_singleton_eq_ok_iff] at hclaims
  obtain ⟨o, hrun, hclaim⟩ := hclaims
  have hname := (built_of_planOf h).eq_name_of_get?
  have hextends : Plan.Extends ⟨structs, draft.declarations, o, draft.warnings⟩ plan' s := {
    structs := hstructs'
    warnings := hgrown.warnings
    met := hgrown.declarations
    fresh := hfresh
    declarations := hget
    owners := fun u hu n hn =>
      get?_owners_claim_of_mem hname hclaim (mem_owners_of_claims hname hrun u hu n hn)
    owned := fun u hu => by
      rw [Plan.ownedBy, Plan.ownedBy, get?_owned_claim_of_ne hclaim (hfresh u hu)] }
  refine ⟨_, s, planOf_eq_ok_iff.2 (hextends.steps hlast hsteps hbuild ?_), hs, hextends⟩
  rw [← hrun]
  exact (foldlM_congr_of_mem fun u hu o => claim_congr (hget u hu) o).symm

end Planning

/-! ## Files -/

/-- The artifacts of some tables, and those with one more table, of which `s` is the struct. Of the
files there were only the index may be another, and only the module of `s` is new. -/
structure Artifacts.Extends (artifacts artifacts' : Artifacts) (s : Struct) : Prop where
  structs : artifacts'.structs = artifacts.structs ++ [s]
  warnings : artifacts.warnings <+: artifacts'.warnings
  kept : ∀ f ∈ artifacts.files, f.1 ≠ indexFileName → f ∈ artifacts'.files
  names : (artifacts'.files.map Prod.fst).Perm
    (artifacts.files.map Prod.fst ++ [s.moduleName ++ ".rs"])
  nodup : (artifacts'.files.map Prod.fst).Nodup

/-- The files of the structs there were are written as before. -/
theorem Plan.Extends.exists_structFiles {plan plan' : Plan} {s : Struct} {framework : Framework}
    {structFiles' : List (String × String)} (h : plan.Extends plan' s)
    (hfiles : List.Forall₂ (fun u f => plan'.structFile framework u = .ok f) plan'.structs
      structFiles') :
    ∃ structFiles text,
      List.Forall₂ (fun u f => plan.structFile framework u = .ok f) plan.structs structFiles ∧
        structFiles' = structFiles ++ [(s.moduleName ++ ".rs", text)] := by
  rw [h.structs] at hfiles
  obtain ⟨structFiles, file, hbefore, hfile, rfl⟩ := exists_of_forall₂_append_singleton hfiles
  obtain ⟨-, text, -, -, rfl⟩ := structFile_eq_ok_iff.1 hfile
  refine ⟨structFiles, text, ?_, rfl⟩
  rw [← mapM_eq_ok_iff] at hbefore ⊢
  rw [← hbefore]
  exact (mapM_congr_of_mem fun u hu => h.structFile_eq framework hu).symm

theorem Plan.Extends.fileName_not_mem {plan plan' : Plan} {s : Struct} (h : plan.Extends plan' s) :
    s.moduleName ++ ".rs" ∉ plan.structs.map fun u => u.moduleName ++ ".rs" := by
  intro hmem
  obtain ⟨u, hu, he⟩ := List.mem_map.1 hmem
  exact h.fresh u hu ((String.append_left_inj _).1 he)

/-- The files of a plan are those of the plan it extends, one more, and an index. -/
theorem Plan.Extends.artifacts {snapshot : Snapshot} {singular : Bool} {excluded : List String}
    {plan plan' : Plan} {s : Struct} {framework : Framework} {files' : List (String × String)}
    (h : plan.Extends plan' s) (hbuilt : plan'.Built snapshot singular excluded)
    (hfiles' : plan'.files framework = .ok files') :
    ∃ files, plan.files framework = .ok files ∧
      Artifacts.Extends ⟨files, plan.structs, plan.warnings⟩ ⟨files', plan'.structs, plan'.warnings⟩
        s := by
  obtain ⟨structFiles', hstructFiles', rfl⟩ := files_eq_ok_iff.1 hfiles'
  obtain ⟨structFiles, text, hstructFiles, rfl⟩ := h.exists_structFiles hstructFiles'
  have hfile : s.moduleName ++ ".rs" ∉ structFiles.map Prod.fst := by
    rw [map_fst_structFiles hstructFiles]
    exact h.fileName_not_mem
  have hindex' : indexFileName ∉ (structFiles ++ [(s.moduleName ++ ".rs", text)]).map Prod.fst := by
    rw [map_fst_structFiles hstructFiles']
    intro hmem
    obtain ⟨u, hu, he⟩ := List.mem_map.1 hmem
    exact hbuilt.fileName_ne_indexFileName hu he
  have hindex : indexFileName ∉ structFiles.map Prod.fst := fun hmem =>
    hindex' (by rw [List.map_append]; exact List.mem_append_left _ hmem)
  refine ⟨_, files_eq_ok_iff.2 ⟨structFiles, hstructFiles, rfl⟩, ?_⟩
  rw [Entries.ofPairs_append_singleton_of_not_mem hindex]
  have hperm := sortOn_perm .text Prod.fst
    (Entries.ofPairs structFiles ++ [(indexFileName, indexFile plan.structs plan.ownership.owned)])
  have hperm' := sortOn_perm .text Prod.fst (Entries.ofPairs
    (structFiles ++ [(s.moduleName ++ ".rs", text)] ++
      [(indexFileName, indexFile plan'.structs plan'.ownership.owned)]))
  constructor
  case structs => exact h.structs
  case warnings => exact h.warnings
  case nodup => exact (hperm'.map _).nodup_iff.2 (Entries.nodup_keys_ofPairs _)
  all_goals
    rw [Entries.ofPairs_append_singleton_of_not_mem hindex',
      Entries.ofPairs_append_singleton_of_not_mem hfile] at hperm' ⊢
  case kept =>
    intro f hf hne
    rcases List.mem_append.1 (hperm.mem_iff.1 hf) with hf | hf
    · exact hperm'.mem_iff.2 (by simp [hf])
    · exact absurd (by rw [List.mem_singleton.1 hf]) hne
  case names =>
    refine (hperm'.map _).trans (List.Perm.trans ?_ ((hperm.map _).append_right _).symm)
    simp only [List.map_append, List.map_cons, List.map_nil, List.append_assoc]
    exact (List.Perm.swap _ _ _).append_left _

/-- **Appended tables**: when generation succeeds with a table that comes after all others, it
succeeds without it, the structs and warnings are the first of those with it, the files but for the
index are the same, and the only new file is the module of the table. -/
theorem generate_appendedTable {snapshot : Snapshot} {t : Table} {options : Options}
    {artifacts' : Artifacts} (hplain : ∀ u ∈ snapshot.tables, u.name.Plain)
    (hlast : ∀ u ∈ snapshot.tables, Before QualifiedName.le u.name t.name)
    (hincluded : isExcluded options.excluded t.name = false)
    (h : generate (withTable snapshot t) options = .ok artifacts') :
    ∃ artifacts s, generate snapshot options = .ok artifacts ∧ StructOf snapshot.types t s ∧
      artifacts.Extends artifacts' s := by
  obtain ⟨plan', hplan', hfiles', hstructs', hwarnings'⟩ := generate_eq_ok_iff.1 h
  obtain ⟨plan, s, hplan, hs, hextends⟩ :=
    exists_plan_of_withTable (comesLast hplain hlast hincluded) hplan'
  obtain ⟨files, hfiles, hartifacts⟩ := hextends.artifacts (built_of_planOf hplan') hfiles'
  refine ⟨⟨files, plan.structs, plan.warnings⟩, s, ?_, hs, ?_⟩
  · exact generate_eq_ok_iff.2 ⟨plan, hplan, hfiles, rfl, rfl⟩
  · rwa [← hstructs', ← hwarnings'] at hartifacts

/-- A table after the users and visits that needs the mood too, and imports it from the users. -/
def zones : Table where
  name := ⟨"public", "zones"⟩
  columns := [{ name := "climate", type := .enum ⟨"public", "mood"⟩ [] }]

theorem sharedMood_appendedTable :
    ∃ artifacts' artifacts s, generate (withTable sharedMood zones) {} = .ok artifacts' ∧
      generate sharedMood {} = .ok artifacts ∧ s.table = zones.name ∧
        artifacts.Extends artifacts' s := by
  obtain ⟨artifacts', h⟩ : ∃ artifacts',
      generate (withTable sharedMood zones) {} = .ok artifacts' :=
    exists_of_isOk (by decide +kernel)
  have hlast : ∀ u ∈ sharedMood.tables, Before QualifiedName.le u.name zones.name := by
    unfold Before
    decide +kernel
  obtain ⟨artifacts, s, hartifacts, hs, hextends⟩ :=
    generate_appendedTable sharedMood_plainlyNamed.tables hlast (by decide) h
  exact ⟨artifacts', artifacts, s, h, hartifacts, hs.table_eq, hextends⟩

end SchemaStructs.Generate
