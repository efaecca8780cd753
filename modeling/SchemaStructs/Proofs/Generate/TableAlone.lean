import SchemaStructs.Proofs.Generate.ModuleNames

/-!
# A table on its own

Planning threads what it has met through all tables, and gives each declaration to one of them.
Still the members of a struct, the declarations it needs and the declarations themselves are read
off the table and the registry, so they are the same in any two generations, whatever stands beside
the table. A table that is excluded might as well not be there.
-/

namespace SchemaStructs.Generate

open Catalog Mapping Comparison

variable {registry : Registry} {table : Table}

/-! ## One table -/

theorem FieldOf.unique {column : Column} {f f' : Field} (h : FieldOf registry table column f)
    (h' : FieldOf registry table column f') : f = f' := by
  obtain ⟨m, hm, htype⟩ := h.type_eq
  obtain ⟨m', hm', htype'⟩ := h'.type_eq
  cases Except.ok.inj (hm.symm.trans hm')
  have hreferences := Except.ok.inj (h.references_eq.symm.trans h'.references_eq)
  cases f
  cases f'
  simp only [Field.mk.injEq]
  exact ⟨h.name_eq.trans h'.name_eq.symm, h.column_eq.trans h'.column_eq.symm,
    htype.trans htype'.symm, h.facts_eq.trans h'.facts_eq.symm, hreferences,
    h.sqlType_eq.trans h'.sqlType_eq.symm⟩

theorem fields_unique {columns : List Column} {fields fields' : List Field}
    (h : List.Forall₂ (FieldOf registry table) columns fields)
    (h' : List.Forall₂ (FieldOf registry table) columns fields') : fields = fields' := by
  induction h generalizing fields' with
  | nil =>
    cases h'
    rfl
  | cons hf _ ih =>
    cases h' with
    | cons hf' hrest' => rw [hf.unique hf', ih hrest']

/-- Two structs of one table. They may have different identifiers, and so different modules. -/
structure SameMembers (s s' : Struct) : Prop where
  table : s.table = s'.table
  kind : s.kind = s'.kind
  fields : s.fields = s'.fields
  declarations : s.declarations = s'.declarations

/-- A struct has its members from its table. -/
theorem StructOf.sameMembers {s s' : Struct} (h : StructOf registry table s)
    (h' : StructOf registry table s') : SameMembers s s' where
  table := h.table_eq.trans h'.table_eq.symm
  kind := h.kind_eq.trans h'.kind_eq.symm
  fields := fields_unique h.fields h'.fields
  declarations := by
    have hperm : s.declarations.Perm s'.declarations :=
      (List.perm_ext_iff_of_nodup h.nodup h'.nodup).2
      fun n => (h.declarations n).trans (h'.declarations n).symm
    exact eq_of_perm_of_pairwise_before QualifiedName.le_linear hperm h.ordered h'.ordered

/-! ## What is owned -/

namespace Ownership

variable {declarations : Entries QualifiedName Declaration} {o o' : Ownership} {s : Struct}

/-- A claim adds declarations that were met. -/
theorem get?_of_mem_owned_claim (hname : ∀ n d, declarations.get? n = some d → n = d.name)
    (hnodup : s.declarations.Nodup) (h : o.claim declarations s = .ok o')
    (ho : ∀ m, ∀ d ∈ (o.owned.get? m).getD [], declarations.get? d.name = some d) :
    ∀ m, ∀ d ∈ (o'.owned.get? m).getD [], declarations.get? d.name = some d := by
  obtain ⟨new, hnew, rfl⟩ := claim_eq_ok_iff.1 h
  split
  · exact ho
  intro m d hd
  dsimp only at hd
  by_cases hm : m = s.moduleName
  · have hnames := map_name_of_get? hname hnew
    rw [hm, Entries.get?_put_self, Option.getD_some,
      mem_dependencyOrder (hnames ▸ hnodup.filter _)] at hd
    obtain ⟨n, -, hn⟩ := exists_left_of_mem hnew hd
    rwa [← hname n d hn]
  · rw [Entries.get?_put_of_ne hm] at hd
    exact ho m d hd

end Ownership

namespace Plan.Built

variable {snapshot : Snapshot} {singular : Bool} {excluded : List String} {plan : Plan}

/-- What a module owns was met on the way. -/
theorem get?_of_mem_ownedBy (h : plan.Built snapshot singular excluded) {m : String}
    {d : Declaration} (hd : d ∈ plan.ownedBy m) : plan.declarations.get? d.name = some d := by
  have howned := foldlM_induction (P := fun (done : List Struct) (o : Ownership) =>
      (∀ s ∈ done, s.declarations.Nodup) →
        ∀ m, ∀ d ∈ (o.owned.get? m).getD [], plan.declarations.get? d.name = some d)
    (fun done s o o' ih hclaim hnodup => Ownership.get?_of_mem_owned_claim h.eq_name_of_get?
      (hnodup s (by simp)) hclaim (ih fun s hs => hnodup s (by simp [hs])))
    (by simp) h.ownership
  refine howned (fun s hs => ?_) m d hd
  obtain ⟨t, -, hts⟩ := h.exists_table hs
  exact hts.nodup

end Plan.Built

/-! ## Two generations -/

/-- Two plans with the tables they are for. Where they share a table its structs have the same
members, and what is declared under one name is the same, whoever owns it. -/
structure Plan.Agree (tables tables' : List Table) (plan plan' : Plan) : Prop where
  structs : ∀ (i j : Nat) (t : Table), tables[i]? = some t → tables'[j]? = some t → ∃ s s',
    plan.structs[i]? = some s ∧ plan'.structs[j]? = some s' ∧ s.table = t.name ∧ SameMembers s s' ∧
      ∀ n ∈ s.declarations, ∃ d, plan.declarations.get? n = some d ∧
        plan'.declarations.get? n = some d
  declarations : ∀ n d d', plan.declarations.get? n = some d →
    plan'.declarations.get? n = some d' → d = d'
  owned : ∀ m m' d d', d ∈ plan.ownedBy m → d' ∈ plan'.ownedBy m' → d.name = d'.name → d = d'

theorem Plan.Built.agree {snapshot snapshot' : Snapshot} {singular singular' : Bool}
    {excluded excluded' : List String} {plan plan' : Plan}
    (htypes : snapshot'.types = snapshot.types) (h : plan.Built snapshot singular excluded)
    (h' : plan'.Built snapshot' singular' excluded') :
    Plan.Agree (includedTables snapshot.tables excluded) (includedTables snapshot'.tables excluded')
      plan plan' := by
  have hunique : ∀ n d d', plan.declarations.get? n = some d → plan'.declarations.get? n = some d' →
      d = d' := by
    intro n d d' hd hd'
    obtain ⟨-, rfl, hdeclares⟩ := h.declarations_get?_eq_some_iff.1 hd
    obtain ⟨-, hname, hdeclares'⟩ := h'.declarations_get?_eq_some_iff.1 hd'
    rw [htypes] at hdeclares'
    exact hdeclares.unique hdeclares' hname
  constructor
  case structs =>
    intro i j t ht ht'
    obtain ⟨s, hs, hts⟩ := getElem?_of_forall₂ h.structOf ht
    obtain ⟨s', hs', hts'⟩ := getElem?_of_forall₂ h'.structOf ht'
    have hsame : SameMembers s s' := hts.sameMembers (htypes ▸ hts')
    refine ⟨s, s', hs, hs', hts.table_eq, hsame, fun n hn => ?_⟩
    obtain ⟨d, hd, -, -⟩ := h.exists_declaration (List.mem_of_getElem? hs) hn
    obtain ⟨d', hd', -, -⟩ :=
      h'.exists_declaration (List.mem_of_getElem? hs') (hsame.declarations ▸ hn)
    exact ⟨d, hd, hunique n d d' hd hd' ▸ hd'⟩
  case declarations => exact hunique
  case owned =>
    intro m m' d d' hd hd' hname
    have hget := h.get?_of_mem_ownedBy hd
    exact hunique _ d d' hget (hname ▸ h'.get?_of_mem_ownedBy hd')

/-! ## Exclusion -/

/-- A snapshot from which tables were removed. -/
def withoutExcluded (snapshot : Snapshot) (excluded : List String) : Snapshot :=
  { snapshot with tables := snapshot.tables.filter (!isExcluded excluded ·.name) }

theorem includedTables_nil (tables : List Table) :
    includedTables tables [] = sortOn QualifiedName.le Table.name tables := by
  have hall : ∀ t : Table, isExcluded [] t.name = false := by simp [isExcluded, exclusionsOf]
  simp [includedTables, hall]

/-- Excluding tables is as good as removing them. -/
theorem planOf_withoutExcluded (snapshot : Snapshot) (singular : Bool) (excluded : List String) :
    planOf (withoutExcluded snapshot excluded) singular [] = planOf snapshot singular excluded := by
  have htables : includedTables (withoutExcluded snapshot excluded).tables [] =
      includedTables snapshot.tables excluded := includedTables_nil _
  simp only [planOf, htables]
  rfl

/-- **Tables on their own**: in two generations with one registry, a table that both include has the
same members and needs the same declarations, which are the same in both; and generating without the
excluded tables gives what generating with an exclusion list does. -/
theorem generate_tableAlone (snapshot : Snapshot) (options : Options) :
    (∀ snapshot' options' artifacts artifacts', snapshot'.types = snapshot.types →
      generate snapshot options = .ok artifacts → generate snapshot' options' = .ok artifacts' →
      ∃ plan plan', planOf snapshot options.singular options.excluded = .ok plan ∧
        planOf snapshot' options'.singular options'.excluded = .ok plan' ∧
        artifacts.structs = plan.structs ∧ artifacts'.structs = plan'.structs ∧
        Plan.Agree (includedTables snapshot.tables options.excluded)
          (includedTables snapshot'.tables options'.excluded) plan plan') ∧
    generate (withoutExcluded snapshot options.excluded) { options with excluded := [] } =
      generate snapshot options := by
  constructor
  · intro snapshot' options' artifacts artifacts' htypes h h'
    obtain ⟨plan, hplan, -, hstructs, -⟩ := generate_eq_ok_iff.1 h
    obtain ⟨plan', hplan', -, hstructs', -⟩ := generate_eq_ok_iff.1 h'
    exact ⟨plan, plan', hplan, hplan', hstructs, hstructs',
      (built_of_planOf hplan).agree htypes (built_of_planOf hplan')⟩
  · unfold generate
    rw [planOf_withoutExcluded]

/-- Without the users the mood belongs to the visits, and is still the same. -/
def visitsAlone : Options := ⟨true, .sqlx, ["users"]⟩

theorem sharedMood_tableAlone :
    ∃ artifacts artifacts', generate sharedMood {} = .ok artifacts ∧
      generate sharedMood visitsAlone = .ok artifacts' ∧
      generate (withoutExcluded sharedMood ["users"]) ⟨true, .sqlx, []⟩ = .ok artifacts' ∧
      ∃ plan plan', artifacts.structs = plan.structs ∧ artifacts'.structs = plan'.structs ∧
        plan.ownership.owners.get? ⟨"public", "mood"⟩ = some "users" ∧
        plan'.ownership.owners.get? ⟨"public", "mood"⟩ = some "visit" ∧
        Plan.Agree (includedTables sharedMood.tables [])
          (includedTables sharedMood.tables ["users"])
          plan plan' := by
  obtain ⟨artifacts, h, -⟩ := exists_generate_sharedMood
  obtain ⟨artifacts', h'⟩ : ∃ artifacts', generate sharedMood visitsAlone = .ok artifacts' :=
    exists_of_isOk (by decide +kernel)
  obtain ⟨plan, plan', hplan, hplan', hstructs, hstructs', hagree⟩ :=
    (generate_tableAlone sharedMood {}).1 sharedMood visitsAlone artifacts artifacts' rfl h h'
  have howner : (planOf sharedMood false []).map (·.ownership.owners.get? ⟨"public", "mood"⟩) =
      .ok (some "users") := by decide +kernel
  have howner' : (planOf sharedMood visitsAlone.singular visitsAlone.excluded).map
      (·.ownership.owners.get? ⟨"public", "mood"⟩) = .ok (some "visit") := by decide +kernel
  rw [hplan] at howner
  rw [hplan'] at howner'
  exact ⟨artifacts, artifacts', h, h', (generate_tableAlone sharedMood visitsAlone).2.trans h',
    plan, plan', hstructs, hstructs', Except.ok.inj howner, Except.ok.inj howner', hagree⟩

end SchemaStructs.Generate
