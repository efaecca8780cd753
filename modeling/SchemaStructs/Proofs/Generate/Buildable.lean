import SchemaStructs.Proofs.Generate.Plan

/-!
# Structs that can be built

What is known of the struct of a table is enough to build it: a struct that was built once beside
some tables is built beside any others, with the same members. So nothing but names can keep a table
whose struct is known from having it elsewhere.
-/

namespace SchemaStructs.Generate

open Catalog Mapping Comparison

variable {registry : Registry} {table : Table}

theorem buildField_of_fieldOf {column : Column} {f : Field} (h : FieldOf registry table column f)
    (draft : Draft) :
    ∃ draft' names, buildField registry table draft column = .ok (draft', f, names) := by
  obtain ⟨m, hm, htype⟩ := h.type_eq
  refine ⟨_, _, buildField_eq_ok_iff.2 ⟨m, f.references, hm, h.references_eq, rfl, ?_, rfl⟩⟩
  rw [← h.name_eq, ← h.column_eq, ← htype, ← h.facts_eq, ← h.sqlType_eq]

theorem buildFields_of_forall₂ {columns : List Column} {fields : List Field}
    (h : List.Forall₂ (FieldOf registry table) columns fields) (draft : Draft) :
    ∃ draft' names, buildFields registry table draft columns = .ok (draft', fields, names) := by
  induction h generalizing draft with
  | nil => exact ⟨draft, [], rfl⟩
  | @cons column f columns fields hf _ ih =>
    obtain ⟨draft₁, names₁, hfield⟩ := buildField_of_fieldOf hf draft
    obtain ⟨draft₂, names₂, hrest⟩ := ih draft₁
    exact ⟨draft₂, names₁ ++ names₂,
      bind_eq_ok_iff.2 ⟨_, hfield, bind_eq_ok_iff.2 ⟨_, hrest, rfl⟩⟩⟩

theorem buildStruct_of_structOf {s : Struct} {draft : Draft} {needed : QualifiedName → Prop}
    (hdraft : draft.Holds registry needed) (h : StructOf registry table s) :
    ∃ draft', buildStruct registry draft table s.name = .ok (draft', s) := by
  obtain ⟨draft₁, names, hfields⟩ := buildFields_of_forall₂ h.fields draft
  obtain ⟨-, hnames, -⟩ := buildFields_spec hdraft hfields
  -- both lists hold the names that the columns reach, in ascending order
  have hneeded : sortedSet QualifiedName.le names = s.declarations := by
    have hperm : (sortedSet QualifiedName.le names).Perm s.declarations := by
      refine (List.perm_ext_iff_of_nodup (nodup_sortedSet QualifiedName.le_linear names)
        h.nodup).2 ?_
      exact fun n => mem_sortedSet.trans ((hnames n).trans (h.declarations n).symm)
    exact @eq_of_perm_of_pairwise_before _ _ _ QualifiedName.le_linear id _ _ hperm
      (pairwise_sortedSet QualifiedName.le_linear names) h.ordered
  refine ⟨draft₁, bind_eq_ok_iff.2 ⟨_, hfields, bind_eq_ok_iff.2
    ⟨_, assign_eq_ok_iff.2 ⟨h.fieldNames, rfl⟩, ?_⟩⟩⟩
  rw [hneeded, ← h.table_eq, ← h.kind_eq, ← h.moduleName_eq]
  rfl

/-- The structs of some tables are built again whatever was met before them. -/
theorem buildStructs_of_forall₂ {identifiers : Entries String String} {tables : List Table}
    {structs : List Struct} {draft : Draft} {needed : QualifiedName → Prop}
    (hdraft : draft.Holds registry needed)
    (h : List.Forall₂
      (fun t s => identifiers.get? t.name.text = some s.name ∧ StructOf registry t s)
      tables structs) :
    ∃ draft', buildStructs registry identifiers draft tables = .ok (draft', structs) := by
  induction h generalizing draft needed with
  | nil => exact ⟨draft, rfl⟩
  | @cons t s tables structs hts _ ih =>
    obtain ⟨draft₁, hstruct⟩ := buildStruct_of_structOf hdraft hts.2
    obtain ⟨-, -, hdraft₁⟩ := buildStruct_spec hdraft hstruct
    obtain ⟨draft₂, hrest⟩ := ih hdraft₁
    exact ⟨draft₂, bind_eq_ok_iff.2 ⟨s.name, identifierOf_eq_ok_iff.2 hts.1,
      bind_eq_ok_iff.2 ⟨_, hstruct, bind_eq_ok_iff.2 ⟨_, hrest, rfl⟩⟩⟩⟩

/-! ## Plans but for their last check -/

/-- A plan of which everything is known but that the names in each module are different. -/
structure Plan.Drafted (snapshot : Snapshot) (singular : Bool) (excluded : List String)
    (plan : Plan) : Prop where
  identifiers : Identifier.Consistent .sensitive
    (structNames singular (includedTables snapshot.tables excluded))
  structs : buildStructs snapshot.types
    (.ofPairs (structNames singular (includedTables snapshot.tables excluded))) {}
    (includedTables snapshot.tables excluded) =
      .ok (⟨plan.declarations, plan.warnings⟩, plan.structs)
  modules : Identifier.Consistent .insensitive
    (plan.structs.map (fun s => (s.table.text, s.moduleName)) ++ [(indexFileName, "mod")])
  types : Identifier.Consistent .sensitive
    (plan.structs.map (fun s => (s.table.text, s.name)) ++
      plan.declarations.map fun e => (s!"type {e.1.text}", e.2.identifier))
  ownership : plan.structs.foldlM (Ownership.claim plan.declarations) {} = .ok plan.ownership

namespace Plan.Drafted

variable {snapshot : Snapshot} {singular : Bool} {excluded : List String} {plan : Plan} {s : Struct}

/-- Only the names in the modules are left to be checked. -/
theorem planOf_eq (h : plan.Drafted snapshot singular excluded) :
    planOf snapshot singular excluded =
      (plan.structs.forM plan.checkNames >>= fun _ => pure plan) := by
  refine (bind_of_eq_ok (assign_eq_ok_iff.2 ⟨h.identifiers, rfl⟩) _).trans ?_
  refine (bind_of_eq_ok h.structs _).trans ?_
  refine (bind_of_eq_ok (assign_eq_ok_iff.2 ⟨h.modules, rfl⟩) _).trans ?_
  refine (bind_of_eq_ok (assign_eq_ok_iff.2 ⟨h.types, rfl⟩) _).trans ?_
  exact bind_of_eq_ok h.ownership _

theorem planOf_ok_iff (h : plan.Drafted snapshot singular excluded) {plan' : Plan} :
    planOf snapshot singular excluded = .ok plan' ↔
      plan' = plan ∧ ∀ s ∈ plan.structs, plan.checkNames s = .ok () := by
  rw [h.planOf_eq]
  constructor
  · intro hplan'
    obtain ⟨⟨⟩, hnames, hplan'⟩ := bind_eq_ok_iff.1 hplan'
    exact ⟨(pure_eq_ok_iff.1 hplan').symm, forM_eq_ok_iff.1 hnames⟩
  · rintro ⟨rfl, hnames⟩
    exact bind_of_eq_ok (forM_eq_ok_iff.2 hnames) _

theorem exists_of_planOf_error (h : plan.Drafted snapshot singular excluded) {e : GenerationError}
    (he : planOf snapshot singular excluded = .error e) :
    ∃ s ∈ plan.structs, plan.checkNames s = .error e := by
  rw [h.planOf_eq] at he
  rcases bind_eq_error_iff.1 he with he | ⟨-, -, he⟩
  · exact exists_of_forM_eq_error he
  · cases he

theorem holds (h : plan.Drafted snapshot singular excluded) :
    Draft.Holds snapshot.types ⟨plan.declarations, plan.warnings⟩
      fun n => ∃ s ∈ plan.structs, n ∈ s.declarations :=
  (buildStructs_spec .empty h.structs).2.congr fun n => by rw [false_or]

end Plan.Drafted

end SchemaStructs.Generate
