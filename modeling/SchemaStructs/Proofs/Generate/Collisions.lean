import SchemaStructs.Proofs.Generate.Ownership
import SchemaStructs.Proofs.Generate.RowOrder
import SchemaStructs.Proofs.Mapping.Totality

/-!
# Generation fails by collisions only

Generation looks up types, identifiers, declarations and owners by name, and pairs the columns of
foreign keys. In a snapshot that was read from rows every lookup finds what it looks for: the
registry has each type that a column can reach, an identifier was assigned to each name that is
asked for, and every name that a struct needs is declared and owned. What is left to fail are the
checks of names.
-/

namespace SchemaStructs

open Catalog Mapping Generate

namespace Catalog

/-! ## Snapshots in which nothing is missing -/

/-- Each foreign key refers to as many columns as it has. -/
def Table.Paired (t : Table) : Prop :=
  ∀ key ∈ t.foreignKeys, key.referencedColumns.length = key.columns.length

/-- What generation looks up in a snapshot is there: the registry knows the types of all columns,
and foreign keys pair their columns. -/
structure Snapshot.Complete (snapshot : Snapshot) : Prop where
  knows : ∀ t ∈ snapshot.tables, ∀ column ∈ t.columns, snapshot.types.Knows column.type
  paired : ∀ t ∈ snapshot.tables, t.Paired

theorem TableRows.length_referencedColumns {rows : TableRows} {table : Oid} {constraint : String}
    {key : ForeignKey} (h : rows.foreignKey? table constraint = some key) :
    key.referencedColumns.length = key.columns.length := by
  obtain ⟨first, -, rfl⟩ := Option.map_eq_some_iff.1 h
  simp only [List.length_map]

theorem TableRows.paired_of_table {rows : TableRows} {types : Registry} {row : TableRow} {t : Table}
    (h : rows.table types row = .ok t) : t.Paired := by
  obtain ⟨columns, -, h⟩ := bind_eq_ok_iff.1 h
  cases pure_eq_ok_iff.1 h
  intro key hkey
  obtain ⟨constraint, -, hfound⟩ := List.mem_filterMap.1 hkey
  exact length_referencedColumns hfound

theorem TableRows.exists_row_of_mem {rows : TableRows} {types : Registry} {tables : List Table}
    (h : rows.assemble types = .ok tables) {t : Table} (ht : t ∈ tables) :
    ∃ row ∈ rows.tables, rows.table types row = .ok t := by
  obtain ⟨tables', htables, rfl⟩ := map_eq_ok_iff.1 h
  exact exists_left_of_mem (mapM_eq_ok_iff.1 htables) (mem_sortOn.1 ht)

end Catalog

namespace Server.Answers

variable {a : Answers} {version : Option String} {snapshot : Snapshot}

theorem snapshot_eq_ok_iff : a.snapshot version = .ok snapshot ↔
    Registry.ofRows a.typeRows = .ok snapshot.types ∧
      a.tableRows.assemble snapshot.types = .ok snapshot.tables ∧
      snapshot.serverVersion = version := by
  rw [Answers.snapshot, Capture.snapshot, bind_eq_ok_iff]
  constructor
  · rintro ⟨types, htypes, h⟩
    obtain ⟨tables, htables, h⟩ := bind_eq_ok_iff.1 h
    cases pure_eq_ok_iff.1 h
    exact ⟨htypes, htables, rfl⟩
  · rintro ⟨htypes, htables, rfl⟩
    exact ⟨_, htypes, bind_eq_ok_iff.2 ⟨_, htables, rfl⟩⟩

/-- Nothing is missing in what was read, if oids and names of types are given once. -/
theorem complete_snapshot (hoids : (a.types.map TypeRow.oid).Nodup)
    (hnames : ((a.types.filter TypeRow.isRegistered).map TypeRow.qualifiedName).Nodup)
    (h : a.snapshot version = .ok snapshot) : snapshot.Complete := by
  obtain ⟨htypes, htables, -⟩ := snapshot_eq_ok_iff.1 h
  have hindexed : a.typeRows.Indexed := TypeRows.indexed_ofRows a.types a.labels a.attributes
  have hregistered : (a.typeRows.registered.map TypeRow.qualifiedName).Nodup := by
    have hperm := TypeRows.registered_perm hoids a.labels a.attributes
    exact (hperm.map TypeRow.qualifiedName).nodup_iff.2 hnames
  constructor
  case knows =>
    intro t ht column hcolumn
    obtain ⟨row, -, hrow⟩ := TableRows.exists_row_of_mem htables ht
    obtain ⟨columnRow, -, hcolumnOf⟩ :=
      exists_left_of_mem (TableRows.tableOf_of_table hrow).columns hcolumn
    have hresolve := hcolumnOf.type
    rw [Registry.resolve_eq (Registry.exists_row_of_get? htypes).1] at hresolve
    exact Registry.knows_of_gives hindexed hregistered htypes
      (TypeRows.gives_of_resolve hindexed hresolve)
  case paired =>
    intro t ht
    obtain ⟨row, -, hrow⟩ := TableRows.exists_row_of_mem htables ht
    exact TableRows.paired_of_table hrow

end Server.Answers

namespace Generate

/-! ## Computations that fail by collisions only -/

/-- A failure, if there is one, is a collision of two different names. -/
def CollidesOnly {α : Type} (x : Except GenerationError α) : Prop :=
  ∀ e, x = .error e → ∃ c : Identifier.Collision, e = .collision c ∧ c.first ≠ c.second

namespace CollidesOnly

variable {α β : Type} {x : Except GenerationError α}

theorem of_exists (h : ∃ a, x = .ok a) : CollidesOnly x := by
  rintro e he
  obtain ⟨a, ha⟩ := h
  rw [ha] at he
  cases he

theorem pure (a : α) : CollidesOnly (Pure.pure a) := of_exists ⟨a, rfl⟩

theorem bind {f : α → Except GenerationError β} (h : CollidesOnly x)
    (hf : ∀ a, x = .ok a → CollidesOnly (f a)) : CollidesOnly (x >>= f) := by
  intro e he
  rcases bind_eq_error_iff.1 he with hx | ⟨a, ha, hfa⟩
  · exact h e hx
  · exact hf a ha e hfa

theorem mapM {f : β → Except GenerationError α} {xs : List β} (h : ∀ b ∈ xs, CollidesOnly (f b)) :
    CollidesOnly (xs.mapM f) := by
  intro e he
  obtain ⟨b, hb, hfb⟩ := exists_of_mapM_eq_error he
  exact h b hb e hfb

theorem forM {f : β → Except GenerationError PUnit} {xs : List β}
    (h : ∀ b ∈ xs, CollidesOnly (f b)) : CollidesOnly (xs.forM f) := by
  induction xs with
  | nil => exact .pure _
  | cons b rest ih =>
    rw [List.forM_eq_forM] at ih ⊢
    rw [List.forM_cons]
    apply (h b List.mem_cons_self).bind
    intro _ _
    exact ih fun b' hb' => h b' (List.mem_cons_of_mem _ hb')

end CollidesOnly

theorem collidesOnly_assign (scope : String) (pairs : List Identifier.Named)
    (mode : Identifier.CaseMode) : CollidesOnly (assign scope pairs mode) := by
  intro e he
  unfold assign at he
  cases h : Identifier.assign scope mode pairs with
  | ok identifiers =>
    rw [h] at he
    cases he
  | error c =>
    rw [h] at he
    cases he
    exact ⟨c, rfl, Identifier.first_ne_second_of_assign h⟩

/-- A traversal without failing element succeeds. -/
theorem exists_mapM_eq_ok {α β : Type} {f : α → Except GenerationError β} {xs : List α}
    (h : ∀ x ∈ xs, ∃ y, f x = .ok y) : ∃ ys, xs.mapM f = .ok ys := by
  apply exists_eq_ok
  intro e he
  obtain ⟨x, hx, hfx⟩ := exists_of_mapM_eq_error he
  obtain ⟨y, hy⟩ := h x hx
  rw [hy] at hfx
  cases hfx

/-! ## Lookups that succeed -/

theorem exists_identifierOf {scope : String} {pairs : List Identifier.Named}
    {mode : Identifier.CaseMode} {identifiers : Entries String String}
    (h : assign scope pairs mode = .ok identifiers) {source : String}
    (hs : source ∈ pairs.map Prod.fst) :
    ∃ identifier, identifierOf identifiers source = .ok identifier := by
  obtain ⟨-, rfl⟩ := assign_eq_ok_iff.1 h
  obtain ⟨identifier, hget⟩ := Entries.exists_get?_of_mem_keys (Entries.mem_keys_ofPairs.2 hs)
  exact ⟨identifier, identifierOf_eq_ok_iff.2 hget⟩

theorem exists_declarationOf {declarations : Entries QualifiedName Declaration} {n : QualifiedName}
    (h : n ∈ declarations.keys) : ∃ d, declarationOf declarations n = .ok d := by
  obtain ⟨d, hget⟩ := Entries.exists_get?_of_mem_keys h
  exact ⟨d, declarationOf_eq_ok_iff.2 hget⟩

/-! ## Structs -/

section Structs

variable {registry : Registry} {table : Table}

theorem exists_referenceNote (hpaired : table.Paired) (column : String) :
    ∃ note, referenceNote? table column = .ok note := by
  unfold referenceNote?
  cases hkey : table.foreignKeyFor? column with
  | none => exact ⟨_, rfl⟩
  | some key =>
    have hcolumn : column ∈ key.columns := by simpa using List.find?_some hkey
    have hlength := hpaired key (List.mem_of_find?_eq_some hkey)
    have hidx : key.columns.idxOf column < key.referencedColumns.length := by
      rw [hlength]
      exact List.idxOf_lt_length_iff.2 hcolumn
    simp only [ForeignKey.referencedColumn?, List.getElem?_eq_getElem hidx]
    exact ⟨_, rfl⟩

theorem exists_buildField (hpaired : table.Paired) {column : Column}
    (hknows : registry.Knows column.type) (draft : Draft) :
    ∃ r, buildField registry table draft column = .ok r := by
  obtain ⟨m, hm, -⟩ := exists_mapType hknows
  obtain ⟨references, hreferences⟩ := exists_referenceNote hpaired column.name
  have hnullable : mapNullable registry column.type (fieldTakesNull column) =
      .ok (m.nullable (fieldTakesNull column)) := map_eq_ok_iff.2 ⟨m, hm, rfl⟩
  exact ⟨_, buildField_eq_ok_iff.2 ⟨_, references, hnullable, hreferences, rfl, rfl, rfl⟩⟩

theorem exists_buildFields (hpaired : table.Paired) {columns : List Column}
    (hknows : ∀ column ∈ columns, registry.Knows column.type) (draft : Draft) :
    ∃ r, buildFields registry table draft columns = .ok r := by
  induction columns generalizing draft with
  | nil => exact ⟨_, rfl⟩
  | cons column rest ih =>
    obtain ⟨hcolumn, hrest⟩ := List.forall_mem_cons.1 hknows
    obtain ⟨⟨draft₁, field, names⟩, hfield⟩ := exists_buildField hpaired hcolumn draft
    obtain ⟨⟨draft₂, fields, names'⟩, hfields⟩ := ih hrest draft₁
    refine ⟨(draft₂, field :: fields, names ++ names'), ?_⟩
    unfold buildFields
    exact bind_eq_ok_iff.2 ⟨_, hfield, bind_eq_ok_iff.2 ⟨_, hfields, rfl⟩⟩

theorem collidesOnly_buildStruct (hpaired : table.Paired)
    (hknows : ∀ column ∈ table.columns, registry.Knows column.type) (draft : Draft)
    (identifier : String) : CollidesOnly (buildStruct registry draft table identifier) := by
  unfold buildStruct
  apply CollidesOnly.bind (.of_exists (exists_buildFields hpaired hknows draft))
  rintro ⟨draft', fields, names⟩ -
  apply (collidesOnly_assign _ _ _).bind
  intro _ _
  exact .pure _

theorem collidesOnly_buildStructs {scope : String} {pairs : List Identifier.Named}
    {mode : Identifier.CaseMode} {identifiers : Entries String String}
    (hassign : assign scope pairs mode = .ok identifiers) {tables : List Table}
    (hnamed : ∀ t ∈ tables, t.name.text ∈ pairs.map Prod.fst) (hpaired : ∀ t ∈ tables, t.Paired)
    (hknows : ∀ t ∈ tables, ∀ column ∈ t.columns, registry.Knows column.type) (draft : Draft) :
    CollidesOnly (buildStructs registry identifiers draft tables) := by
  induction tables generalizing draft with
  | nil => exact .pure _
  | cons t rest ih =>
    obtain ⟨hname, hnamed⟩ := List.forall_mem_cons.1 hnamed
    obtain ⟨hpair, hpaired⟩ := List.forall_mem_cons.1 hpaired
    obtain ⟨hknow, hknows⟩ := List.forall_mem_cons.1 hknows
    unfold buildStructs
    apply CollidesOnly.bind (.of_exists (exists_identifierOf hassign hname))
    intro identifier _
    apply (collidesOnly_buildStruct hpair hknow draft identifier).bind
    rintro ⟨draft', s⟩ -
    apply (ih hnamed hpaired hknows draft').bind
    intro _ _
    exact .pure _

end Structs

/-! ## Owners -/

section Owners

variable {declarations : Entries QualifiedName Declaration}

theorem exists_claim {s : Struct} (hs : ∀ n ∈ s.declarations, n ∈ declarations.keys)
    (o : Ownership) : ∃ o', o.claim declarations s = .ok o' := by
  have hnew : ∃ new, (s.declarations.filter (!o.owners.has ·)).mapM (declarationOf declarations) =
      .ok new := by
    apply exists_mapM_eq_ok
    intro n hn
    exact exists_declarationOf (hs n (List.mem_filter.1 hn).1)
  obtain ⟨new, hnew⟩ := hnew
  refine ⟨_, claim_eq_ok_iff.2 ⟨new, ?_, rfl⟩⟩
  exact (mapM_eq_ok_iff.1 hnew).imp fun n d hd => declarationOf_eq_ok_iff.1 hd

theorem exists_claims_of_structs {structs : List Struct}
    (h : ∀ s ∈ structs, ∀ n ∈ s.declarations, n ∈ declarations.keys) (o : Ownership) :
    ∃ o', structs.foldlM (Ownership.claim declarations) o = .ok o' := by
  apply exists_eq_ok
  intro e he
  obtain ⟨s, hs, o', hclaim⟩ := exists_of_foldlM_eq_error he
  obtain ⟨o'', hok⟩ := exists_claim (h s hs) o'
  rw [hok] at hclaim
  cases hclaim

end Owners

/-! ## Plans -/

theorem collidesOnly_checkNames {plan : Plan} {s : Struct}
    (hs : ∀ n ∈ s.declarations, n ∈ plan.declarations.keys) : CollidesOnly (plan.checkNames s) := by
  unfold Plan.checkNames Plan.namesIn
  apply CollidesOnly.bind
  · apply CollidesOnly.bind
    · apply CollidesOnly.mapM
      intro n hn
      apply CollidesOnly.bind (.of_exists (exists_declarationOf (hs n hn)))
      intro _ _
      exact .pure _
    intro _ _
    exact .pure _
  intro names _
  apply (collidesOnly_assign _ _ _).bind
  intro _ _
  exact .pure _

theorem collidesOnly_planOf {snapshot : Snapshot} (h : snapshot.Complete) (singular : Bool)
    (excluded : List String) : CollidesOnly (planOf snapshot singular excluded) := by
  have hincluded : ∀ t ∈ includedTables snapshot.tables excluded, t ∈ snapshot.tables :=
    fun t ht => (mem_includedTables.1 ht).1
  unfold planOf
  apply (collidesOnly_assign _ _ _).bind
  intro identifiers hassign
  apply CollidesOnly.bind
  · refine collidesOnly_buildStructs hassign (fun t ht => ?_) ?_ ?_ {}
    · rw [List.map_map]
      exact List.mem_map_of_mem (f := fun t : Table => t.name.text) ht
    · exact fun t ht => h.paired t (hincluded t ht)
    · exact fun t ht => h.knows t (hincluded t ht)
  rintro ⟨draft, structs⟩ hstructs
  have hneeded : ∀ s ∈ structs, ∀ n ∈ s.declarations, n ∈ draft.declarations.keys := by
    intro s hs n hn
    exact ((buildStructs_spec .empty hstructs).2.keys n).2 (Or.inr ⟨s, hs, hn⟩)
  apply (collidesOnly_assign _ _ _).bind
  intro _ _
  apply (collidesOnly_assign _ _ _).bind
  intro _ _
  apply CollidesOnly.bind (.of_exists (exists_claims_of_structs hneeded {}))
  intro ownership _
  apply CollidesOnly.bind
  · apply CollidesOnly.forM
    intro s hs
    exact collidesOnly_checkNames (hneeded s hs)
  intro _ _
  exact .pure _

/-! ## Files -/

theorem collidesOnly_declarationLines (framework : Framework) (d : Declaration) :
    CollidesOnly (declarationLines framework d) := by
  unfold declarationLines
  split
  · rename_i labels _
    unfold enumLines
    apply (collidesOnly_assign _ _ _).bind
    intro variants hvariants
    apply CollidesOnly.bind
    · apply CollidesOnly.mapM
      intro label hlabel
      have hmem : label ∈ (labels.map fun l => (l, Identifier.variantName l)).map Prod.fst := by
        simpa using hlabel
      apply CollidesOnly.bind (.of_exists (exists_identifierOf hvariants hmem))
      intro _ _
      exact .pure _
    intro _ _
    exact .pure _
  · rename_i fields _ _ _
    unfold compositeLines
    apply (collidesOnly_assign _ _ _).bind
    intro identifiers hidentifiers
    apply CollidesOnly.bind
    · apply CollidesOnly.mapM
      intro field hfield
      have hmem : field.1 ∈
          (fields.map fun f => (f.1, Identifier.columnName f.1)).map Prod.fst := by
        rw [List.map_map]
        exact List.mem_map_of_mem (f := Prod.fst) hfield
      apply CollidesOnly.bind (.of_exists (exists_identifierOf hidentifiers hmem))
      intro _ _
      exact .pure _
    intro _ _
    exact .pure _

namespace Plan.Built

variable {snapshot : Snapshot} {singular : Bool} {excluded : List String} {plan : Plan}

/-- What a struct needs is declared and has an owner. -/
theorem collidesOnly_importedBy (h : plan.Built snapshot singular excluded) {s : Struct}
    (hs : s ∈ plan.structs) : CollidesOnly (plan.importedBy s) := by
  unfold Plan.importedBy
  apply CollidesOnly.bind
  · apply CollidesOnly.mapM
    intro n hn
    obtain ⟨owner, howner⟩ :=
      Entries.exists_get?_of_mem_keys (mem_owners_of_claims h.eq_name_of_get? h.ownership s hs n hn)
    obtain ⟨d, hget, -⟩ := h.exists_declaration hs hn
    have hownerOf : plan.ownerOf n = .ok owner := by rw [Plan.ownerOf, howner]
    apply CollidesOnly.bind (.of_exists ⟨owner, hownerOf⟩)
    intro owner _
    split
    · exact .pure _
    · apply CollidesOnly.bind (.of_exists ⟨d, declarationOf_eq_ok_iff.2 hget⟩)
      intro _ _
      exact .pure _
  intro _ _
  exact .pure _

theorem collidesOnly_files (h : plan.Built snapshot singular excluded) (framework : Framework) :
    CollidesOnly (plan.files framework) := by
  unfold Plan.files
  apply CollidesOnly.bind
  · apply CollidesOnly.mapM
    intro s hs
    unfold Plan.structFile
    apply (h.collidesOnly_importedBy hs).bind
    intro imported _
    apply CollidesOnly.bind
    · unfold tableFile
      apply (CollidesOnly.mapM fun d _ => collidesOnly_declarationLines framework d).bind
      intro _ _
      exact .pure _
    intro _ _
    exact .pure _
  intro _ _
  exact .pure _

end Plan.Built

theorem collidesOnly_generate {snapshot : Snapshot} (h : snapshot.Complete) (options : Options) :
    CollidesOnly (generate snapshot options) := by
  unfold generate
  apply (collidesOnly_planOf h options.singular options.excluded).bind
  intro plan hplan
  apply ((built_of_planOf hplan).collidesOnly_files options.framework).bind
  intro _ _
  exact .pure _

end Generate

namespace Server.Answers

/-- **Only collisions**: generation from what was read gives its files or tells of two different
names with one identifier, whatever the options. -/
theorem generate_ok_or_collision (a : Answers) (hoids : (a.types.map TypeRow.oid).Nodup)
    (hnames : ((a.types.filter TypeRow.isRegistered).map TypeRow.qualifiedName).Nodup)
    (version : Option String) {snapshot : Snapshot} (h : a.snapshot version = .ok snapshot)
    (options : Options) :
    (∃ artifacts, generate snapshot options = .ok artifacts) ∨
      ∃ c : Identifier.Collision,
        generate snapshot options = .error (.collision c) ∧ c.first ≠ c.second := by
  cases hgenerate : generate snapshot options with
  | ok artifacts => exact Or.inl ⟨artifacts, rfl⟩
  | error e =>
    have hcomplete := complete_snapshot hoids hnames h
    obtain ⟨c, rfl, hne⟩ := collidesOnly_generate hcomplete options e hgenerate
    exact Or.inr ⟨c, rfl, hne⟩

/-- A shop with a second table of orders, whose name differs in case only. -/
def twoOrders : Answers := { shop with tables := ⟨12, "public", "Orders", "r"⟩ :: shop.tables }

/-- The shop has its files; the two tables of orders collide. -/
theorem shop_generate_ok_or_collision :
    (shop.types.map TypeRow.oid).Nodup ∧
      ((shop.types.filter TypeRow.isRegistered).map TypeRow.qualifiedName).Nodup ∧
      (∃ snapshot artifacts, shop.snapshot none = .ok snapshot ∧
        generate snapshot {} = .ok artifacts ∧
        artifacts.files.map Prod.fst = ["customers.rs", "mod.rs", "orders.rs"]) ∧
      ∃ snapshot, twoOrders.snapshot none = .ok snapshot ∧
        generate snapshot {} =
          .error (.collision ⟨"Orders", "public.Orders", "public.orders", "struct"⟩) := by
  have hoids := shop_unambiguous.type_oids
  have htypes := shop_unambiguous.type_names
  refine ⟨hoids, htypes, ?_, ?_⟩
  · obtain ⟨snapshot, hsnapshot⟩ : ∃ snapshot, shop.snapshot none = .ok snapshot := ⟨_, rfl⟩
    have hfiles : ((shop.snapshot none).toOption.bind fun snapshot =>
        (generate snapshot {}).toOption.map (·.files.map Prod.fst)) =
          some ["customers.rs", "mod.rs", "orders.rs"] := by
      decide +kernel
    rw [hsnapshot, Except.toOption, Option.bind_some] at hfiles
    rcases generate_ok_or_collision shop hoids htypes none hsnapshot {} with
      ⟨artifacts, h⟩ | ⟨c, h, -⟩
    · rw [h] at hfiles
      exact ⟨snapshot, artifacts, hsnapshot, h, Option.some.inj hfiles⟩
    · rw [h] at hfiles
      cases hfiles
  · obtain ⟨snapshot, hsnapshot⟩ : ∃ snapshot, twoOrders.snapshot none = .ok snapshot := ⟨_, rfl⟩
    have hresult : ((twoOrders.snapshot none).toOption.map fun snapshot =>
        (generate snapshot {}).map (·.files)) =
          some (.error (.collision ⟨"Orders", "public.Orders", "public.orders", "struct"⟩)) := by
      decide +kernel
    rw [hsnapshot, Except.toOption, Option.map_some, Option.some_inj] at hresult
    rcases generate_ok_or_collision twoOrders hoids htypes none hsnapshot {} with
      ⟨artifacts, h⟩ | ⟨c, h, -⟩
    · rw [h] at hresult
      cases hresult
    · rw [h] at hresult
      cases hresult
      exact ⟨snapshot, hsnapshot, h⟩

end Server.Answers

end SchemaStructs
