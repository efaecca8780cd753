import SchemaStructs.Proofs.Catalog.Agreement
import SchemaStructs.Proofs.Sorting

/-!
# Rows in another order

What resolution reads of the rows is looked up by oid, or sorted by a key that no two of the rows in
question share. So rows in another order give the same registry and the same tables.
-/

namespace SchemaStructs.Catalog

open Comparison

/-! ## Types -/

/-- Rows from which resolution reads the same. -/
structure TypeRows.Alike (rows rows' : TypeRows) : Prop where
  length : rows.types.length = rows'.types.length
  row? : ∀ oid, rows.row? oid = rows'.row? oid
  registered : rows.registered = rows'.registered
  labelsOf : ∀ row, rows.row? row.oid = some row → row.kind = "e" →
    rows.labelsOf row.oid = rows'.labelsOf row.oid
  attributesOf : ∀ row, rows.row? row.oid = some row → row.kind = "c" →
    rows.attributesOf row.oid = rows'.attributesOf row.oid

namespace TypeRows.Alike

variable {rows rows' : TypeRows}

theorem unwrap_eq (h : Alike rows rows') (oid : Oid) (modifier dimensions : Int) :
    rows.unwrap oid modifier dimensions = rows'.unwrap oid modifier dimensions := by
  suffices H : ∀ steps oid modifier dimensions,
      rows.unwrapWith steps oid modifier dimensions =
        rows'.unwrapWith steps oid modifier dimensions by
    rw [unwrap, unwrap, h.length, H]
  intro steps
  induction steps with
  | zero => exact fun _ _ _ => rfl
  | succ steps ih =>
    intro oid modifier dimensions
    simp only [unwrapWith, h.row?, ih]

/-- References are resolved alike if the definitions behind them are expanded alike. -/
theorem resolveWith_eq (h : Alike rows rows') (hindexed : rows.Indexed)
    {f g : TypeRow → Except ResolutionError TypeRef}
    (hfg : ∀ row, rows.row? row.oid = some row → f row = g row) (oid : Oid)
    (modifier dimensions : Int) :
    rows.resolveWith f oid modifier dimensions = rows'.resolveWith g oid modifier dimensions := by
  cases hunwrap : rows.unwrap oid modifier dimensions with
  | none =>
    rw [resolveWith, resolveWith, ← h.unwrap_eq, hunwrap]
  | some found =>
    obtain ⟨ws, core⟩ := found
    rw [TypeRows.resolveWith_eq hunwrap, TypeRows.resolveWith_eq (h.unwrap_eq _ _ _ ▸ hunwrap)]
    cases core with
    | missing oid => rfl
    | leaf type => rfl
    | userDefined row =>
      obtain ⟨oid', -, hrow, -⟩ := exists_wraps_of_unwrapWith hunwrap
      rw [coreType, coreType, hfg row (hindexed.row?_oid hrow)]

theorem expand_eq (h : Alike rows rows') (hindexed : rows.Indexed) (steps : Nat) (path : List Visit)
    {row : TypeRow} (hrow : rows.row? row.oid = some row) :
    rows.expand steps path row = rows'.expand steps path row := by
  induction steps generalizing path row with
  | zero => rfl
  | succ steps ih =>
    have hresolve : rows.resolveWith
        (rows.expand steps (path ++ [(row.oid, row.qualifiedName.text)])) =
        rows'.resolveWith (rows'.expand steps (path ++ [(row.oid, row.qualifiedName.text)])) := by
      funext oid modifier dimensions
      exact h.resolveWith_eq hindexed (fun _ hinner => ih _ hinner) oid modifier dimensions
    rw [expand, expand]
    split
    · rfl
    split
    · rename_i hkind
      rw [h.labelsOf row hrow hkind]
    split
    · rename_i hkind
      rw [h.attributesOf row hrow hkind, hresolve]
    · rw [hresolve]

theorem define_eq (h : Alike rows rows') (hindexed : rows.Indexed) {row : TypeRow}
    (hrow : rows.row? row.oid = some row) : rows.define row = rows'.define row := by
  rw [define, define, h.length, h.expand_eq hindexed _ _ hrow]

theorem resolve_eq (h : Alike rows rows') (hindexed : rows.Indexed) (oid : Oid)
    (modifier dimensions : Int) :
    rows.resolve oid modifier dimensions = rows'.resolve oid modifier dimensions :=
  h.resolveWith_eq hindexed (fun _ hrow => h.define_eq hindexed hrow) oid modifier dimensions

end TypeRows.Alike

/-- The sort orders of two labels are distinct numbers: one label is sorted before the other. -/
def LabelRow.Separated (a b : LabelRow) : Prop :=
  a.sortOrder.value.less b.sortOrder.value ∨ b.sortOrder.value.less a.sortOrder.value

instance (a b : LabelRow) : Decidable (a.Separated b) := inferInstanceAs (Decidable (_ ∨ _))

namespace TypeRows

variable {rows rows' : TypeRows} {oid : Oid}

/-- A sort order that is in no order with others can only be the only one. -/
theorem isDefined_or_length_le_one {labels : List LabelRow}
    (h : labels.Pairwise LabelRow.Separated) :
    (labels.all fun row => row.sortOrder.value.isDefined) = true ∨ labels.length ≤ 1 := by
  cases labels with
  | nil => exact Or.inl rfl
  | cons a rest =>
    cases rest with
    | nil => exact Or.inr (Nat.le_refl _)
    | cons b rest =>
      have ha := (List.pairwise_cons.1 h).1
      have hdefined : ∀ c, LabelRow.Separated a c →
          a.sortOrder.value.isDefined = true ∧ c.sortOrder.value.isDefined = true := by
        rintro c (hless | hless)
        · exact Numeric.Extended.isDefined_of_less hless
        · exact (Numeric.Extended.isDefined_of_less hless).symm
      refine Or.inl (List.all_eq_true.2 (List.forall_mem_cons.2 ⟨?_, fun c hc => ?_⟩))
      · exact (hdefined b (ha b List.mem_cons_self)).1
      · exact (hdefined c (ha c hc)).2

theorem labelsOf_eq_of_perm (hperm : rows.labels.Perm rows'.labels)
    (hseparated : (rows.labels.filter (·.type == oid)).Pairwise LabelRow.Separated) :
    rows.labelsOf oid = rows'.labelsOf oid := by
  have hown := hperm.filter (·.type == oid)
  simp only [labelsOf, ← hown.all_eq]
  rcases isDefined_or_length_le_one hseparated with hdefined | hlength
  · rw [if_pos hdefined, if_pos hdefined, sortOn_extended_eq_of_perm hown hseparated]
  · have hsame : rows.labels.filter (·.type == oid) = rows'.labels.filter (·.type == oid) := by
      generalize rows.labels.filter (·.type == oid) = own at hown hlength
      match own, hlength with
      | [], _ => exact hown.nil_eq
      | [a], _ => exact (List.perm_singleton.1 hown.symm).symm
    rw [hsame]

/-- The rows of a registry stand in the order of their names. -/
theorem registered_eq_of_perm (hperm : rows.registered.Perm rows'.registered)
    (hnames : (rows.registered.map TypeRow.qualifiedName).Nodup) :
    rows.registered = rows'.registered := by
  have hordered : ∀ r : TypeRows, (r.registered.map TypeRow.qualifiedName).Nodup →
      r.registered.Pairwise fun a b => Before QualifiedName.le a.qualifiedName b.qualifiedName := by
    intro r hr
    have hsorted := (pairwise_sortOn QualifiedName.le_linear TypeRow.qualifiedName
      (r.types.map Prod.snd)).filter TypeRow.isRegistered
    exact hsorted.and (List.pairwise_map.1 hr)
  refine eq_of_perm_of_pairwise_before QualifiedName.le_linear hperm (hordered _ hnames)
    (hordered _ ?_)
  exact (hperm.map _).nodup_iff.1 hnames

theorem attributesOf_eq_of_perm (hperm : rows.attributes.Perm rows'.attributes)
    (hnodup : ((rows.attributes.filter (·.owner == oid)).map (·.ordinal)).Nodup) :
    rows.attributesOf oid = rows'.attributesOf oid :=
  sortOn_eq_of_perm integer_linear (hperm.filter _) hnodup

end TypeRows

/-- Registries that hold the same types and resolve references alike. -/
structure Registry.Alike (registry registry' : Registry) : Prop where
  entries : registry.entries = registry'.entries
  resolve : ∀ oid modifier dimensions,
    registry.resolve oid modifier dimensions = registry'.resolve oid modifier dimensions

/-- The same registry is built, or the same cycle is reported. -/
theorem TypeRows.Alike.ofRows {rows rows' : TypeRows} (h : Alike rows rows')
    (hindexed : rows.Indexed) :
    SameOutcome Registry.Alike (Registry.ofRows rows) (Registry.ofRows rows') := by
  have hentries : rows.registered.foldlM (fun (entries : Entries QualifiedName TypeRef) row => do
        pure (entries.put row.qualifiedName (← rows.define row))) [] =
      rows'.registered.foldlM (fun (entries : Entries QualifiedName TypeRef) row => do
        pure (entries.put row.qualifiedName (← rows'.define row))) [] := by
    rw [← h.registered]
    refine foldlM_congr_of_mem fun row hrow entries => ?_
    rw [h.define_eq hindexed (hindexed.mem_registered_iff.1 hrow).1]
  rw [Registry.ofRows, Registry.ofRows, hentries]
  refine SameOutcome.bind (.of_eq rfl) fun entries entries' _ _ he => ?_
  subst he
  exact .ok ⟨rfl, h.resolve_eq hindexed⟩

/-! ## Tables -/

/-- Rows from which the same tables are assembled. -/
structure TableRows.Alike (rows rows' : TableRows) : Prop where
  tables : rows.tables.Perm rows'.tables
  names : (rows.tables.map fun t => (⟨t.schema, t.name⟩ : QualifiedName)).Nodup
  columnsOf : ∀ t ∈ rows.tables, rows.columnsOf t.oid = rows'.columnsOf t.oid
  primaryKeyOf : ∀ t ∈ rows.tables, rows.primaryKeyOf t.oid = rows'.primaryKeyOf t.oid
  isUnique : ∀ table column, rows.isUnique table column = rows'.isUnique table column
  foreignKeysOf : ∀ t ∈ rows.tables, rows.foreignKeysOf t.oid = rows'.foreignKeysOf t.oid

namespace TableRows

variable {rows rows' : TableRows} {types types' : Registry}

theorem columnsOf_eq_of_perm {table : Oid} (hperm : rows.columns.Perm rows'.columns)
    (hnodup : ((rows.columns.filter (·.table == table)).map (·.ordinal)).Nodup) :
    rows.columnsOf table = rows'.columnsOf table :=
  sortOn_eq_of_perm integer_linear (hperm.filter _) hnodup

theorem primaryKeyOf_eq_of_perm {table : Oid} (hperm : rows.keys.Perm rows'.keys)
    (hnodup : ((rows.keys.filter fun k => k.kind == "p" && k.table == table).map
      (·.position)).Nodup) :
    rows.primaryKeyOf table = rows'.primaryKeyOf table :=
  congrArg (List.map _) (sortOn_eq_of_perm integer_linear (hperm.filter _) hnodup)

theorem foreignKeysOf_eq_of_perm {table : Oid} (hperm : rows.foreignKeys.Perm rows'.foreignKeys)
    (hnodup : ∀ constraint, ((rows.foreignKeys.filter fun k =>
      k.table == table && k.constraint == constraint).map (·.position)).Nodup) :
    rows.foreignKeysOf table = rows'.foreignKeysOf table := by
  have hnames : rows.foreignKeyNames table = rows'.foreignKeyNames table :=
    sortedSet_eq_of_mem_iff text_linear fun _ => ((hperm.filter _).map _).mem_iff
  have hkeys : rows.foreignKey? table = rows'.foreignKey? table := by
    funext constraint
    rw [foreignKey?, foreignKey?,
      sortOn_eq_of_perm integer_linear (hperm.filter _) (hnodup constraint)]
  rw [foreignKeysOf, foreignKeysOf, hnames, hkeys]

theorem mem_columnsOf {table : Oid} {row : ColumnRow} :
    row ∈ rows.columnsOf table ↔ row ∈ rows.columns ∧ row.table = table := by
  rw [columnsOf, mem_sortOn, List.mem_filter, beq_iff_eq]

/-- A table is assembled from what the rows say of its oid. -/
theorem table_congr (htypes : types.Alike types') {row : TableRow}
    (hcolumns : rows.columnsOf row.oid = rows'.columnsOf row.oid)
    (hkeys : rows.primaryKeyOf row.oid = rows'.primaryKeyOf row.oid)
    (hunique : ∀ column, rows.isUnique row.oid column = rows'.isUnique row.oid column)
    (hforeign : rows.foreignKeysOf row.oid = rows'.foreignKeysOf row.oid) :
    rows.table types row = rows'.table types' row := by
  have hassembled : (rows.columnsOf row.oid).mapM (rows.column types) =
      (rows'.columnsOf row.oid).mapM (rows'.column types') := by
    rw [← hcolumns]
    refine mapM_congr_of_mem fun column hcolumn => ?_
    obtain ⟨-, htable⟩ := mem_columnsOf.1 hcolumn
    rw [TableRows.column, TableRows.column, htypes.resolve, htable, hkeys, hunique]
  rw [TableRows.table, TableRows.table, hassembled, hforeign, hkeys]

theorem Alike.table_eq (h : Alike rows rows') (htypes : types.Alike types') {row : TableRow}
    (hrow : row ∈ rows.tables) : rows.table types row = rows'.table types' row :=
  table_congr htypes (h.columnsOf row hrow) (h.primaryKeyOf row hrow) (h.isUnique row.oid)
    (h.foreignKeysOf row hrow)

/-- A table cannot be assembled only for one of its columns whose type cannot be resolved. -/
theorem exists_column_of_table_eq_error {row : TableRow} {e : ResolutionError}
    (h : rows.table types row = .error e) :
    ∃ column ∈ rows.columns, column.table = row.oid ∧
      types.resolve column.type column.modifier column.dimensions = .error e := by
  rcases bind_eq_error_iff.1 h with hcolumns | ⟨columns, -, h⟩
  · obtain ⟨column, hmem, hcolumn⟩ := exists_of_mapM_eq_error hcolumns
    obtain ⟨hrow, htable⟩ := mem_columnsOf.1 hmem
    rcases bind_eq_error_iff.1 hcolumn with htype | ⟨type, -, h⟩
    · exact ⟨column, hrow, htable, htype⟩
    · cases h
  · cases h

theorem exists_resolve_of_table_eq_error {row : TableRow} {e : ResolutionError}
    (h : rows.table types row = .error e) :
    ∃ oid modifier dimensions, types.resolve oid modifier dimensions = .error e := by
  obtain ⟨column, -, -, hresolve⟩ := exists_column_of_table_eq_error h
  exact ⟨_, _, _, hresolve⟩

theorem name_of_table {row : TableRow} {t : Table} (h : rows.table types row = .ok t) :
    t.name = ⟨row.schema, row.name⟩ :=
  (tableOf_of_table h).name

/-- The same tables are assembled, provided that there is only one way to fail. -/
theorem Alike.assemble_eq (h : Alike rows rows') (htypes : types.Alike types')
    {e₀ : ResolutionError} (herror : ∀ oid modifier dimensions e,
      types.resolve oid modifier dimensions = .error e → e = e₀) :
    rows.assemble types = rows'.assemble types' := by
  have htables : rows'.tables.mapM (rows'.table types') = rows'.tables.mapM (rows.table types) :=
    mapM_congr_of_mem fun row hrow => (h.table_eq htypes (h.tables.mem_iff.2 hrow)).symm
  have hrows : ∀ row ∈ rows.tables, ∀ e, rows.table types row = .error e → e = e₀ := by
    intro row _ e he
    obtain ⟨oid, modifier, dimensions, hresolve⟩ := exists_resolve_of_table_eq_error he
    exact herror _ _ _ _ hresolve
  have houtcome := mapM_sameOutcome_of_perm h.tables hrows
  rw [TableRows.assemble, TableRows.assemble, htables]
  generalize hx : rows.tables.mapM (rows.table types) = x at houtcome
  generalize rows'.tables.mapM (rows.table types) = y at houtcome
  cases houtcome with
  | error e => rfl
  | @ok tables tables' hperm =>
    have hnames : tables.map Table.name = rows.tables.map fun t =>
      (⟨t.schema, t.name⟩ : QualifiedName) :=
      (map_eq_map_of_related (mapM_eq_ok_iff.1 hx) fun _ _ ht => (name_of_table ht).symm).symm
    exact congrArg Except.ok
      (sortOn_eq_of_perm QualifiedName.le_linear hperm (hnames ▸ h.names))

end TableRows

end SchemaStructs.Catalog
