import SchemaStructs.Catalog.Resolution
import SchemaStructs.Proofs.Entries
import SchemaStructs.Proofs.Success

/-!
# Resolution of type rows

One step of an expansion is an enum, a composite whose attributes are resolved, or a domain whose
base is resolved. An expansion that ends does not depend on how many steps are left or on what is
being expanded around it, so an attribute has the same type inside its composite as on its own.
Whether the type of a reference is a domain that takes no null can be read off the rows.
-/

namespace SchemaStructs.Catalog

/-! ## Chains of domains -/

/-- A row of the type `oid` is a domain that is declared `NOT NULL`, or is over one. -/
inductive NotNullChain (types : List TypeRow) : Oid → Prop
  | here {row : TypeRow} : row ∈ types → row.kind = "d" → row.notNull = true →
      NotNullChain types row.oid
  | base {row : TypeRow} : row ∈ types → row.kind = "d" → NotNullChain types row.base →
      NotNullChain types row.oid

namespace TypeRows

theorem keys_byOid (types : List TypeRow) :
    Entries.keys (types.map fun row => (row.oid, row)) = types.map TypeRow.oid := by
  rw [Entries.keys, List.map_map]
  rfl

/-- A row is found under its oid if no two rows share one. -/
theorem row?_ofRows_eq_some_iff {types : List TypeRow} {labels : List LabelRow}
    {attributes : List AttributeRow} (hoids : (types.map TypeRow.oid).Nodup) {oid : Oid}
    {row : TypeRow} :
    (ofRows types labels attributes).row? oid = some row ↔ row ∈ types ∧ row.oid = oid := by
  have hkeys := keys_byOid types ▸ hoids
  rw [row?, ofRows, Entries.ofPairs_eq_self hkeys, Entries.get?_eq_some_iff hkeys, List.mem_map]
  constructor
  · rintro ⟨row', hrow', he⟩
    obtain ⟨rfl, rfl⟩ := Prod.mk.inj he
    exact ⟨hrow', rfl⟩
  · rintro ⟨hrow, rfl⟩
    exact ⟨row, hrow, rfl⟩

/-! ## References -/

variable {rows : TypeRows}

/-- The type that a reference ends in. -/
def coreType (expand : TypeRow → Except ResolutionError TypeRef) :
    Core → Except ResolutionError TypeRef
  | .missing oid => pure (.unrecognized ⟨s!"oid {oid}", "type not found in catalog"⟩)
  | .userDefined row => expand row
  | .leaf type => pure type

theorem resolveWith_eq {expand : TypeRow → Except ResolutionError TypeRef} {oid : Oid}
    {modifier dimensions : Int} {ws : List Wrapper} {core : Core}
    (h : rows.unwrap oid modifier dimensions = some (ws, core)) :
    rows.resolveWith expand oid modifier dimensions =
      coreType expand core >>= fun inner => pure (ws.foldr Wrapper.wrap inner) := by
  rw [resolveWith, h]
  cases core <;> rfl

theorem resolveWith_eq_ok_iff {expand : TypeRow → Except ResolutionError TypeRef} {oid : Oid}
    {modifier dimensions : Int} {t : TypeRef} :
    rows.resolveWith expand oid modifier dimensions = .ok t ↔
      ∃ ws core inner, rows.unwrap oid modifier dimensions = some (ws, core) ∧
        coreType expand core = .ok inner ∧ t = ws.foldr Wrapper.wrap inner := by
  constructor
  · intro h
    cases hunwrap : rows.unwrap oid modifier dimensions with
    | none =>
      rw [resolveWith, hunwrap] at h
      cases h
    | some found =>
      obtain ⟨ws, core⟩ := found
      rw [resolveWith_eq hunwrap] at h
      obtain ⟨inner, hinner, h⟩ := bind_eq_ok_iff.1 h
      exact ⟨ws, core, inner, rfl, hinner, (pure_eq_ok_iff.1 h).symm⟩
  · rintro ⟨ws, core, inner, hunwrap, hinner, rfl⟩
    rw [resolveWith_eq hunwrap]
    exact bind_eq_ok_iff.2 ⟨inner, hinner, rfl⟩

theorem resolveWith_mono {f g : TypeRow → Except ResolutionError TypeRef}
    (hfg : ∀ row t, f row = .ok t → g row = .ok t) {oid : Oid} {modifier dimensions : Int}
    {t : TypeRef} (h : rows.resolveWith f oid modifier dimensions = .ok t) :
    rows.resolveWith g oid modifier dimensions = .ok t := by
  obtain ⟨ws, core, inner, hunwrap, hinner, rfl⟩ := resolveWith_eq_ok_iff.1 h
  refine resolveWith_eq_ok_iff.2 ⟨ws, core, inner, hunwrap, ?_, rfl⟩
  cases core with
  | userDefined row => exact hfg row inner hinner
  | missing oid => exact hinner
  | leaf type => exact hinner

/-- A reference to a domain is the domain. -/
theorem unwrap_domain {oid : Oid} {modifier dimensions : Int} {row : TypeRow}
    (hrow : rows.row? oid = some row) (hkind : row.kind = "d") :
    rows.unwrap oid modifier dimensions = some ([], .userDefined row) := by
  simp [unwrap, unwrapWith, hrow, TypeRow.isArray, TypeRow.isUserDefined, hkind]

/-- A reference that is not wrapped and ends in a definition is a reference to its row. -/
theorem row?_of_unwrap_eq_nil {oid : Oid} {modifier dimensions : Int} {row : TypeRow}
    (h : rows.unwrap oid modifier dimensions = some ([], .userDefined row)) :
    rows.row? oid = some row ∧ row.isUserDefined = true := by
  unfold unwrap unwrapWith at h
  split at h
  · cases h
  rename_i row' hrow
  split at h
  · obtain ⟨found, -, he⟩ := Option.map_eq_some_iff.1 h
    cases he
  split at h
  · rename_i huser
    cases h
    exact ⟨hrow, huser⟩
  split at h
  · split at h
    · cases h
    · obtain ⟨found, -, he⟩ := Option.map_eq_some_iff.1 h
      cases he
  split at h
  · cases h
  · cases h

/-- What is not expanded from a definition is not a domain. -/
theorem leaf_of_unwrap {oid : Oid} {modifier dimensions : Int} {ws : List Wrapper} {type : TypeRef}
    (h : rows.unwrap oid modifier dimensions = some (ws, .leaf type)) :
    type.isNotNullDomain = false := by
  suffices H : ∀ steps oid modifier dimensions ws,
      rows.unwrapWith steps oid modifier dimensions = some (ws, .leaf type) →
      type.isNotNullDomain = false from H _ _ _ _ _ h
  intro steps
  induction steps with
  | zero =>
    intro oid modifier dimensions ws h
    cases h
  | succ steps ih =>
    intro oid modifier dimensions ws h
    unfold unwrapWith at h
    split at h
    · cases h
    split at h
    · obtain ⟨⟨ws', core⟩, hfound, he⟩ := Option.map_eq_some_iff.1 h
      cases he
      exact ih _ _ _ _ hfound
    split at h
    · cases h
    split at h
    · split at h
      · cases h
        rfl
      · obtain ⟨⟨ws', core⟩, hfound, he⟩ := Option.map_eq_some_iff.1 h
        cases he
        exact ih _ _ _ _ hfound
    split at h
    · cases h
      rfl
    · cases h
      rfl

/-! ## Expansion -/

/-- An attribute with its resolved type. -/
def ResolvesTo (resolve : Oid → Int → Int → Except ResolutionError TypeRef) (a : AttributeRow)
    (field : Attribute TypeRef) : Prop :=
  field.name = a.name ∧ field.notNull = a.notNull ∧
    resolve a.type a.modifier a.dimensions = .ok field.type

/-- What a definition expands to, given how the references in it are resolved. -/
inductive ExpandsTo (rows : TypeRows) (resolve : Oid → Int → Int → Except ResolutionError TypeRef)
    (row : TypeRow) : TypeRef → Prop
  | enum : row.kind = "e" →
    ExpandsTo rows resolve row (.enum row.qualifiedName (rows.labelsOf row.oid))
  | relation : row.kind = "c" → row.isRelationRow = true →
      ExpandsTo rows resolve row
        (.unrecognized ⟨row.qualifiedName.text, "row types of tables and views are not supported"⟩)
  | composite {fields : List (Attribute TypeRef)} : row.kind = "c" → row.isRelationRow = false →
      List.Forall₂ (ResolvesTo resolve) (rows.attributesOf row.oid) fields →
      ExpandsTo rows resolve row (.composite row.qualifiedName fields)
  | domain {underlying : TypeRef} : row.kind ≠ "e" → row.kind ≠ "c" →
      resolve row.base row.baseModifier 0 = .ok underlying →
      ExpandsTo rows resolve row (.domain row.qualifiedName underlying row.notNull)

theorem ExpandsTo.mono {f g : Oid → Int → Int → Except ResolutionError TypeRef}
    (hfg : ∀ oid modifier dimensions t, f oid modifier dimensions = .ok t →
      g oid modifier dimensions = .ok t) {row : TypeRow} {t : TypeRef}
    (h : ExpandsTo rows f row t) : ExpandsTo rows g row t := by
  cases h with
  | enum hkind => exact .enum hkind
  | relation hkind hrelation => exact .relation hkind hrelation
  | composite hkind hrelation hfields =>
    refine .composite hkind hrelation (hfields.imp ?_)
    rintro a field ⟨hname, hnotNull, htype⟩
    exact ⟨hname, hnotNull, hfg _ _ _ _ htype⟩
  | domain he hc hbase => exact .domain he hc (hfg _ _ _ _ hbase)

/-- The fields of a composite are resolved one by one. -/
theorem mapM_attributes_eq_ok_iff {resolve : Oid → Int → Int → Except ResolutionError TypeRef}
    {attributes : List AttributeRow} {fields : List (Attribute TypeRef)} :
    (attributes.mapM fun a => do
        let type ← resolve a.type a.modifier a.dimensions
        pure (Attribute.mk a.name type a.notNull)) = .ok fields ↔
      List.Forall₂ (ResolvesTo resolve) attributes fields := by
  rw [mapM_eq_ok_iff]
  constructor
  · intro h
    refine h.imp fun a field h => ?_
    obtain ⟨type, htype, h⟩ := bind_eq_ok_iff.1 h
    cases pure_eq_ok_iff.1 h
    exact ⟨rfl, rfl, htype⟩
  · intro h
    refine h.imp ?_
    rintro a ⟨name, type, notNull⟩ ⟨rfl, rfl, htype⟩
    exact bind_eq_ok_iff.2 ⟨type, htype, rfl⟩

/-- One step of an expansion: the definition is not among those being expanded, and the references
in it are resolved by the remaining steps. -/
theorem expand_succ_eq_ok_iff {steps : Nat} {path : List Visit} {row : TypeRow} {t : TypeRef} :
    rows.expand (steps + 1) path row = .ok t ↔
      (∀ v ∈ path, v.1 ≠ row.oid) ∧
      ExpandsTo rows (rows.resolveWith
        (rows.expand steps (path ++ [(row.oid, row.qualifiedName.text)]))) row t := by
  rw [expand]
  by_cases hpath : path.any (·.1 == row.oid) = true
  · obtain ⟨v, hv, hoid⟩ := List.any_eq_true.1 hpath
    rw [if_pos hpath]
    exact iff_of_false nofun fun h => h.1 v hv (eq_of_beq hoid)
  have hfresh : ∀ v ∈ path, v.1 ≠ row.oid := fun v hv he =>
    hpath (List.any_eq_true.2 ⟨v, hv, beq_iff_eq.2 he⟩)
  rw [if_neg hpath, and_iff_right hfresh]
  constructor
  · intro h
    split at h
    · rename_i he
      cases h
      exact .enum he
    rename_i he
    split at h
    · rename_i hc
      split at h
      · rename_i hrelation
        cases h
        exact .relation hc hrelation
      · rename_i hrelation
        obtain ⟨fields, hfields, h⟩ := bind_eq_ok_iff.1 h
        cases pure_eq_ok_iff.1 h
        exact .composite hc (Bool.eq_false_iff.2 hrelation) (mapM_attributes_eq_ok_iff.1 hfields)
    · rename_i hc
      obtain ⟨underlying, hbase, h⟩ := bind_eq_ok_iff.1 h
      cases pure_eq_ok_iff.1 h
      exact .domain he hc hbase
  · intro h
    cases h with
    | enum hkind => rw [if_pos hkind]
    | relation hkind hrelation =>
      rw [if_neg (by rw [hkind]; decide), if_pos hkind, if_pos hrelation]
    | composite hkind hrelation hfields =>
      rw [if_neg (by rw [hkind]; decide), if_pos hkind, if_neg (by rw [hrelation]; decide)]
      exact bind_eq_ok_iff.2 ⟨_, mapM_attributes_eq_ok_iff.2 hfields, rfl⟩
    | domain he hc hbase =>
      rw [if_neg he, if_neg hc]
      exact bind_eq_ok_iff.2 ⟨_, hbase, rfl⟩

/-- More steps and fewer definitions around it do not change an expansion. -/
theorem expand_mono {steps steps' : Nat} (hle : steps ≤ steps') {path path' : List Visit}
    (hsub : ∀ v ∈ path', v ∈ path) {row : TypeRow} {t : TypeRef}
    (h : rows.expand steps path row = .ok t) : rows.expand steps' path' row = .ok t := by
  induction steps generalizing steps' path path' row t with
  | zero => cases h
  | succ steps ih =>
    obtain ⟨steps', rfl⟩ : ∃ k, steps' = k + 1 := ⟨steps' - 1, by omega⟩
    rw [expand_succ_eq_ok_iff] at h ⊢
    obtain ⟨hfresh, h⟩ := h
    refine ⟨fun v hv => hfresh v (hsub v hv),
      h.mono fun _ _ _ _ => resolveWith_mono fun _ _ h' => ?_⟩
    refine ih (Nat.le_of_succ_le_succ hle) (fun v hv => ?_) h'
    exact List.mem_append.2 ((List.mem_append.1 hv).imp_left (hsub v))

/-- A type inside a definition is the same as on its own. -/
theorem resolve_of_resolveWith_expand {steps : Nat} (hle : steps ≤ rows.types.length + 1)
    {path : List Visit} {oid : Oid} {modifier dimensions : Int} {t : TypeRef}
    (h : rows.resolveWith (rows.expand steps path) oid modifier dimensions = .ok t) :
    rows.resolve oid modifier dimensions = .ok t :=
  resolveWith_mono (fun _ _ => expand_mono hle fun _ hv => absurd hv List.not_mem_nil) h

/-- A definition is what its row expands to, each reference in it resolved on its own. -/
theorem expandsTo_of_define {row : TypeRow} {t : TypeRef} (h : rows.define row = .ok t) :
    ExpandsTo rows rows.resolve row t := by
  obtain ⟨-, h⟩ := expand_succ_eq_ok_iff.1 h
  exact h.mono fun _ _ _ _ => resolve_of_resolveWith_expand (Nat.le_succ _)

/-! ## Domains that take no null -/

section NotNull

variable {types : List TypeRow}
  (hrows : ∀ oid row, rows.row? oid = some row ↔ row ∈ types ∧ row.oid = oid)

include hrows

theorem notNullChain_iff {oid : Oid} :
    NotNullChain types oid ↔ ∃ row, rows.row? oid = some row ∧ row.kind = "d" ∧
      (row.notNull = true ∨ NotNullChain types row.base) := by
  constructor
  · rintro (⟨hrow, hkind, hnotNull⟩ | ⟨hrow, hkind, hbase⟩)
    · exact ⟨_, (hrows _ _).2 ⟨hrow, rfl⟩, hkind, Or.inl hnotNull⟩
    · exact ⟨_, (hrows _ _).2 ⟨hrow, rfl⟩, hkind, Or.inr hbase⟩
  · rintro ⟨row, hrow, hkind, hcases⟩
    obtain ⟨hmem, rfl⟩ := (hrows _ _).1 hrow
    exact hcases.elim (.here hmem hkind) (.base hmem hkind)

/-- If expansions of definitions take a null as their rows do, so do references. -/
theorem isNotNullDomain_resolveWith_iff {expand : TypeRow → Except ResolutionError TypeRef}
    (hexpand : ∀ row t, row.isUserDefined = true → expand row = .ok t →
      (t.isNotNullDomain = true ↔
        row.kind = "d" ∧ (row.notNull = true ∨ NotNullChain types row.base)))
    {oid : Oid} {modifier dimensions : Int} {t : TypeRef}
    (h : rows.resolveWith expand oid modifier dimensions = .ok t) :
    t.isNotNullDomain = true ↔ NotNullChain types oid := by
  obtain ⟨ws, core, inner, hunwrap, hinner, rfl⟩ := resolveWith_eq_ok_iff.1 h
  rw [notNullChain_iff hrows]
  by_cases hcore : ∃ row, ws = [] ∧ core = .userDefined row
  · obtain ⟨row, rfl, rfl⟩ := hcore
    obtain ⟨hrow, huser⟩ := row?_of_unwrap_eq_nil hunwrap
    simp only [List.foldr_nil, hexpand row inner huser hinner, hrow, Option.some.injEq,
      exists_eq_left']
  · refine iff_of_false ?_ ?_
    · cases ws with
      | cons w ws => cases w <;> exact Bool.false_ne_true
      | nil =>
        cases core with
        | userDefined row => exact absurd ⟨row, rfl, rfl⟩ hcore
        | missing oid =>
          cases pure_eq_ok_iff.1 hinner
          exact Bool.false_ne_true
        | leaf type =>
          cases pure_eq_ok_iff.1 hinner
          rw [List.foldr_nil, leaf_of_unwrap hunwrap]
          exact Bool.false_ne_true
    · rintro ⟨row, hrow, hkind, -⟩
      rw [unwrap_domain hrow hkind] at hunwrap
      cases hunwrap
      exact hcore ⟨row, rfl, rfl⟩

theorem isNotNullDomain_expand_iff {steps : Nat} {path : List Visit} {row : TypeRow} {t : TypeRef}
    (huser : row.isUserDefined = true) (h : rows.expand steps path row = .ok t) :
    t.isNotNullDomain = true ↔
      row.kind = "d" ∧ (row.notNull = true ∨ NotNullChain types row.base) := by
  induction steps generalizing path row t with
  | zero => cases h
  | succ steps ih =>
    obtain ⟨-, h⟩ := expand_succ_eq_ok_iff.1 h
    cases h with
    | enum hkind => simp [TypeRef.isNotNullDomain, hkind]
    | relation hkind _ => simp [TypeRef.isNotNullDomain, hkind]
    | composite hkind _ _ => simp [TypeRef.isNotNullDomain, hkind]
    | domain he hc hbase =>
      have hkind : row.kind = "d" := by simpa [TypeRow.isUserDefined, he, hc] using huser
      rw [TypeRef.isNotNullDomain, Bool.or_eq_true, and_iff_right hkind,
        isNotNullDomain_resolveWith_iff hrows (fun _ _ huser h => ih huser h) hbase]

/-- The type of a reference takes no null of itself exactly if its row starts such a chain. -/
theorem isNotNullDomain_resolve_iff {oid : Oid} {modifier dimensions : Int} {t : TypeRef}
    (h : rows.resolve oid modifier dimensions = .ok t) :
    t.isNotNullDomain = true ↔ NotNullChain types oid :=
  isNotNullDomain_resolveWith_iff hrows (fun _ _ => isNotNullDomain_expand_iff hrows) h

end NotNull

end TypeRows

end SchemaStructs.Catalog
