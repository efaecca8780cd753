import SchemaStructs.Proofs.Catalog.Cycles

/-!
# Resolved types and registered types

A type that is resolved is taken apart by oids, and a registered type is found by its name. If names
are given once, both see the same definitions: whatever stands inside a resolved type under a name
is what is registered under it.
-/

namespace SchemaStructs.Catalog

open Relation

/-- `u` is `t` or stands inside it, at any depth. -/
def TypeRef.Contains (t u : TypeRef) : Prop := ReflTransGen (fun a b => b ∈ a.parts) t u

theorem TypeRef.Contains.trans {t u v : TypeRef} (htu : t.Contains u) (huv : u.Contains v) :
    t.Contains v :=
  ReflTransGen.trans htu huv

theorem TypeRef.Contains.part {t u v : TypeRef} (hu : u ∈ t.parts) (huv : u.Contains v) :
    t.Contains v :=
  ReflTransGen.head hu huv

namespace TypeRows

variable {rows : TypeRows}

/-- The types that rows give rise to: definitions, what is no definition, and layers around both. -/
inductive Gives (rows : TypeRows) : TypeRef → Prop
  | defined {row : TypeRow} {t : TypeRef} :
    rows.row? row.oid = some row → row.isUserDefined = true →
      rows.define row = .ok t → Gives rows t
  | leaf {row : TypeRow} {modifier : Int} {t : TypeRef} : LeafOf row modifier t → Gives rows t
  | missing (oid : Oid) : Gives rows (.unrecognized ⟨s!"oid {oid}", "type not found in catalog"⟩)
  | layer (w : Wrapper) {t : TypeRef} : Gives rows t → Gives rows (w.wrap t)

theorem Gives.layers {t : TypeRef} (h : Gives rows t) (ws : List Wrapper) :
    Gives rows (ws.foldr Wrapper.wrap t) := by
  induction ws with
  | nil => exact h
  | cons w ws ih => exact ih.layer w

/-- Resolution gives such types only. -/
theorem gives_of_resolve (hindexed : rows.Indexed) {oid : Oid} {modifier dimensions : Int}
    {t : TypeRef} (h : rows.resolve oid modifier dimensions = .ok t) : Gives rows t := by
  obtain ⟨ws, core, inner, hunwrap, hinner, rfl⟩ := resolveWith_eq_ok_iff.1 h
  refine Gives.layers ?_ ws
  cases core with
  | missing oid =>
    cases pure_eq_ok_iff.1 hinner
    exact .missing oid
  | userDefined row =>
    obtain ⟨oid', -, hrow, huser⟩ := exists_wraps_of_unwrapWith hunwrap
    exact .defined (hindexed.row?_oid hrow) huser hinner
  | leaf type =>
    cases pure_eq_ok_iff.1 hinner
    obtain ⟨row, modifier', hleaf⟩ := exists_leafOf_of_unwrapWith hunwrap
    exact .leaf hleaf

/-- One step into a type: what stands directly inside it is given by the rows too. -/
theorem Gives.part (hindexed : rows.Indexed) {t u : TypeRef} (h : Gives rows t) (hu : u ∈ t.parts) :
    Gives rows u := by
  cases h with
  | defined _ _ hdefine =>
    cases expandsTo_of_define hdefine with
    | enum _ => cases hu
    | relation _ _ => cases hu
    | composite _ _ hfields =>
      obtain ⟨field, hfield, rfl⟩ := List.mem_map.1 hu
      obtain ⟨a, -, -, -, htype⟩ := exists_left_of_mem hfields hfield
      exact gives_of_resolve hindexed htype
    | domain _ _ hbase =>
      obtain rfl := List.mem_singleton.1 hu
      exact gives_of_resolve hindexed hbase
  | leaf hleaf => cases hleaf <;> cases hu
  | missing oid => cases hu
  | layer w ht =>
    cases w with
    | array dimension =>
      obtain rfl := List.mem_singleton.1 hu
      exact ht
    | range name =>
      obtain rfl := List.mem_singleton.1 hu
      exact ht

/-- At any depth. -/
theorem Gives.contains (hindexed : rows.Indexed) {t u : TypeRef} (h : Gives rows t)
    (hu : t.Contains u) : Gives rows u := by
  induction hu with
  | refl => exact h
  | tail _ hpart ih => exact ih.part hindexed hpart

/-- A named type among them is the definition of a registered row of that name. -/
theorem Gives.exists_row (hindexed : rows.Indexed) {t : TypeRef} (h : Gives rows t)
    {n : QualifiedName} (hn : t.registeredName? = some n) :
    ∃ row ∈ rows.registered, row.qualifiedName = n ∧ rows.define row = .ok t := by
  cases h with
  | @defined row _ hrow huser hdefine =>
    have hregistered : (row.kind = "c" → row.isRelationRow = false) → row ∈ rows.registered := by
      intro hrelation
      refine hindexed.mem_registered_iff.2 ⟨hrow, ?_⟩
      by_cases hkind : row.kind = "c"
      · simp [TypeRow.isRegistered, huser, hrelation hkind]
      · simp [TypeRow.isRegistered, huser, hkind]
    cases expandsTo_of_define hdefine with
    | enum hkind =>
      obtain rfl := Option.some.inj hn
      exact ⟨row, hregistered (by simp [hkind]), rfl, hdefine⟩
    | relation _ _ => cases hn
    | composite _ hrelation _ =>
      obtain rfl := Option.some.inj hn
      exact ⟨row, hregistered fun _ => hrelation, rfl, hdefine⟩
    | domain _ hc _ =>
      obtain rfl := Option.some.inj hn
      exact ⟨row, hregistered fun hkind => absurd hkind hc, rfl, hdefine⟩
  | leaf hleaf => cases hleaf <;> cases hn
  | missing oid => cases hn
  | layer w _ => cases w <;> cases hn

/-- The registered rows are those of enums, domains and standalone composites. -/
theorem registered_perm {types : List TypeRow} (hoids : (types.map TypeRow.oid).Nodup)
    (labels : List LabelRow) (attributes : List AttributeRow) :
    (ofRows types labels attributes).registered.Perm (types.filter TypeRow.isRegistered) := by
  have htypes : (ofRows types labels attributes).types.map Prod.snd = types := by
    rw [types_ofRows hoids, List.map_map]
    exact List.map_id _
  rw [registered, htypes]
  exact (sortOn_perm _ _ _).filter _

/-- The variant of type that goes with the kind of a row. -/
inductive VariantOf (row : TypeRow) : TypeRef → Prop
  | enum {labels : List String} : row.kind = "e" → VariantOf row (.enum row.qualifiedName labels)
  | composite {fields : List (Attribute TypeRef)} : row.kind = "c" →
      VariantOf row (.composite row.qualifiedName fields)
  | domain {underlying : TypeRef} : row.kind = "d" →
      VariantOf row (.domain row.qualifiedName underlying row.notNull)

theorem variantOf_of_define {row : TypeRow} {t : TypeRef} (hregistered : row.isRegistered = true)
    (h : rows.define row = .ok t) : VariantOf row t := by
  simp only [TypeRow.isRegistered, TypeRow.isUserDefined, Bool.and_eq_true] at hregistered
  cases expandsTo_of_define h with
  | enum hkind => exact .enum hkind
  | relation hkind hrelation => simp [hkind, hrelation] at hregistered
  | composite hkind _ _ => exact .composite hkind
  | domain he hc _ =>
    have hkind : row.kind = "d" := by simpa [he, hc] using hregistered.1
    exact .domain hkind

end TypeRows

/-! ## Registries -/

namespace Registry

open TypeRows

variable {rows : TypeRows} {registry : Registry}

/-- Each registered row has put its name. -/
theorem names_of_ofRows (h : ofRows rows = .ok registry) :
    registry.names.Nodup ∧ ∀ n, n ∈ registry.names ↔
      n ∈ rows.registered.map TypeRow.qualifiedName := by
  obtain ⟨entries, hentries, h⟩ := bind_eq_ok_iff.1 h
  cases pure_eq_ok_iff.1 h
  have hkeys : entries.keys.Nodup ∧
      ∀ n, n ∈ entries.keys ↔ n ∈ rows.registered.map TypeRow.qualifiedName := by
    refine foldlM_induction
      (P := fun (done : List TypeRow) (entries : Entries QualifiedName TypeRef) =>
        entries.keys.Nodup ∧ ∀ n, n ∈ entries.keys ↔ n ∈ done.map TypeRow.qualifiedName)
      ?_ ?_ hentries
    · rintro done entries row entries' ⟨hnodup, hdone⟩ hstep
      obtain ⟨t, -, hstep⟩ := bind_eq_ok_iff.1 hstep
      cases pure_eq_ok_iff.1 hstep
      refine ⟨Entries.nodup_keys_put hnodup _ _, fun n => ?_⟩
      rw [Entries.mem_keys_put, hdone, List.map_append, List.mem_append, or_comm]
      simp
    · exact ⟨List.nodup_nil, fun n => Iff.rfl⟩
  have hperm : (ofEntries entries (some rows)).names.Perm entries.keys :=
    (sortOn_perm _ _ _).map Prod.fst
  exact ⟨hperm.nodup_iff.2 hkeys.1, fun n => hperm.mem_iff.trans (hkeys.2 n)⟩

/-- If names are given once, a name stands for the definition of its row. -/
theorem get?_of_define (hnames : (rows.registered.map TypeRow.qualifiedName).Nodup)
    (h : ofRows rows = .ok registry) {row : TypeRow} {t : TypeRef} (hrow : row ∈ rows.registered)
    (ht : rows.define row = .ok t) : registry.get? row.qualifiedName = some t := by
  have hmem : row.qualifiedName ∈ registry.names :=
    ((names_of_ofRows h).2 _).2 (List.mem_map_of_mem hrow)
  obtain ⟨t', hget⟩ := Entries.exists_get?_of_mem_keys hmem
  obtain ⟨row', hrow', hname, ht'⟩ := (exists_row_of_get? h).2 _ _ hget
  obtain rfl := List.inj_on_of_nodup_map hnames hrow' hrow hname
  rw [ht] at ht'
  cases ht'
  exact hget

/-- A named type at any depth of a resolved type is what is registered under its name. -/
theorem get?_of_contains (hindexed : rows.Indexed)
    (hnames : (rows.registered.map TypeRow.qualifiedName).Nodup) (h : ofRows rows = .ok registry)
    {t u : TypeRef} (ht : Gives rows t) (hu : t.Contains u) {n : QualifiedName}
    (hn : u.registeredName? = some n) : registry.get? n = some u := by
  obtain ⟨row, hrow, rfl, hdefine⟩ := (ht.contains hindexed hu).exists_row hindexed hn
  exact get?_of_define hnames h hrow hdefine

end Registry

end SchemaStructs.Catalog
