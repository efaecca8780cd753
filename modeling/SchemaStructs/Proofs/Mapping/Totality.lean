import SchemaStructs.Proofs.Catalog.Agreement
import SchemaStructs.Proofs.Mapping.Soundness

/-!
# Every resolved type is mapped

A composite is mapped by looking up its name. If the registry has every named type that stands
inside a type as it stands there, this goes down into the type itself: it ends, every lookup
succeeds, and what falls back to text is a part of the type that has no counterpart.
-/

namespace SchemaStructs

open Catalog Mapping Rust

/-! ## Types that a registry knows -/

namespace Catalog

/-- Whatever stands inside `t` under a name is registered as it is, and nothing in it is no type. -/
structure Registry.Knows (registry : Registry) (t : TypeRef) : Prop where
  registered : ∀ u n, t.Contains u → u.registeredName? = some n → registry.get? n = some u
  isType : ∀ sort, ¬ t.Contains (.foreign sort)

variable {registry : Registry}

theorem Registry.Knows.contains {t u : TypeRef} (h : registry.Knows t) (hu : t.Contains u) :
    registry.Knows u where
  registered v n hv := h.registered v n (hu.trans hv)
  isType sort hsort := h.isType sort (hu.trans hsort)

/-- Distinct registered names are no more than there are. -/
theorem Registry.length_le_size {names : List QualifiedName} (hnodup : names.Nodup)
    (h : ∀ n ∈ names, ∃ t, registry.get? n = some t) : names.length ≤ registry.size := by
  have hsub : names ⊆ registry.names := by
    intro n hn
    obtain ⟨t, ht⟩ := h n hn
    exact List.mem_map.2 ⟨_, Entries.mem_of_get? ht, rfl⟩
  have hlength := (hnodup.subperm hsub).length_le
  rwa [Registry.names, Entries.keys, List.length_map] at hlength

theorem TypeRef.contains_self (t : TypeRef) : t.Contains t := .refl

theorem TypeRef.contains_of_mem_parts {t u : TypeRef} (h : u ∈ t.parts) : t.Contains u := .single h

theorem TypeRef.sizeOf_lt_of_mem_parts {t u : TypeRef} (h : u ∈ t.parts) : sizeOf u < sizeOf t := by
  cases t with
  | array element dimension =>
    obtain rfl := List.mem_singleton.1 h
    simp only [array.sizeOf_spec]
    omega
  | composite name fields =>
    obtain ⟨field, hfield, rfl⟩ := List.mem_map.1 h
    have hlist : sizeOf field < sizeOf fields := List.sizeOf_lt_of_mem hfield
    have hfieldSize : sizeOf field.type < sizeOf field := by
      cases field
      simp only [Attribute.mk.sizeOf_spec]
      omega
    simp only [composite.sizeOf_spec]
    omega
  | range subtype name =>
    obtain rfl := List.mem_singleton.1 h
    simp only [range.sizeOf_spec]
    omega
  | domain name underlying notNull =>
    obtain rfl := List.mem_singleton.1 h
    simp only [domain.sizeOf_spec]
    omega
  | scalar type => cases h
  | enum name labels => cases h
  | unrecognized type => cases h
  | foreign sort => cases h

theorem TypeRef.Contains.sizeOf_le {t u : TypeRef} (h : t.Contains u) : sizeOf u ≤ sizeOf t := by
  induction h with
  | refl => exact Nat.le_refl _
  | tail _ hpart ih => exact (Nat.le_of_lt (TypeRef.sizeOf_lt_of_mem_parts hpart)).trans ih

end Catalog

namespace Mapping

variable {registry : Registry}

/-! ## What falls back to text -/

/-- A part of `t` that has no Rust counterpart. -/
inductive LacksCounterpart (t : TypeRef) : Unrecognized → Prop
  | unrecognized {u : Unrecognized} : t.Contains (.unrecognized u) → LacksCounterpart t u
  | scalar {s : Scalar} : t.Contains (.scalar s) →
      LacksCounterpart t ⟨s.kind, "no Rust mapping for this type"⟩

theorem LacksCounterpart.mono {t t' : TypeRef} (ht : t'.Contains t) {u : Unrecognized}
    (h : LacksCounterpart t u) : LacksCounterpart t' u := by
  cases h with
  | unrecognized hu => exact .unrecognized (ht.trans hu)
  | scalar hs => exact .scalar (ht.trans hs)

/-- Everything that fell back to text, in the type or in the records it needs, is such a part. -/
structure Mapped.FallsBackIn (t : TypeRef) (m : Mapped) : Prop where
  unsupported : ∀ u ∈ m.unsupported, LacksCounterpart t u
  declarations : ∀ d ∈ m.declarations, ∀ e ∈ d.unsupported, LacksCounterpart t e.2

namespace Mapped.FallsBackIn

variable {t t' : TypeRef} {m : Mapped}

theorem mono (ht : t'.Contains t) (h : FallsBackIn t m) : FallsBackIn t' m where
  unsupported u hu := (h.unsupported u hu).mono ht
  declarations d hd e he := (h.declarations d hd e he).mono ht

theorem mapType (h : FallsBackIn t m) (f : TypeExpr → TypeExpr) : FallsBackIn t (m.mapType f) :=
  ⟨h.unsupported, h.declarations⟩

theorem nullable (h : FallsBackIn t m) (isNullable : Bool) :
    FallsBackIn t (m.nullable isNullable) := by
  cases isNullable with
  | false => exact h
  | true => exact h.mapType _

theorem fallback {u : Unrecognized} (h : LacksCounterpart t u) : FallsBackIn t (.fallback u) where
  unsupported := by simpa [Mapped.fallback] using h
  declarations _ hd := absurd hd List.not_mem_nil

/-- A declaration brings its own fallbacks and those of what it needs. -/
theorem declared {d : Declaration} {needed : List Declaration}
    (hd : ∀ e ∈ d.unsupported, LacksCounterpart t e.2)
    (hneeded : ∀ d' ∈ needed, ∀ e ∈ d'.unsupported, LacksCounterpart t e.2) :
    FallsBackIn t (.declared d needed) where
  unsupported _ hu := absurd hu List.not_mem_nil
  declarations d' hd' := by
    rcases Declaration.mem_of_mem_insert hd' with rfl | hd'
    · exact hd
    · exact hneeded d' hd'

/-- The record of a composite falls back where its fields do. -/
theorem declareComposite {name : QualifiedName} {fields : List (Attribute TypeRef)}
    {mapped : List (String × Mapped)} (h : ∀ n ∈ mapped, FallsBackIn t n.2) :
    FallsBackIn t (declareComposite name fields mapped) := by
  rw [declareComposite_eq]
  refine declared ?_ ?_
  · intro e he
    obtain ⟨n, hn, he⟩ := List.mem_flatMap.1 he
    obtain ⟨u, hu, rfl⟩ := List.mem_map.1 he
    exact (h n hn).unsupported u hu
  · intro d hd
    obtain ⟨n, hn, hd⟩ := mem_of_mem_neededBy hd
    exact (h n hn).declarations d hd

end Mapped.FallsBackIn

/-! ## Mapping ends -/

/-- A type is mapped if the composites in it are. -/
theorem exists_mapWith {f : QualifiedName → Except MappingError Mapped} {t : TypeRef}
    (ht : registry.Knows t)
    (hf : ∀ name fields, t.Contains (.composite name fields) →
      ∃ m, f name = .ok m ∧ m.FallsBackIn (.composite name fields)) :
    ∃ m, mapWith registry f t = .ok m ∧ m.FallsBackIn t := by
  fun_induction mapWith registry f t with
  | case1 s =>
    refine ⟨_, rfl, ?_⟩
    split
    · exact ⟨by simp, by simp⟩
    · exact .fallback (.scalar (TypeRef.contains_self _))
  | case2 element dimension ih =>
    have hpart : (TypeRef.array element dimension).Contains element :=
      TypeRef.contains_of_mem_parts (List.mem_singleton_self _)
    obtain ⟨m, hm, hfalls⟩ := ih (ht.contains hpart)
      fun name fields hin => hf name fields (hpart.trans hin)
    exact ⟨_, map_eq_ok_iff.2 ⟨m, hm, rfl⟩, (hfalls.mono hpart).mapType _⟩
  | case3 name labels =>
    have hget := ht.registered _ name (TypeRef.contains_self _) rfl
    refine ⟨_, rfl, ?_⟩
    rw [mapEnum, hget]
    exact .declared (fun _ he => absurd he List.not_mem_nil) fun _ hd => absurd hd List.not_mem_nil
  | case4 name fields => exact hf name fields (TypeRef.contains_self _)
  | case5 subtype rangeName ih =>
    have hpart : (TypeRef.range subtype rangeName).Contains subtype :=
      TypeRef.contains_of_mem_parts (List.mem_singleton_self _)
    obtain ⟨m, hm, hfalls⟩ := ih (ht.contains hpart)
      fun name fields hin => hf name fields (hpart.trans hin)
    exact ⟨_, map_eq_ok_iff.2 ⟨m, hm, rfl⟩, (hfalls.mono hpart).mapType _⟩
  | case6 name underlying notNull ih =>
    have hpart : (TypeRef.domain name underlying notNull).Contains underlying :=
      TypeRef.contains_of_mem_parts (List.mem_singleton_self _)
    obtain ⟨m, hm, hfalls⟩ := ih (ht.contains hpart)
      fun name fields hin => hf name fields (hpart.trans hin)
    exact ⟨m, hm, hfalls.mono hpart⟩
  | case7 u => exact ⟨_, rfl, .fallback (.unrecognized (TypeRef.contains_self _))⟩
  | case8 sort => exact absurd (TypeRef.contains_self _) (ht.isType sort)

/-- A composite is mapped if its fields are. -/
theorem exists_mapComposite_succ {steps : Nat} {name : QualifiedName}
    {fields : List (Attribute TypeRef)} (hget : registry.get? name = some (.composite name fields))
    (hfields : ∀ field ∈ fields, ∃ n,
      mapFieldWith registry (mapComposite registry steps) field = .ok n ∧
        n.2.FallsBackIn (.composite name fields)) :
    ∃ m, mapComposite registry (steps + 1) name = .ok m ∧
      m.FallsBackIn (.composite name fields) := by
  have hnoError : ∀ e, fields.mapM (mapFieldWith registry (mapComposite registry steps)) ≠
      .error e := by
    intro e herror
    obtain ⟨field, hmem, he⟩ := exists_of_mapM_eq_error herror
    obtain ⟨n, hn, -⟩ := hfields field hmem
    rw [hn] at he
    cases he
  obtain ⟨mapped, hmapped⟩ := exists_eq_ok hnoError
  rw [mapM_eq_ok_iff] at hmapped
  refine ⟨_, mapComposite_succ_eq_ok_iff.2 (Or.inl ⟨name, fields, mapped, hget, hmapped, rfl⟩), ?_⟩
  refine .declareComposite fun n hn => ?_
  obtain ⟨field, hmem, hfield⟩ := exists_left_of_mem hmapped hn
  obtain ⟨n', hn', hfalls⟩ := hfields field hmem
  rw [hn'] at hfield
  cases hfield
  exact hfalls

/-- A composite is mapped with as many steps as there are registered names. `above` holds the names
of the composites around it: each is registered for a larger type, so none of them stands inside. -/
theorem exists_mapComposite {steps : Nat} {above : List QualifiedName} (hnodup : above.Nodup)
    {name : QualifiedName} {fields : List (Attribute TypeRef)}
    (hknows : registry.Knows (.composite name fields))
    (habove : ∀ n ∈ above, ∃ t, registry.get? n = some t ∧
      sizeOf (TypeRef.composite name fields) < sizeOf t)
    (hsteps : registry.size < steps + above.length) :
    ∃ m, mapComposite registry steps name = .ok m ∧ m.FallsBackIn (.composite name fields) := by
  induction steps generalizing above name fields with
  | zero =>
    have hlength := Registry.length_le_size hnodup fun n hn =>
      let ⟨t, ht, _⟩ := habove n hn
      ⟨t, ht⟩
    omega
  | succ steps ih =>
    have hget := hknows.registered _ name (TypeRef.contains_self _) rfl
    have hfresh : name ∉ above := by
      intro hmem
      obtain ⟨t, ht, hlt⟩ := habove name hmem
      rw [hget] at ht
      cases ht
      exact Nat.lt_irrefl _ hlt
    refine exists_mapComposite_succ hget fun field hmem => ?_
    have hpart : field.type ∈ (TypeRef.composite name fields).parts := List.mem_map_of_mem hmem
    have hin := TypeRef.contains_of_mem_parts hpart
    have hinner : ∀ name' fields', field.type.Contains (.composite name' fields') →
        ∃ m, mapComposite registry steps name' = .ok m ∧
          m.FallsBackIn (.composite name' fields') := by
      intro name' fields' hin'
      refine ih (List.nodup_cons.2 ⟨hfresh, hnodup⟩) ((hknows.contains hin).contains hin') ?_ ?_
      · have hlt := Nat.lt_of_le_of_lt hin'.sizeOf_le (TypeRef.sizeOf_lt_of_mem_parts hpart)
        refine List.forall_mem_cons.2 ⟨⟨_, hget, hlt⟩, fun n hn => ?_⟩
        obtain ⟨t, ht, hlt'⟩ := habove n hn
        exact ⟨t, ht, hlt.trans hlt'⟩
      · simp only [List.length_cons]
        omega
    obtain ⟨m, hm, hfalls⟩ := exists_mapWith (hknows.contains hin) hinner
    exact ⟨_, bind_eq_ok_iff.2 ⟨m, hm, rfl⟩, (hfalls.mono hin).nullable _⟩

/-- A type that the registry knows is mapped, and only its own parts fall back to text. -/
theorem exists_mapType {t : TypeRef} (ht : registry.Knows t) :
    ∃ m, mapType registry t = .ok m ∧ m.FallsBackIn t := by
  refine exists_mapWith ht fun name fields hin => ?_
  exact exists_mapComposite List.nodup_nil (ht.contains hin) (by simp) (by simp)

/-- A name that was looked up and not found. -/
def IsLookupFailure (u : Unrecognized) : Prop :=
  u.reason = "enum not found in catalog" ∨ u.reason = "composite type not found in catalog"

end Mapping

/-! ## Types given by rows -/

namespace Catalog

open TypeRows

variable {rows : TypeRows} {registry : Registry}

theorem TypeRows.Gives.ne_foreign {sort : String} : ¬ Gives rows (.foreign sort) := by
  intro h
  generalize ht : TypeRef.foreign sort = t at h
  cases h with
  | defined _ _ hdefine => cases expandsTo_of_define hdefine <;> cases ht
  | leaf hleaf => cases hleaf <;> cases ht
  | missing oid => cases ht
  | layer w _ => cases w <;> cases ht

/-- What rows give instead of a type says so by other words than a failed lookup. -/
theorem TypeRows.Gives.not_isLookupFailure {u : Unrecognized} (h : Gives rows (.unrecognized u)) :
    ¬ IsLookupFailure u := by
  generalize ht : TypeRef.unrecognized u = t at h
  cases h with
  | defined _ _ hdefine =>
    cases expandsTo_of_define hdefine with
    | enum _ => cases ht
    | relation _ _ =>
      cases ht
      simp [IsLookupFailure]
    | composite _ _ _ => cases ht
    | domain _ _ _ => cases ht
  | leaf hleaf =>
    cases hleaf with
    | openRange _ _ =>
      cases ht
      simp [IsLookupFailure]
    | multirange _ =>
      cases ht
      simp [IsLookupFailure]
    | base => cases ht
  | missing oid =>
    cases ht
    simp [IsLookupFailure]
  | layer w _ => cases w <;> cases ht

theorem Registry.knows_of_gives (hindexed : rows.Indexed)
    (hnames : (rows.registered.map TypeRow.qualifiedName).Nodup)
    (h : Registry.ofRows rows = .ok registry) {t : TypeRef} (ht : Gives rows t) :
    registry.Knows t where
  registered _ _ hu hn := get?_of_contains hindexed hnames h ht hu hn
  isType _ hsort := (ht.contains hindexed hsort).ne_foreign

theorem TypeRows.Gives.not_isLookupFailure_of_lacksCounterpart (hindexed : rows.Indexed)
    {t : TypeRef} (h : Gives rows t) {u : Unrecognized} (hu : LacksCounterpart t u) :
    ¬ IsLookupFailure u := by
  cases hu with
  | unrecognized hin => exact (h.contains hindexed hin).not_isLookupFailure
  | scalar _ => simp [IsLookupFailure]

/-- A registry and the types resolved with it agree. -/
structure Registry.Agrees (types : List TypeRow) (rows : TypeRows) (registry : Registry) :
    Prop where
  nodup_names : registry.names.Nodup
  mem_names_iff : ∀ n, n ∈ registry.names ↔
    ∃ row ∈ types, row.isRegistered = true ∧ row.qualifiedName = n
  variant : ∀ row ∈ types, row.isRegistered = true →
    ∃ t, registry.get? row.qualifiedName = some t ∧ VariantOf row t
  /-- A reference that can be unwrapped has a type. -/
  resolves : ∀ oid modifier dimensions, rows.unwrap oid modifier dimensions ≠ none →
    ∃ t, registry.resolve oid modifier dimensions = .ok t
  lookup : ∀ oid modifier dimensions t, registry.resolve oid modifier dimensions = .ok t →
    ∀ u n, t.Contains u → u.registeredName? = some n → registry.get? n = some u
  mapped : ∀ oid modifier dimensions t, registry.resolve oid modifier dimensions = .ok t →
    ∃ m, mapType registry t = .ok m ∧ (∀ u ∈ m.unsupported, ¬ IsLookupFailure u) ∧
      ∀ d ∈ m.declarations, ∀ e ∈ d.unsupported, ¬ IsLookupFailure e.2

/-- A registry of rows agrees with what it resolves if no name is registered twice. -/
theorem Registry.agrees_of_ofRows {types : List TypeRow} {labels : List LabelRow}
    {attributes : List AttributeRow} (hoids : (types.map TypeRow.oid).Nodup)
    (hnames : ((types.filter TypeRow.isRegistered).map TypeRow.qualifiedName).Nodup)
    {registry : Registry} (h : Registry.ofRows (.ofRows types labels attributes) = .ok registry) :
    registry.Agrees types (.ofRows types labels attributes) := by
  have hindexed := indexed_ofRows types labels attributes
  have hperm := registered_perm hoids labels attributes
  have hregistered := (hperm.map TypeRow.qualifiedName).nodup_iff.2 hnames
  have hresolve := resolve_eq (exists_row_of_get? h).1
  constructor
  case nodup_names => exact (names_of_ofRows h).1
  case mem_names_iff =>
    intro n
    rw [(names_of_ofRows h).2, (hperm.map TypeRow.qualifiedName).mem_iff]
    simp only [List.mem_map, List.mem_filter, and_assoc]
  case variant =>
    intro row hrow hregisteredRow
    have hmem := hperm.mem_iff.2 (List.mem_filter.2 ⟨hrow, hregisteredRow⟩)
    obtain ⟨t, ht⟩ := exists_define_of_ofRows h hmem
    exact ⟨t, get?_of_define hregistered h hmem ht, variantOf_of_define hregisteredRow ht⟩
  case resolves =>
    intro oid modifier dimensions hunwrap
    exact exists_resolve_of_ofRows hindexed h hunwrap
  case lookup =>
    intro oid modifier dimensions t ht u n hu hn
    rw [hresolve] at ht
    exact get?_of_contains hindexed hregistered h (gives_of_resolve hindexed ht) hu hn
  case mapped =>
    intro oid modifier dimensions t ht
    rw [hresolve] at ht
    have hgives := gives_of_resolve hindexed ht
    obtain ⟨m, hm, hfalls⟩ := exists_mapType (knows_of_gives hindexed hregistered h hgives)
    refine ⟨m, hm, fun u hu => ?_, fun d hd e he => ?_⟩
    · exact hgives.not_isLookupFailure_of_lacksCounterpart hindexed (hfalls.unsupported u hu)
    · exact hgives.not_isLookupFailure_of_lacksCounterpart hindexed (hfalls.declarations d hd e he)

/-- An enum inside a composite, through an array, and a domain over the composite; the row type of a
table beside them. -/
def personTypes : List TypeRow :=
  [⟨1, "public", "mood", "e", "E", 0, 0, -1, false, 0, none, none⟩,
    ⟨2, "public", "_mood", "b", "A", 1, 0, -1, false, 0, none, none⟩,
    ⟨3, "public", "person", "c", "C", 0, 0, -1, false, 0, some "c", none⟩,
    ⟨4, "public", "adult", "d", "C", 0, 3, -1, true, 0, none, none⟩,
    ⟨5, "public", "users", "c", "C", 0, 0, -1, false, 9, some "r", none⟩]

def personRows : TypeRows :=
  .ofRows personTypes [⟨1, "happy", .integer 1⟩] [⟨3, "moods", 1, 2, -1, 1, false⟩]

def personType : TypeRef :=
  .composite ⟨"public", "person"⟩ [⟨"moods", .array (.enum ⟨"public", "mood"⟩ ["happy"]) 1, false⟩]

def personRegistry : Registry where
  entries := [(⟨"public", "adult"⟩, .domain ⟨"public", "adult"⟩ personType true),
    (⟨"public", "mood"⟩, .enum ⟨"public", "mood"⟩ ["happy"]), (⟨"public", "person"⟩, personType)]
  rows := some personRows

theorem personRegistry_agrees :
    (personTypes.map TypeRow.oid).Nodup ∧
      ((personTypes.filter TypeRow.isRegistered).map TypeRow.qualifiedName).Nodup ∧
      Registry.ofRows personRows = .ok personRegistry ∧
        personRegistry.Agrees personTypes personRows :=
  ⟨by decide, by decide, rfl, Registry.agrees_of_ofRows (by decide) (by decide) rfl⟩

end Catalog

end SchemaStructs
