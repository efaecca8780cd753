import Mathlib.Data.List.Perm.Subperm
import Mathlib.Logic.Relation
import SchemaStructs.Proofs.Catalog.Resolution

/-!
# References between type rows

An array refers to its element and a range to its subtype; a domain refers to its base and a
standalone composite to the types of its attributes. Unwrapping a reference follows the first two
and ends in what they lead to. It has an end for every oid unless arrays and ranges lead back to
themselves.
-/

namespace SchemaStructs.Catalog.TypeRows

open Relation

/-! ## Edges -/

/-- The array or range `a` is around `b`. -/
inductive Wraps (rows : TypeRows) : Oid → Oid → Prop
  | element {a : Oid} {row : TypeRow} : rows.row? a = some row → row.isArray = true →
      Wraps rows a row.element
  | subtype {a b : Oid} {row : TypeRow} : rows.row? a = some row → row.kind = "r" →
      row.rangeSubtype = some b → Wraps rows a b

/-- The definition of the domain or standalone composite `a` refers to `b`. -/
inductive Mentions (rows : TypeRows) : Oid → Oid → Prop
  | base {a : Oid} {row : TypeRow} :
    rows.row? a = some row → row.kind = "d" → Mentions rows a row.base
  | field {a : Oid} {row : TypeRow} {field : AttributeRow} :
    rows.row? a = some row → row.kind = "c" →
      row.isRelationRow = false → field ∈ rows.attributes → field.owner = a →
        Mentions rows a field.type

def Refers (rows : TypeRows) (a b : Oid) : Prop := Wraps rows a b ∨ Mentions rows a b

/-- A domain or standalone composite. -/
def IsDefinition (rows : TypeRows) (oid : Oid) : Prop :=
  ∃ row, rows.row? oid = some row ∧ (row.kind = "d" ∨ row.kind = "c" ∧ row.isRelationRow = false)

/-- The definition of `a` refers to the one of `b`, possibly through arrays and ranges. -/
def Links (rows : TypeRows) (a b : TypeRow) : Prop :=
  ∃ oid, Mentions rows a.oid oid ∧ ReflTransGen (Wraps rows) oid b.oid ∧
    rows.row? b.oid = some b ∧ b.isUserDefined = true

/-- No cycle of references consists of arrays and ranges only. -/
def CyclesPassDefinitions (rows : TypeRows) : Prop :=
  ∀ oid, ¬ TransGen (fun a b => rows.Refers a b ∧ ¬ rows.IsDefinition a) oid oid

/-- Rows are listed once and under their own oids. -/
structure Indexed (rows : TypeRows) : Prop where
  nodup : rows.types.keys.Nodup
  keyed : ∀ oid row, (oid, row) ∈ rows.types → row.oid = oid

variable {rows : TypeRows}

theorem types_ofRows {types : List TypeRow} (hoids : (types.map TypeRow.oid).Nodup)
    (labels : List LabelRow) (attributes : List AttributeRow) :
    (ofRows types labels attributes).types = types.map fun row => (row.oid, row) :=
  Entries.ofPairs_eq_self (keys_byOid types ▸ hoids)

theorem mem_of_mem_types {types : List TypeRow} {labels : List LabelRow}
    {attributes : List AttributeRow} {oid : Oid} {row : TypeRow}
    (h : (oid, row) ∈ (ofRows types labels attributes).types) : row ∈ types ∧ row.oid = oid := by
  obtain ⟨row', hrow, he⟩ := List.mem_map.1 (Entries.mem_of_mem_ofPairs h)
  obtain ⟨rfl, rfl⟩ := Prod.mk.inj he
  exact ⟨hrow, rfl⟩

theorem mem_of_mem_registered {types : List TypeRow} {labels : List LabelRow}
    {attributes : List AttributeRow} {row : TypeRow}
    (h : row ∈ (ofRows types labels attributes).registered) :
    row ∈ types ∧ row.isRegistered = true := by
  obtain ⟨hrow, hregistered⟩ := List.mem_filter.1 h
  obtain ⟨⟨oid, row'⟩, hmem, rfl⟩ := List.mem_map.1 (mem_sortOn.1 hrow)
  exact ⟨(mem_of_mem_types hmem).1, hregistered⟩

theorem indexed_ofRows (types : List TypeRow) (labels : List LabelRow)
    (attributes : List AttributeRow) : (ofRows types labels attributes).Indexed where
  nodup := Entries.nodup_keys_ofPairs _
  keyed _ _ h := (mem_of_mem_types h).2

namespace Indexed

theorem row?_eq_some_iff (h : rows.Indexed) {oid : Oid} {row : TypeRow} :
    rows.row? oid = some row ↔ (oid, row) ∈ rows.types :=
  Entries.get?_eq_some_iff h.nodup

theorem oid_eq (h : rows.Indexed) {oid : Oid} {row : TypeRow} (hrow : rows.row? oid = some row) :
    row.oid = oid :=
  h.keyed oid row (h.row?_eq_some_iff.1 hrow)

theorem row?_oid (h : rows.Indexed) {oid : Oid} {row : TypeRow} (hrow : rows.row? oid = some row) :
    rows.row? row.oid = some row := by
  rw [h.oid_eq hrow]
  exact hrow

theorem mem_registered_iff (h : rows.Indexed) {row : TypeRow} :
    row ∈ rows.registered ↔ rows.row? row.oid = some row ∧ row.isRegistered = true := by
  rw [registered, List.mem_filter, mem_sortOn, h.row?_eq_some_iff, List.mem_map]
  refine and_congr_left fun _ => ⟨?_, fun hmem => ⟨_, hmem, rfl⟩⟩
  rintro ⟨⟨oid, row'⟩, hmem, rfl⟩
  rw [h.keyed oid row' hmem]
  exact hmem

end Indexed

theorem mem_keys_of_row? {oid : Oid} {row : TypeRow} (h : rows.row? oid = some row) :
    oid ∈ rows.types.keys :=
  List.mem_map.2 ⟨_, Entries.mem_of_get? h, rfl⟩

theorem wraps_iff {a b : Oid} {row : TypeRow} (hrow : rows.row? a = some row) :
    Wraps rows a b ↔
      row.isArray = true ∧ b = row.element ∨ row.kind = "r" ∧ row.rangeSubtype = some b := by
  constructor
  · rintro (⟨hrow', harray⟩ | ⟨hrow', hkind, hsubtype⟩)
    · obtain rfl := Option.some.inj (hrow.symm.trans hrow')
      exact Or.inl ⟨harray, rfl⟩
    · obtain rfl := Option.some.inj (hrow.symm.trans hrow')
      exact Or.inr ⟨hkind, hsubtype⟩
  · rintro (⟨harray, rfl⟩ | ⟨hkind, hsubtype⟩)
    · exact .element hrow harray
    · exact .subtype hrow hkind hsubtype

theorem Wraps.exists_row {a b : Oid} (h : Wraps rows a b) : ∃ row, rows.row? a = some row := by
  cases h with
  | element hrow _ => exact ⟨_, hrow⟩
  | subtype hrow _ _ => exact ⟨_, hrow⟩

theorem kind_of_isArray {row : TypeRow} (h : row.isArray = true) : row.kind = "b" := by
  simp only [TypeRow.isArray, Bool.and_eq_true, beq_iff_eq] at h
  exact h.1.1

/-- What is around another type is no definition. -/
theorem Wraps.not_isUserDefined {a b : Oid} {row : TypeRow} (h : Wraps rows a b)
    (hrow : rows.row? a = some row) : row.isUserDefined = false := by
  rcases (wraps_iff hrow).1 h with ⟨harray, -⟩ | ⟨hkind, -⟩
  · simp [TypeRow.isUserDefined, kind_of_isArray harray]
  · simp [TypeRow.isUserDefined, hkind]

/-- An array or range is around one type only. -/
theorem Wraps.unique {a b c : Oid} (hb : Wraps rows a b) (hc : Wraps rows a c) : b = c := by
  obtain ⟨row, hrow⟩ := hb.exists_row
  rcases (wraps_iff hrow).1 hb, (wraps_iff hrow).1 hc with
    ⟨⟨harray, rfl⟩ | ⟨hkind, hsubtype⟩, ⟨harray', rfl⟩ | ⟨hkind', hsubtype'⟩⟩
  · rfl
  · simp [kind_of_isArray harray] at hkind'
  · simp [kind_of_isArray harray'] at hkind
  · exact Option.some.inj (hsubtype.symm.trans hsubtype')

theorem mentions_iff {a b : Oid} {row : TypeRow} (hrow : rows.row? a = some row) :
    Mentions rows a b ↔ row.kind = "d" ∧ b = row.base ∨ row.kind = "c" ∧ row.isRelationRow = false ∧
      ∃ field ∈ rows.attributes, field.owner = a ∧ b = field.type := by
  constructor
  · rintro (⟨hrow', hkind⟩ | ⟨hrow', hkind, hrelation, hfield, howner⟩)
    · obtain rfl := Option.some.inj (hrow.symm.trans hrow')
      exact Or.inl ⟨hkind, rfl⟩
    · obtain rfl := Option.some.inj (hrow.symm.trans hrow')
      exact Or.inr ⟨hkind, hrelation, _, hfield, howner, rfl⟩
  · rintro (⟨hkind, rfl⟩ | ⟨hkind, hrelation, field, hfield, howner, rfl⟩)
    · exact .base hrow hkind
    · exact .field hrow hkind hrelation hfield howner

theorem Mentions.isDefinition {a b : Oid} (h : Mentions rows a b) : rows.IsDefinition a := by
  cases h with
  | base hrow hkind => exact ⟨_, hrow, Or.inl hkind⟩
  | field hrow hkind hrelation _ _ => exact ⟨_, hrow, Or.inr ⟨hkind, hrelation⟩⟩

theorem isUserDefined_of_kind {row : TypeRow}
    (h : row.kind = "d" ∨ row.kind = "c" ∧ row.isRelationRow = false) :
    row.isUserDefined = true := by
  rcases h with hkind | ⟨hkind, -⟩
  · simp [TypeRow.isUserDefined, hkind]
  · simp [TypeRow.isUserDefined, hkind]

theorem isRegistered_of_kind {row : TypeRow}
    (h : row.kind = "d" ∨ row.kind = "c" ∧ row.isRelationRow = false) :
    row.isRegistered = true := by
  rw [TypeRow.isRegistered, isUserDefined_of_kind h]
  rcases h with hkind | ⟨-, hrelation⟩
  · simp [hkind]
  · simp [hrelation]

/-! ## Cycles -/

/-- The only cycles without a definition are those of arrays and ranges. -/
theorem cyclesPassDefinitions_iff :
    rows.CyclesPassDefinitions ↔ ∀ oid, ¬ TransGen (Wraps rows) oid oid := by
  have hstep : ∀ a b, (rows.Refers a b ∧ ¬ rows.IsDefinition a) ↔ Wraps rows a b := by
    intro a b
    constructor
    · rintro ⟨hab | hab, hnot⟩
      · exact hab
      · exact absurd hab.isDefinition hnot
    · intro hab
      refine ⟨Or.inl hab, ?_⟩
      rintro ⟨row, hrow, hkind⟩
      have huser := isUserDefined_of_kind hkind
      rw [hab.not_isUserDefined hrow] at huser
      cases huser
  simp only [CyclesPassDefinitions, hstep]

/-- Arrays and ranges that are above what they are around, by some measure, are not on a cycle. -/
theorem cyclesPassDefinitions_of_rank (rank : Oid → Nat)
    (hrank : ∀ a b, Wraps rows a b → rank b < rank a) : rows.CyclesPassDefinitions := by
  refine cyclesPassDefinitions_iff.2 fun oid hcycle => ?_
  have hlt : TransGen (fun m n : Nat => n < m) (rank oid) (rank oid) :=
    TransGen.lift rank (fun a b => hrank a b) _ _ hcycle
  rw [transGen_eq_self] at hlt
  exact Nat.lt_irrefl _ hlt

theorem Links.refers {a b : TypeRow} (h : Links rows a b) : TransGen (Refers rows) a.oid b.oid := by
  obtain ⟨oid, hmentions, hwraps, -⟩ := h
  exact .head' (Or.inr hmentions) (ReflTransGen.mono (fun _ _ => Or.inl) _ _ hwraps)

/-- References that lead to a definition lead there from one definition to the next. -/
theorem exists_links_of_refers (hindexed : rows.Indexed) {oid : Oid} {b : TypeRow}
    (hb : rows.row? b.oid = some b) (huser : b.isUserDefined = true)
    (h : ReflTransGen (Refers rows) oid b.oid) :
    ∃ a, ReflTransGen (Wraps rows) oid a.oid ∧ rows.row? a.oid = some a ∧ a.isUserDefined = true ∧
      ReflTransGen (Links rows) a b := by
  induction h using ReflTransGen.head_induction_on with
  | refl => exact ⟨b, .refl, hb, huser, .refl⟩
  | head hstep _ ih =>
    obtain ⟨a, hwraps, ha, huser', hlinks⟩ := ih
    rcases hstep with hstep | hstep
    · exact ⟨a, .head hstep hwraps, ha, huser', hlinks⟩
    · obtain ⟨row, hrow, hkind⟩ := hstep.isDefinition
      obtain rfl := hindexed.oid_eq hrow
      exact ⟨row, .refl, hrow, isUserDefined_of_kind hkind,
        .head ⟨_, hstep, hwraps, ha, huser'⟩ hlinks⟩

/-- A definition that refers to itself does so from one definition to the next. -/
theorem refers_self_iff (hindexed : rows.Indexed) {row : TypeRow}
    (hrow : rows.row? row.oid = some row) (huser : row.isUserDefined = true) :
    TransGen (Refers rows) row.oid row.oid ↔ TransGen (Links rows) row row := by
  constructor
  · intro h
    obtain ⟨oid, hstep, hrest⟩ := TransGen.head'_iff.1 h
    obtain ⟨a, hwraps, ha, huser', hlinks⟩ := exists_links_of_refers hindexed hrow huser hrest
    rcases hstep with hstep | hstep
    · rw [hstep.not_isUserDefined hrow] at huser
      cases huser
    · exact .head' ⟨oid, hstep, hwraps, ha, huser'⟩ hlinks
  · intro h
    exact TransGen.lift' TypeRow.oid (fun _ _ => Links.refers) _ _ h

/-! ## Unwrapping -/

/-- What stands for a row that is neither defined by a user nor around another type. -/
inductive LeafOf (row : TypeRow) (modifier : Int) : TypeRef → Prop
  | openRange : row.kind = "r" → row.rangeSubtype = none →
      LeafOf row modifier (.unrecognized ⟨row.name, "range subtype not found in catalog"⟩)
  | multirange : row.kind = "m" →
      LeafOf row modifier (.unrecognized ⟨row.name, "multirange types are not supported"⟩)
  | base : LeafOf row modifier (.scalar (.ofModifier row.name modifier))

/-- One step of unwrapping: a layer is taken off, or the reference is at its end. -/
inductive Unwraps (rows : TypeRows) (steps : Nat) (oid : Oid) : Option (List Wrapper × Core) → Prop
  | layer {inner : Oid} (w : Wrapper) (modifier : Int) : Wraps rows oid inner →
      Unwraps rows steps oid
        ((rows.unwrapWith steps inner modifier 0).map fun found => (w :: found.1, found.2))
  | defined {row : TypeRow} : rows.row? oid = some row → row.isUserDefined = true →
      Unwraps rows steps oid (some ([], .userDefined row))
  | missing : rows.row? oid = none → Unwraps rows steps oid (some ([], .missing oid))
  | leaf {row : TypeRow} {type : TypeRef} (modifier : Int) : rows.row? oid = some row →
      row.isUserDefined = false → (∀ inner, ¬ Wraps rows oid inner) → LeafOf row modifier type →
      Unwraps rows steps oid (some ([], .leaf type))

theorem unwraps_succ (rows : TypeRows) (steps : Nat) (oid : Oid) (modifier dimensions : Int) :
    Unwraps rows steps oid (rows.unwrapWith (steps + 1) oid modifier dimensions) := by
  unfold unwrapWith
  split
  · rename_i hnone
    exact .missing hnone
  rename_i row hrow
  split
  · rename_i harray
    exact .layer _ _ (.element hrow harray)
  rename_i harray
  split
  · rename_i huser
    exact .defined hrow huser
  rename_i huser
  have hleaf : ∀ {type}, (row.kind = "r" → row.rangeSubtype = none) → LeafOf row modifier type →
      Unwraps rows steps oid (some ([], .leaf type)) := by
    intro type hrange htype
    refine .leaf modifier hrow (Bool.eq_false_iff.2 huser) (fun inner hwraps => ?_) htype
    rcases (wraps_iff hrow).1 hwraps with ⟨harray', -⟩ | ⟨hkind, hsubtype⟩
    · exact harray harray'
    · simp [hrange hkind] at hsubtype
  split
  · rename_i hkind
    split
    · rename_i hsubtype
      exact hleaf (fun _ => hsubtype) (.openRange hkind hsubtype)
    · rename_i subtype hsubtype
      exact .layer _ _ (.subtype hrow hkind hsubtype)
  rename_i hkind
  split
  · rename_i hmultirange
    exact hleaf (fun hkind' => absurd hkind' hkind) (.multirange hmultirange)
  · exact hleaf (fun hkind' => absurd hkind' hkind) .base

/-- What unwrapping ends in stands behind arrays and ranges. -/
theorem exists_wraps_of_unwrapWith {steps : Nat} {oid : Oid} {modifier dimensions : Int}
    {ws : List Wrapper} {row : TypeRow}
    (h : rows.unwrapWith steps oid modifier dimensions = some (ws, .userDefined row)) :
    ∃ inner, ReflTransGen (Wraps rows) oid inner ∧ rows.row? inner = some row ∧
      row.isUserDefined = true := by
  induction steps generalizing oid modifier dimensions ws with
  | zero => cases h
  | succ steps ih =>
    have hstep := h ▸ unwraps_succ rows steps oid modifier dimensions
    generalize hfound : some (ws, Core.userDefined row) = found at hstep
    cases hstep with
    | layer w modifier' hwraps =>
      obtain ⟨⟨ws', core⟩, hinner, he⟩ := Option.map_eq_some_iff.1 hfound.symm
      cases he
      obtain ⟨inner, hwraps', hrow⟩ := ih hinner
      exact ⟨inner, .head hwraps hwraps', hrow⟩
    | defined hrow huser =>
      cases hfound
      exact ⟨oid, .refl, hrow, huser⟩
    | missing _ => cases hfound
    | leaf _ _ _ _ _ => cases hfound

/-- What unwrapping ends in is a row's leaf if it is neither missing nor a definition. -/
theorem exists_leafOf_of_unwrapWith {steps : Nat} {oid : Oid} {modifier dimensions : Int}
    {ws : List Wrapper} {type : TypeRef}
    (h : rows.unwrapWith steps oid modifier dimensions = some (ws, .leaf type)) :
    ∃ row modifier', LeafOf row modifier' type := by
  induction steps generalizing oid modifier dimensions ws with
  | zero => cases h
  | succ steps ih =>
    have hstep := h ▸ unwraps_succ rows steps oid modifier dimensions
    generalize hfound : some (ws, Core.leaf type) = found at hstep
    cases hstep with
    | layer w modifier' _ =>
      obtain ⟨⟨ws', core⟩, hinner, he⟩ := Option.map_eq_some_iff.1 hfound.symm
      cases he
      exact ih hinner
    | defined _ _ => cases hfound
    | missing _ => cases hfound
    | leaf modifier' _ _ _ hleaf =>
      cases hfound
      exact ⟨_, modifier', hleaf⟩

/-- Unwrapping that ends finds the definition that stands behind arrays and ranges. -/
theorem unwrapWith_of_wraps {oid inner : Oid} {row : TypeRow}
    (hwraps : ReflTransGen (Wraps rows) oid inner) (hrow : rows.row? inner = some row)
    (huser : row.isUserDefined = true) {steps : Nat} {modifier dimensions : Int} {ws : List Wrapper}
    {core : Core} (h : rows.unwrapWith steps oid modifier dimensions = some (ws, core)) :
    core = .userDefined row := by
  induction steps generalizing oid modifier dimensions ws with
  | zero => cases h
  | succ steps ih =>
    have hstep := h ▸ unwraps_succ rows steps oid modifier dimensions
    generalize hfound : some (ws, core) = found at hstep
    rcases ReflTransGen.cases_head hwraps with rfl | ⟨next, hnext, hrest⟩
    · cases hstep with
      | layer w modifier' hwraps' => simp [hwraps'.not_isUserDefined hrow] at huser
      | defined hrow' _ =>
        obtain rfl := Option.some.inj (hrow.symm.trans hrow')
        cases hfound
        rfl
      | missing hnone => simp [hrow] at hnone
      | leaf _ hrow' hleaf _ _ =>
        obtain rfl := Option.some.inj (hrow.symm.trans hrow')
        simp [huser] at hleaf
    · cases hstep with
      | layer w modifier' hwraps' =>
        obtain rfl := hnext.unique hwraps'
        obtain ⟨⟨ws', core'⟩, hinner, he⟩ := Option.map_eq_some_iff.1 hfound.symm
        cases he
        exact ih hrest hinner
      | defined hrow' huser' => simp [hnext.not_isUserDefined hrow'] at huser'
      | missing hnone =>
        obtain ⟨row', hrow'⟩ := hnext.exists_row
        simp [hnone] at hrow'
      | leaf _ _ _ hnot _ => exact absurd hnext (hnot _)

/-- Unwrapping ends if no array or range is inside itself. `seen` holds what was taken off before;
it has no oid twice, so there are no more of them than rows. -/
theorem unwrapWith_ne_none (hwraps : ∀ oid, ¬ TransGen (Wraps rows) oid oid) {steps : Nat}
    {oid : Oid} {modifier dimensions : Int} {seen : List Oid} (hnodup : seen.Nodup)
    (hseen : ∀ o ∈ seen, o ∈ rows.types.keys ∧ TransGen (Wraps rows) o oid)
    (hsteps : rows.types.length < steps + seen.length) :
    rows.unwrapWith steps oid modifier dimensions ≠ none := by
  induction steps generalizing oid modifier dimensions seen with
  | zero =>
    have hlength : seen.length ≤ rows.types.keys.length :=
      (hnodup.subperm fun o ho => (hseen o ho).1).length_le
    rw [Entries.keys, List.length_map] at hlength
    omega
  | succ steps ih =>
    have hstep := unwraps_succ rows steps oid modifier dimensions
    intro hnone
    rw [hnone] at hstep
    generalize hfound : (none : Option (List Wrapper × Core)) = found at hstep
    cases hstep with
    | layer w modifier' hinner =>
      obtain ⟨row, hrow⟩ := hinner.exists_row
      have hfresh : oid ∉ seen := fun hmem => hwraps oid (hseen oid hmem).2
      refine ih (List.nodup_cons.2 ⟨hfresh, hnodup⟩) ?_ ?_ (Option.map_eq_none_iff.1 hfound.symm)
      · refine List.forall_mem_cons.2 ⟨⟨mem_keys_of_row? hrow, .single hinner⟩, ?_⟩
        exact fun o ho => ⟨(hseen o ho).1, (hseen o ho).2.tail hinner⟩
      · simp only [List.length_cons]
        omega
    | defined _ _ => cases hfound
    | missing _ => cases hfound
    | leaf _ _ _ _ _ => cases hfound

theorem unwrap_ne_none (hwraps : ∀ oid, ¬ TransGen (Wraps rows) oid oid) (oid : Oid)
    (modifier dimensions : Int) : rows.unwrap oid modifier dimensions ≠ none :=
  unwrapWith_ne_none hwraps List.nodup_nil (by simp) (by simp)

end SchemaStructs.Catalog.TypeRows
