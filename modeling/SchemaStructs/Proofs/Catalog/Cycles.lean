import Mathlib.Data.List.Chain
import Mathlib.Data.List.TakeWhile
import SchemaStructs.Proofs.Catalog.Assembly
import SchemaStructs.Proofs.Catalog.References

/-!
# Cycles of definitions

An expansion goes from a definition along its links. A definition that leads back to itself has no
expansion, because below it the definition is met again; and an expansion that fails has met a
definition again, so what it reports is a cycle of links.
-/

namespace SchemaStructs.Catalog

open Relation

namespace TypeRows

variable {rows : TypeRows}

def visitOf (row : TypeRow) : Visit := (row.oid, row.qualifiedName.text)

theorem mem_attributesOf {oid : Oid} {a : AttributeRow} :
    a ∈ rows.attributesOf oid ↔ a ∈ rows.attributes ∧ a.owner = oid := by
  rw [attributesOf, mem_sortOn, List.mem_filter, beq_iff_eq]

/-! ## A cycle stops an expansion -/

/-- Every reference in an expanded definition was resolved. -/
theorem ExpandsTo.exists_resolve {resolve : Oid → Int → Int → Except ResolutionError TypeRef}
    {row : TypeRow} {t : TypeRef} (h : ExpandsTo rows resolve row t)
    (hrow : rows.row? row.oid = some row) {oid : Oid} (hoid : Mentions rows row.oid oid) :
    ∃ modifier dimensions inner, resolve oid modifier dimensions = .ok inner := by
  have hcases := (mentions_iff hrow).1 hoid
  cases h with
  | enum hkind => simp [hkind] at hcases
  | relation hkind hrelation => simp [hkind, hrelation] at hcases
  | composite hkind hrelation hfields =>
    rcases hcases with ⟨hkind', -⟩ | ⟨-, -, field, hfield, howner, rfl⟩
    · simp [hkind] at hkind'
    · obtain ⟨t, -, -, -, ht⟩ := exists_right_of_mem hfields (mem_attributesOf.2 ⟨hfield, howner⟩)
      exact ⟨_, _, _, ht⟩
  | domain _ hc hbase =>
    rcases hcases with ⟨-, rfl⟩ | ⟨hkind, -⟩
    · exact ⟨_, _, _, hbase⟩
    · exact absurd hkind hc

/-- With a definition, those linked from it are expanded, below it. -/
theorem exists_expand_of_links {steps : Nat} {path : List Visit} {a b : TypeRow} {t : TypeRef}
    (ha : rows.row? a.oid = some a) (hlinks : Links rows a b)
    (h : rows.expand steps path a = .ok t) :
    ∃ steps' inner, rows.expand steps' (path ++ [visitOf a]) b = .ok inner := by
  cases steps with
  | zero => cases h
  | succ steps =>
    obtain ⟨oid, hmentions, hwraps, hb, huser⟩ := hlinks
    obtain ⟨-, h⟩ := expand_succ_eq_ok_iff.1 h
    obtain ⟨modifier, dimensions, inner, hinner⟩ := h.exists_resolve ha hmentions
    obtain ⟨ws, core, type, hunwrap, hcore, -⟩ := resolveWith_eq_ok_iff.1 hinner
    obtain rfl := unwrapWith_of_wraps hwraps hb huser hunwrap
    exact ⟨steps, type, hcore⟩

/-- The same along any number of links: what is above stays above. -/
theorem exists_expand_of_transGen_links {a b : TypeRow} (hlinks : TransGen (Links rows) a b)
    (ha : rows.row? a.oid = some a) {steps : Nat} {path : List Visit} {t : TypeRef}
    (h : rows.expand steps path a = .ok t) :
    ∃ steps' path' inner, path ++ [visitOf a] ⊆ path' ∧ rows.expand steps' path' b = .ok inner := by
  induction hlinks using TransGen.head_induction_on generalizing steps path t with
  | single hstep =>
    obtain ⟨steps', inner, hinner⟩ := exists_expand_of_links ha hstep h
    exact ⟨steps', _, inner, List.Subset.refl _, hinner⟩
  | head hstep _ ih =>
    obtain ⟨steps', inner, hinner⟩ := exists_expand_of_links ha hstep h
    obtain ⟨-, -, -, hc, -⟩ := hstep
    obtain ⟨steps'', path', inner', hsub, hinner'⟩ := ih hc hinner
    exact ⟨steps'', path', inner', fun v hv => hsub (List.mem_append_left _ hv), hinner'⟩

/-- A definition that leads back to itself has no expansion. -/
theorem expand_ne_ok_of_cycle {row : TypeRow} (hrow : rows.row? row.oid = some row)
    (hcycle : TransGen (Links rows) row row) (steps : Nat) (path : List Visit) (t : TypeRef) :
    rows.expand steps path row ≠ .ok t := by
  intro h
  obtain ⟨steps', path', inner, hsub, hinner⟩ := exists_expand_of_transGen_links hcycle hrow h
  cases steps' with
  | zero => cases hinner
  | succ steps' => exact (expand_succ_eq_ok_iff.1 hinner).1 (visitOf row) (hsub (by simp)) rfl

/-! ## A failure is a cycle -/

theorem resolveWith_eq_error {expand : TypeRow → Except ResolutionError TypeRef} {oid : Oid}
    {modifier dimensions : Int} {e : ResolutionError}
    (h : rows.resolveWith expand oid modifier dimensions = .error e) :
    rows.unwrap oid modifier dimensions = none ∨
      ∃ ws row, rows.unwrap oid modifier dimensions = some (ws, .userDefined row) ∧
        expand row = .error e := by
  cases hunwrap : rows.unwrap oid modifier dimensions with
  | none => exact Or.inl rfl
  | some found =>
    obtain ⟨ws, core⟩ := found
    rw [resolveWith_eq hunwrap] at h
    rcases bind_eq_error_iff.1 h with hcore | ⟨inner, -, h⟩
    · cases core with
      | missing oid => cases hcore
      | userDefined row => exact Or.inr ⟨ws, row, rfl, hcore⟩
      | leaf type => cases hcore
    · cases h

/-- An expansion that fails has met its definition before, or fails at a reference in it. -/
theorem expand_succ_eq_error {steps : Nat} {path : List Visit} {row : TypeRow} {e : ResolutionError}
    (hrow : rows.row? row.oid = some row) (huser : row.isUserDefined = true)
    (h : rows.expand (steps + 1) path row = .error e) :
    ((∃ v ∈ path, v.1 = row.oid) ∧ e = .cycle (cycleAt path row)) ∨
    ((∀ v ∈ path, v.1 ≠ row.oid) ∧ ∃ oid modifier dimensions, Mentions rows row.oid oid ∧
      rows.resolveWith (rows.expand steps (path ++ [visitOf row])) oid modifier dimensions =
        .error e) := by
  rw [expand] at h
  by_cases hpath : path.any (·.1 == row.oid) = true
  · obtain ⟨v, hv, hoid⟩ := List.any_eq_true.1 hpath
    rw [if_pos hpath] at h
    cases h
    exact Or.inl ⟨⟨v, hv, eq_of_beq hoid⟩, rfl⟩
  have hfresh : ∀ v ∈ path, v.1 ≠ row.oid := fun v hv he =>
    hpath (List.any_eq_true.2 ⟨v, hv, beq_iff_eq.2 he⟩)
  rw [if_neg hpath] at h
  refine Or.inr ⟨hfresh, ?_⟩
  split at h
  · cases h
  rename_i he
  split at h
  · rename_i hc
    split at h
    · cases h
    rename_i hrelation
    rcases bind_eq_error_iff.1 h with hfields | ⟨fields, -, h⟩
    · obtain ⟨a, ha, hfield⟩ := exists_of_mapM_eq_error hfields
      obtain ⟨hmem, howner⟩ := mem_attributesOf.1 ha
      rcases bind_eq_error_iff.1 hfield with htype | ⟨type, -, h⟩
      · exact ⟨_, _, _, .field hrow hc (Bool.eq_false_iff.2 hrelation) hmem howner, htype⟩
      · cases h
    · cases h
  · rename_i hc
    have hkind : row.kind = "d" := by simpa [TypeRow.isUserDefined, he, hc] using huser
    rcases bind_eq_error_iff.1 h with hbase | ⟨underlying, -, h⟩
    · exact ⟨_, _, _, .base hrow hkind, hbase⟩
    · cases h

/-- Definitions on the way down to `row`, each linked from the one before it. -/
structure Descent (rows : TypeRows) (above : List TypeRow) (row : TypeRow) : Prop where
  linked : (above ++ [row]).IsChain (Links rows)
  known : ∀ r ∈ above ++ [row], rows.row? r.oid = some r
  nodup : (above.map TypeRow.oid).Nodup

theorem Descent.start {row : TypeRow} (hrow : rows.row? row.oid = some row) :
    Descent rows [] row where
  linked := List.isChain_singleton _
  known := by simpa using hrow
  nodup := List.nodup_nil

theorem Descent.next {above : List TypeRow} {row inner : TypeRow} (h : Descent rows above row)
    (hfresh : row.oid ∉ above.map TypeRow.oid) (hlinks : Links rows row inner) :
    Descent rows (above ++ [row]) inner where
  linked := by
    refine List.isChain_append.2 ⟨h.linked, List.isChain_singleton _, ?_⟩
    simpa using hlinks
  known := by
    obtain ⟨-, -, -, hinner, -⟩ := hlinks
    refine List.forall_mem_append.2 ⟨h.known, ?_⟩
    simpa using hinner
  nodup := by
    rw [List.map_append]
    exact h.nodup.append (List.nodup_singleton _) (by simpa using hfresh)

theorem Descent.length_above_le {above : List TypeRow} {row : TypeRow}
    (h : Descent rows above row) : above.length ≤ rows.types.length := by
  have hsub : above.map TypeRow.oid ⊆ rows.types.keys := by
    intro oid hoid
    obtain ⟨r, hr, rfl⟩ := List.mem_map.1 hoid
    exact mem_keys_of_row? (h.known r (List.mem_append_left _ hr))
  simpa [Entries.keys] using (h.nodup.subperm hsub).length_le

/-- A way along links from a definition back to itself. -/
structure IsCycle (rows : TypeRows) (first : TypeRow) (middle : List TypeRow) : Prop where
  linked : (first :: middle ++ [first]).IsChain (Links rows)
  known : ∀ row ∈ first :: middle, rows.row? row.oid = some row

theorem transGen_of_isChain {α : Type*} {R : α → α → Prop} {xs : List α} {a b : α}
    (h : (xs ++ [b]).IsChain R) (ha : a ∈ xs) : TransGen R a b := by
  induction xs generalizing a with
  | nil => cases ha
  | cons x rest ih =>
    rcases List.mem_cons.1 ha with rfl | ha
    · cases rest with
      | nil => exact .single (List.isChain_pair.1 h)
      | cons y rest =>
        obtain ⟨hstep, hrest⟩ := List.isChain_cons_cons.1 h
        exact .head hstep (ih hrest List.mem_cons_self)
    · exact ih h.tail ha

theorem IsCycle.transGen_links {first : TypeRow} {middle : List TypeRow}
    (h : IsCycle rows first middle) {row : TypeRow} (hrow : row ∈ first :: middle) :
    TransGen (Links rows) row first :=
  transGen_of_isChain h.linked hrow

theorem IsCycle.kind {first : TypeRow} {middle : List TypeRow} (h : IsCycle rows first middle)
    {row : TypeRow} (hrow : row ∈ first :: middle) :
    row.kind = "d" ∨ row.kind = "c" ∧ row.isRelationRow = false := by
  obtain ⟨-, ⟨oid, hmentions, -⟩, -⟩ := TransGen.head'_iff.1 (h.transGen_links hrow)
  obtain ⟨row', hrow', hkind⟩ := hmentions.isDefinition
  rw [h.known row hrow] at hrow'
  exact Option.some.inj hrow' ▸ hkind

/-- The part of a descent that starts at a definition met again is a cycle. -/
theorem Descent.exists_cycle {above : List TypeRow} {row : TypeRow} (h : Descent rows above row)
    (hmet : row.oid ∈ above.map TypeRow.oid) :
    ∃ first middle, IsCycle rows first middle ∧
      cycleAt (above.map visitOf) row =
        (first :: middle ++ [first]).map (·.qualifiedName.text) := by
  obtain ⟨r, hr, hoid⟩ := List.mem_map.1 hmet
  obtain ⟨first, middle, hfirst⟩ : ∃ first middle,
      above.dropWhile (·.oid != row.oid) = first :: middle := by
    refine List.exists_cons_of_ne_nil fun hnil => ?_
    simpa [hoid] using List.dropWhile_eq_nil_iff.1 hnil r hr
  have hoid : first.oid = row.oid := by
    have hhead := List.head?_dropWhile_not (fun r : TypeRow => r.oid != row.oid) above
    simpa [hfirst] using hhead
  have hsuffix : first :: middle ++ [row] <:+ above ++ [row] := by
    refine ⟨above.takeWhile (·.oid != row.oid), ?_⟩
    rw [← hfirst, ← List.append_assoc, List.takeWhile_append_dropWhile]
  have hsame : first = row := by
    have hknown := h.known first (hsuffix.subset (by simp))
    rw [hoid, h.known row (by simp)] at hknown
    exact (Option.some.inj hknown).symm
  subst hsame
  refine ⟨first, middle, ⟨h.linked.suffix hsuffix, fun r hr => h.known r ?_⟩, ?_⟩
  · exact hsuffix.subset (List.mem_append_left _ hr)
  · have hdrop : (above.map visitOf).dropWhile (·.1 != first.oid) =
        (first :: middle).map visitOf := by
      rw [← hfirst, List.dropWhile_map]
      rfl
    rw [cycleAt, hdrop]
    simp [visitOf]

/-- A failed expansion reports a cycle, if unwrapping has an end and there are enough steps. -/
theorem exists_cycle_of_expand (hwraps : ∀ oid, ¬ TransGen (Wraps rows) oid oid)
    (hindexed : rows.Indexed) {steps : Nat} {above : List TypeRow} {row : TypeRow}
    {e : ResolutionError} (hdescent : Descent rows above row) (huser : row.isUserDefined = true)
    (hsteps : rows.types.length < steps + above.length)
    (h : rows.expand steps (above.map visitOf) row = .error e) :
    ∃ first middle, IsCycle rows first middle ∧
      e = .cycle ((first :: middle ++ [first]).map (·.qualifiedName.text)) := by
  induction steps generalizing above row with
  | zero =>
    have := hdescent.length_above_le
    omega
  | succ steps ih =>
    have hrow := hdescent.known row (by simp)
    rcases expand_succ_eq_error hrow huser h with
      ⟨⟨v, hv, hoid⟩, rfl⟩ | ⟨hfresh, oid, m, d, hmentions, he⟩
    · obtain ⟨r, hr, rfl⟩ := List.mem_map.1 hv
      obtain ⟨first, middle, hcycle, hnames⟩ := hdescent.exists_cycle (List.mem_map.2 ⟨r, hr, hoid⟩)
      exact ⟨first, middle, hcycle, by rw [hnames]⟩
    rcases resolveWith_eq_error he with hnone | ⟨ws, inner, hunwrap, hinner⟩
    · exact absurd hnone (unwrap_ne_none hwraps _ _ _)
    obtain ⟨oid', hreach, hinnerRow, hinnerUser⟩ := exists_wraps_of_unwrapWith hunwrap
    obtain rfl := hindexed.oid_eq hinnerRow
    have hnew : row.oid ∉ above.map TypeRow.oid := by
      intro hmem
      obtain ⟨r, hr, hoid⟩ := List.mem_map.1 hmem
      exact hfresh (visitOf r) (List.mem_map_of_mem hr) hoid
    refine ih (hdescent.next hnew ⟨oid, hmentions, hreach, hinnerRow, hinnerUser⟩) hinnerUser ?_ ?_
    · simp only [List.length_append, List.length_singleton]
      omega
    · simpa using hinner

end TypeRows

/-! ## Registries -/

namespace Registry

open TypeRows

variable {rows : TypeRows}

theorem exists_define_of_ofRows {registry : Registry} (h : ofRows rows = .ok registry)
    {row : TypeRow} (hrow : row ∈ rows.registered) : ∃ t, rows.define row = .ok t := by
  obtain ⟨entries, hentries, -⟩ := bind_eq_ok_iff.1 h
  refine foldlM_induction (P := fun done _ => ∀ row ∈ done, ∃ t, rows.define row = .ok t) ?_ ?_
    hentries row hrow
  · intro done entries row' entries' hdone hstep
    obtain ⟨t, ht, -⟩ := bind_eq_ok_iff.1 hstep
    exact List.forall_mem_append.2 ⟨hdone, by simpa using ⟨t, ht⟩⟩
  · exact fun _ hmem => absurd hmem List.not_mem_nil

theorem exists_define_of_ofRows_eq_error {e : ResolutionError} (h : ofRows rows = .error e) :
    ∃ row ∈ rows.registered, rows.define row = .error e := by
  rcases bind_eq_error_iff.1 h with hentries | ⟨entries, -, h⟩
  · obtain ⟨row, hrow, entries, hstep⟩ := exists_of_foldlM_eq_error hentries
    rcases bind_eq_error_iff.1 hstep with hdefine | ⟨t, -, h⟩
    · exact ⟨row, hrow, hdefine⟩
    · cases h
  · cases h

/-- Building a registry has an end. It fails exactly if a registered domain or composite refers to
itself, and then reports definitions that do; otherwise every reference has a type. -/
structure DetectsCycles (types : List TypeRow) (rows : TypeRows) : Prop where
  terminates : ofRows rows ≠ .error .endless
  fails_iff : (∃ names, ofRows rows = .error (.cycle names)) ↔
    ∃ row ∈ types, row.isRegistered = true ∧ (row.kind = "d" ∨ row.kind = "c") ∧
      TransGen rows.Refers row.oid row.oid
  reported : ∀ names, ofRows rows = .error (.cycle names) → ∃ first middle,
    names = (first :: middle ++ [first]).map (·.qualifiedName.text) ∧
    (first :: middle ++ [first]).IsChain rows.Links ∧
    ∀ row ∈ first :: middle, row ∈ types ∧ row.isRegistered = true
  resolves : ∀ registry, ofRows rows = .ok registry → ∀ oid modifier dimensions,
    ∃ t, registry.resolve oid modifier dimensions = .ok t

/-- A registry that was built resolves every reference that can be unwrapped. -/
theorem exists_resolve_of_ofRows (hindexed : rows.Indexed) {registry : Registry}
    (h : ofRows rows = .ok registry) {oid : Oid} {modifier dimensions : Int}
    (hunwrap : rows.unwrap oid modifier dimensions ≠ none) :
    ∃ t, registry.resolve oid modifier dimensions = .ok t := by
  rw [resolve_eq (exists_row_of_get? h).1]
  refine exists_eq_ok fun e herror => ?_
  rcases resolveWith_eq_error herror with hnone | ⟨ws, row, hunwrap, hdefine⟩
  · exact hunwrap hnone
  obtain ⟨oid', -, hrow, huser⟩ := exists_wraps_of_unwrapWith hunwrap
  by_cases hregistered : row.isRegistered = true
  · have hmem := hindexed.mem_registered_iff.2 ⟨hindexed.row?_oid hrow, hregistered⟩
    obtain ⟨t, ht⟩ := exists_define_of_ofRows h hmem
    rw [ht] at hdefine
    cases hdefine
  · -- the row type of a table or view, which is expanded without a look at other rows
    have hrelation : row.kind = "c" ∧ row.isRelationRow = true := by
      simpa [TypeRow.isRegistered, huser] using hregistered
    have ht : rows.define row = .ok _ :=
      expand_succ_eq_ok_iff.2 ⟨by simp, .relation hrelation.1 hrelation.2⟩
    rw [ht] at hdefine
    cases hdefine

/-- Once a registry is built, only what cannot be unwrapped has no type. -/
theorem eq_endless_of_resolve (hindexed : rows.Indexed) {registry : Registry}
    (h : ofRows rows = .ok registry) {oid : Oid} {modifier dimensions : Int} {e : ResolutionError}
    (he : registry.resolve oid modifier dimensions = .error e) : e = .endless := by
  by_cases hunwrap : rows.unwrap oid modifier dimensions = none
  · rw [resolve_eq (exists_row_of_get? h).1, TypeRows.resolve, resolveWith, hunwrap] at he
    cases he
    rfl
  · obtain ⟨t, ht⟩ := exists_resolve_of_ofRows hindexed h hunwrap
    rw [ht] at he
    cases he

theorem exists_cycle_of_ofRows_eq_error (hwraps : ∀ oid, ¬ TransGen (Wraps rows) oid oid)
    (hindexed : rows.Indexed) {e : ResolutionError} (h : ofRows rows = .error e) :
    ∃ first middle, IsCycle rows first middle ∧
      e = .cycle ((first :: middle ++ [first]).map (·.qualifiedName.text)) := by
  obtain ⟨row, hrow, hdefine⟩ := exists_define_of_ofRows_eq_error h
  obtain ⟨hrow, hregistered⟩ := hindexed.mem_registered_iff.1 hrow
  have huser : row.isUserDefined = true := (Bool.and_eq_true_iff.1 hregistered).1
  exact exists_cycle_of_expand hwraps hindexed (.start hrow) huser (by simp) hdefine

/-- All definitions are expanded while a registry is built, so one that refers to itself stops
it. -/
theorem ofRows_ne_ok_of_refers (hindexed : rows.Indexed) {row : TypeRow}
    (hrow : rows.row? row.oid = some row) (hregistered : row.isRegistered = true)
    (hrefers : TransGen rows.Refers row.oid row.oid) (registry : Registry) :
    ofRows rows ≠ .ok registry := by
  intro h
  have huser : row.isUserDefined = true := (Bool.and_eq_true_iff.1 hregistered).1
  have hlinks := (refers_self_iff hindexed hrow huser).1 hrefers
  obtain ⟨t, ht⟩ := exists_define_of_ofRows h (hindexed.mem_registered_iff.2 ⟨hrow, hregistered⟩)
  exact expand_ne_ok_of_cycle hrow hlinks _ _ t ht

/-- Building a registry detects exactly the definitions that refer to themselves, provided that
arrays and ranges alone make no cycle. -/
theorem ofRows_detectsCycles {types : List TypeRow} {labels : List LabelRow}
    {attributes : List AttributeRow} (hoids : (types.map TypeRow.oid).Nodup)
    (hcycles : (TypeRows.ofRows types labels attributes).CyclesPassDefinitions) :
    DetectsCycles types (TypeRows.ofRows types labels attributes) := by
  have hindexed := indexed_ofRows types labels attributes
  have hwraps := cyclesPassDefinitions_iff.1 hcycles
  have hmember : ∀ {first middle}, IsCycle (TypeRows.ofRows types labels attributes) first middle →
      ∀ row ∈ first :: middle, row ∈ types ∧ row.isRegistered = true := by
    intro first middle hcycle row hrow
    exact ⟨((row?_ofRows_eq_some_iff hoids).1 (hcycle.known row hrow)).1,
      isRegistered_of_kind (hcycle.kind hrow)⟩
  constructor
  case terminates =>
    intro hendless
    obtain ⟨first, middle, -, he⟩ := exists_cycle_of_ofRows_eq_error hwraps hindexed hendless
    cases he
  case fails_iff =>
    constructor
    · rintro ⟨names, hnames⟩
      obtain ⟨first, middle, hcycle, -⟩ := exists_cycle_of_ofRows_eq_error hwraps hindexed hnames
      have hfirst : first ∈ first :: middle := List.mem_cons_self
      have hknown := hcycle.known first hfirst
      have huser : first.isUserDefined = true := isUserDefined_of_kind (hcycle.kind hfirst)
      obtain ⟨hmem, hregistered⟩ := hmember hcycle first hfirst
      refine ⟨first, hmem, hregistered, (hcycle.kind hfirst).imp_right And.left, ?_⟩
      exact (refers_self_iff hindexed hknown huser).2 (hcycle.transGen_links hfirst)
    · rintro ⟨row, hmem, hregistered, -, hrefers⟩
      have hrow : (TypeRows.ofRows types labels attributes).row? row.oid = some row :=
        (row?_ofRows_eq_some_iff hoids).2 ⟨hmem, rfl⟩
      cases hbuilt : ofRows (TypeRows.ofRows types labels attributes) with
      | error e =>
        obtain ⟨first, middle, -, rfl⟩ := exists_cycle_of_ofRows_eq_error hwraps hindexed hbuilt
        exact ⟨_, rfl⟩
      | ok registry =>
        exact absurd hbuilt (ofRows_ne_ok_of_refers hindexed hrow hregistered hrefers registry)
  case reported =>
    intro names hnames
    obtain ⟨first, middle, hcycle, he⟩ := exists_cycle_of_ofRows_eq_error hwraps hindexed hnames
    cases he
    exact ⟨first, middle, rfl, hcycle.linked, hmember hcycle⟩
  case resolves =>
    intro registry hbuilt oid modifier dimensions
    exact exists_resolve_of_ofRows hindexed hbuilt (unwrap_ne_none hwraps oid modifier dimensions)

/-- A composite with an array of itself, and a domain over a range beside it. -/
def nodeTypes : List TypeRow :=
  [⟨1, "public", "node", "c", "C", 0, 0, -1, false, 0, none, none⟩,
    ⟨2, "public", "_node", "b", "A", 1, 0, -1, false, 0, none, none⟩,
    ⟨3, "pg_catalog", "int4", "b", "N", 0, 0, -1, false, 0, none, none⟩,
    ⟨4, "pg_catalog", "int4range", "r", "R", 0, 0, -1, false, 0, none, some 3⟩,
    ⟨5, "public", "span", "d", "R", 0, 4, -1, true, 0, none, none⟩]

def nodeRows : TypeRows :=
  .ofRows nodeTypes [] [⟨1, "value", 1, 3, -1, 0, false⟩, ⟨1, "children", 2, 2, -1, 1, false⟩]

theorem nodeRows_cyclesPassDefinitions : nodeRows.CyclesPassDefinitions := by
  refine cyclesPassDefinitions_of_rank (fun oid => if oid = 2 ∨ oid = 4 then 1 else 0) ?_
  intro a b hwraps
  obtain ⟨row, hrow⟩ := hwraps.exists_row
  obtain ⟨hmem, rfl⟩ := (row?_ofRows_eq_some_iff (by decide)).1 hrow
  rw [wraps_iff hrow] at hwraps
  simp only [nodeTypes, List.mem_cons, List.not_mem_nil, or_false] at hmem
  rcases hmem with rfl | rfl | rfl | rfl | rfl
  · simp [TypeRow.isArray] at hwraps
  · obtain rfl : b = 1 := by simpa [TypeRow.isArray] using hwraps
    decide
  · simp [TypeRow.isArray] at hwraps
  · obtain rfl : 3 = b := by simpa [TypeRow.isArray] using hwraps
    decide
  · simp [TypeRow.isArray] at hwraps

theorem nodeRows_detectsCycles :
    (nodeTypes.map TypeRow.oid).Nodup ∧ nodeRows.CyclesPassDefinitions ∧
      DetectsCycles nodeTypes nodeRows :=
  ⟨by decide, nodeRows_cyclesPassDefinitions,
    ofRows_detectsCycles (by decide) nodeRows_cyclesPassDefinitions⟩

example : ofRows nodeRows = .error (.cycle ["public.node", "public.node"]) := by rfl

end Registry

end SchemaStructs.Catalog
