import SchemaStructs.Proofs.Generate.Plan
import SchemaStructs.Proofs.Mapping.Fallbacks

/-!
# One warning for each fallback

A column warns when its field is built, an attribute of a composite when the declaration of the
composite is met for the first time. What was warned of at any time is therefore, in some order, the
columns gone through and the attributes of the declarations met, and a declaration that is met again
adds nothing.
-/

namespace SchemaStructs.Generate

open Catalog Mapping

variable {registry : Registry}

/-! ## Sites -/

/-- The warning for a member of a table or composite if its type falls back to text: it has the
place, and the raw name and the reason of what fell back. -/
def siteWarning? (registry : Registry) (owner member : String) (type : TypeRef) : Option Warning :=
  (fallback? registry type).map fun u =>
    { location := owner ++ "." ++ member
      rawType := u.rawName
      reason := u.reason }

/-- A warning for each column that falls back to text. -/
def columnWarnings (registry : Registry) (table : Table) : List Warning :=
  table.columns.filterMap fun column =>
    siteWarning? registry table.name.name column.name column.type

/-- A warning for each attribute of a registered composite that falls back to text. -/
def attributeWarnings (registry : Registry) (name : QualifiedName) : List Warning :=
  match registry.get? name with
  | some (.composite _ fields) =>
    fields.filterMap fun field => siteWarning? registry name.name field.name field.type
  | _ => []

/-- What a declaration warns of when it is met. -/
def declarationWarnings (d : Declaration) : List Warning :=
  d.unsupported.map fun u => .ofType d.name.name u.1 u.2

theorem unsupported_of_mapNullable {type : TypeRef} {isNullable : Bool} {m : Mapped}
    (h : mapNullable registry type isNullable = .ok m) :
    m.unsupported = (fallback? registry type).toList := by
  obtain ⟨m', hm', rfl⟩ := map_eq_ok_iff.1 h
  rw [← unsupported_of_mapType hm']
  cases isNullable <;> rfl

theorem map_ofType_of_mapNullable {type : TypeRef} {isNullable : Bool} {m : Mapped}
    (h : mapNullable registry type isNullable = .ok m) (owner member : String) :
    m.unsupported.map (Warning.ofType owner member) =
      (siteWarning? registry owner member type).toList := by
  rw [unsupported_of_mapNullable h, siteWarning?, Option.toList_map]
  rfl

/-- The mapped fields of a record report the attributes that fall back. -/
theorem map_ofType_of_mapsField (owner : String) {source : List (Attribute TypeRef)}
    {mapped : List (String × Mapped)} (h : List.Forall₂ (MapsField registry) source mapped) :
    (mapped.flatMap fun m => m.2.unsupported.map (Warning.ofType owner m.1)) =
      source.filterMap fun field => siteWarning? registry owner field.name field.type := by
  induction h with
  | nil => rfl
  | @cons field m source mapped hfield _ ih =>
    rw [List.flatMap_cons, ih, map_ofType_of_mapNullable hfield.2, hfield.1, List.filterMap_cons]
    cases siteWarning? registry owner field.name field.type <;> rfl

/-- A declaration warns of the attributes of its composite. -/
theorem declarationWarnings_eq {d : Declaration} (hd : Declares registry d) :
    declarationWarnings d = attributeWarnings registry d.name := by
  cases hd with
  | enum hget =>
    rw [attributeWarnings, hget]
    rfl
  | @composite name name' source mapped hget hmaps =>
    have hattributes : attributeWarnings registry name =
        source.filterMap fun field => siteWarning? registry name.name field.name field.type := by
      rw [attributeWarnings, hget]
    show List.map _ (mapped.flatMap fun m => m.2.unsupported.map (m.1, ·)) =
      attributeWarnings registry name
    rw [hattributes, ← map_ofType_of_mapsField name.name hmaps]
    simp only [List.map_flatMap, List.map_map]
    rfl

/-! ## Warnings of a draft -/

/-- A draft has warned of the sites gone through and of each declaration it holds, once. -/
def Draft.WarnedOf (draft : Draft) (sites : List Warning) : Prop :=
  draft.warnings.Perm (sites ++ draft.declarations.flatMap fun e => declarationWarnings e.2)

namespace Draft.WarnedOf

variable {table : Table} {draft draft' : Draft} {sites : List Warning}

theorem empty : WarnedOf {} [] := List.Perm.nil

theorem warn (h : draft.WarnedOf sites) (warnings : List Warning) :
    (draft.warn warnings).WarnedOf (sites ++ warnings) := by
  refine (h.append_right warnings).trans ?_
  rw [List.append_assoc, List.append_assoc]
  exact List.perm_append_comm.append_left sites

/-- Only what is new is warned of. -/
theorem need (h : draft.WarnedOf sites) (d : Declaration) : (draft.need d).WarnedOf sites := by
  unfold Draft.need
  split
  · exact h
  · rename_i hhas
    have hnot : d.name ∉ draft.declarations.keys :=
      fun hmem => hhas (Entries.has_eq_true_iff.2 hmem)
    rw [WarnedOf, Entries.put_of_not_mem hnot, List.flatMap_append, List.flatMap_singleton,
      ← List.append_assoc]
    exact h.append_right _

theorem foldl_need (ds : List Declaration) (h : draft.WarnedOf sites) :
    (ds.foldl Draft.need draft).WarnedOf sites := by
  induction ds generalizing draft with
  | nil => exact h
  | cons d rest ih => exact ih (h.need d)

theorem of_buildField {column : Column} {f : Field} {names : List QualifiedName}
    (h : draft.WarnedOf sites)
    (hfield : buildField registry table draft column = .ok (draft', f, names)) :
    draft'.WarnedOf
      (sites ++ (siteWarning? registry table.name.name column.name column.type).toList) := by
  obtain ⟨m, -, hm, -, rfl, -, -⟩ := buildField_eq_ok_iff.1 hfield
  rw [map_ofType_of_mapNullable hm]
  exact (h.warn _).foldl_need m.declarations

theorem of_buildFields {columns : List Column} {fields : List Field} {names : List QualifiedName}
    (h : draft.WarnedOf sites)
    (hfields : buildFields registry table draft columns = .ok (draft', fields, names)) :
    draft'.WarnedOf (sites ++
      columns.filterMap fun c => siteWarning? registry table.name.name c.name c.type) := by
  induction columns generalizing draft sites fields names with
  | nil =>
    cases hfields
    simpa using h
  | cons column rest ih =>
    obtain ⟨⟨draft₁, f, names₁⟩, hfield, hfields⟩ := bind_eq_ok_iff.1 hfields
    obtain ⟨⟨draft₂, fields₂, names₂⟩, hrest, hfields⟩ := bind_eq_ok_iff.1 hfields
    cases pure_eq_ok_iff.1 hfields
    have hsites := ih (h.of_buildField hfield) hrest
    rw [List.append_assoc] at hsites
    rw [List.filterMap_cons]
    cases hsite : siteWarning? registry table.name.name column.name column.type <;>
      simpa [hsite] using hsites

theorem of_buildStruct {identifier : String} {s : Struct} (h : draft.WarnedOf sites)
    (hstruct : buildStruct registry draft table identifier = .ok (draft', s)) :
    draft'.WarnedOf (sites ++ columnWarnings registry table) := by
  obtain ⟨⟨draft₁, fields, names⟩, hfields, hstruct⟩ := bind_eq_ok_iff.1 hstruct
  obtain ⟨-, -, hstruct⟩ := bind_eq_ok_iff.1 hstruct
  cases pure_eq_ok_iff.1 hstruct
  exact h.of_buildFields hfields

theorem of_buildStructs {identifiers : Entries String String} {tables : List Table}
    {structs : List Struct} (h : draft.WarnedOf sites)
    (hstructs : buildStructs registry identifiers draft tables = .ok (draft', structs)) :
    draft'.WarnedOf (sites ++ tables.flatMap (columnWarnings registry)) := by
  induction tables generalizing draft sites structs with
  | nil =>
    cases hstructs
    simpa using h
  | cons table rest ih =>
    obtain ⟨identifier, -, hstructs⟩ := bind_eq_ok_iff.1 hstructs
    obtain ⟨⟨draft₁, s⟩, hstruct, hstructs⟩ := bind_eq_ok_iff.1 hstructs
    obtain ⟨⟨draft₂, structs₂⟩, hrest, hstructs⟩ := bind_eq_ok_iff.1 hstructs
    cases pure_eq_ok_iff.1 hstructs
    rw [List.flatMap_cons, ← List.append_assoc]
    exact ih (h.of_buildStruct hstruct) hrest

end Draft.WarnedOf

/-! ## Warnings of a plan -/

/-- What declarations warn of, by their names. -/
theorem Draft.Holds.flatMap_declarationWarnings {draft : Draft} {needed : QualifiedName → Prop}
    (h : draft.Holds registry needed) :
    (draft.declarations.flatMap fun e => declarationWarnings e.2) =
      draft.declarations.keys.flatMap (attributeWarnings registry) := by
  rw [Entries.keys, List.flatMap_map]
  refine List.flatMap_congr fun e he => ?_
  obtain ⟨hname, hd⟩ := h.declares e he
  rw [declarationWarnings_eq hd, hname]

/-- Only composites have attributes. -/
theorem flatMap_attributeWarnings (names : List QualifiedName) :
    names.flatMap (attributeWarnings registry) =
      (names.filter fun n => (registry.get? n).any (·.isComposite)).flatMap
        (attributeWarnings registry) := by
  induction names with
  | nil => rfl
  | cons n rest ih =>
    rw [List.flatMap_cons, ih, List.filter_cons]
    split
    · rw [List.flatMap_cons]
    · rename_i hn
      have hnil : attributeWarnings registry n = [] := by
        unfold attributeWarnings
        split
        · rename_i hget
          exact absurd (by rw [hget]; rfl) hn
        · rfl
      rw [hnil, List.nil_append]

/-- Some struct of a plan needs a declaration if some included table does. -/
theorem Plan.Built.exists_needs_iff {snapshot : Snapshot} {singular : Bool} {excluded : List String}
    {plan : Plan} (h : plan.Built snapshot singular excluded) (n : QualifiedName) :
    (∃ s ∈ plan.structs, n ∈ s.declarations) ↔
      ∃ t ∈ includedTables snapshot.tables excluded, Needs snapshot.types t n := by
  constructor
  · rintro ⟨s, hs, hn⟩
    obtain ⟨t, ht, hts⟩ := h.exists_table hs
    exact ⟨t, ht, (hts.declarations n).1 hn⟩
  · rintro ⟨t, ht, hn⟩
    obtain ⟨s, hs, hts⟩ := exists_right_of_mem h.structOf ht
    exact ⟨s, hs, (hts.declarations n).2 hn⟩

/-- **One warning for each fallback**: the warnings are one for each column of an included table
that falls back to text and one for each such attribute of each composite that the included tables
need, where each composite counts once however often it is needed. -/
theorem generate_warnings_perm {snapshot : Snapshot} {options : Options} {artifacts : Artifacts}
    (h : generate snapshot options = .ok artifacts) :
    ∃ composites : List QualifiedName, composites.Nodup ∧
      (∀ n, n ∈ composites ↔ (snapshot.types.get? n).any (·.isComposite) = true ∧
        ∃ t ∈ includedTables snapshot.tables options.excluded, Needs snapshot.types t n) ∧
      artifacts.warnings.Perm
        ((includedTables snapshot.tables options.excluded).flatMap
          (columnWarnings snapshot.types) ++
          composites.flatMap (attributeWarnings snapshot.types)) := by
  obtain ⟨plan, hplan, -, -, hwarnings⟩ := generate_eq_ok_iff.1 h
  have hbuilt := built_of_planOf hplan
  have hwarned := Draft.WarnedOf.empty.of_buildStructs (planOf_eq_ok_iff.1 hplan).structs
  rw [Draft.WarnedOf, List.nil_append, hbuilt.declarations.flatMap_declarationWarnings,
    flatMap_attributeWarnings, ← hwarnings] at hwarned
  refine ⟨_, hbuilt.declarations.nodup.filter _, fun n => ?_, hwarned⟩
  rw [List.mem_filter, hbuilt.declarations.keys, hbuilt.exists_needs_iff, and_comm]

/-- Two tables need the address, one of them through the person, whose domain over an array of it
needs it too; the excluded table warns of nothing. -/
def patchyTypes : Snapshot where
  tables := [
    { name := ⟨"public", "users"⟩
      columns := [
        { name := "owner", type := .array (.composite ⟨"public", "person"⟩ []) 1 },
        { name := "shape", type := .range (.scalar { kind := "geometry" }) "shapes" }] },
    { name := ⟨"public", "sites"⟩
      columns := [
        { name := "place", type := .composite ⟨"public", "address"⟩ [] },
        { name := "mood", type := .enum ⟨"public", "mood"⟩ ["ok"] }] },
    { name := ⟨"public", "dropped"⟩
      columns := [{ name := "raw", type := .unrecognized { rawName := "pg_node_tree" } }] }]
  types := {
    entries := [
      (⟨"public", "address"⟩, .composite ⟨"public", "address"⟩
        [⟨"street", .scalar { kind := "text" }, true⟩,
          ⟨"area", .scalar { kind := "geometry" }, true⟩]),
      (⟨"public", "person"⟩, .composite ⟨"public", "person"⟩
        [⟨"homes",
            .domain ⟨"public", "homes"⟩ (.array (.composite ⟨"public", "address"⟩ []) 1) false,
              true⟩,
          ⟨"notes", .array (.unrecognized { rawName := "pg_node_tree" }) 2, false⟩])] }

/-- What `patchyTypes` warns of if the table `dropped` is excluded. -/
def patchyWarnings : List Warning := [
  ⟨"address.area", "geometry", "no Rust mapping for this type"⟩,
  ⟨"sites.mood", "public.mood", "enum not found in catalog"⟩,
  ⟨"person.notes", "pg_node_tree", "unrecognized type"⟩,
  ⟨"users.shape", "geometry", "no Rust mapping for this type"⟩]

theorem patchyTypes_warnings :
    ∃ (artifacts : Artifacts) (composites : List QualifiedName),
      generate patchyTypes { excluded := ["dropped"] } = .ok artifacts ∧
      artifacts.warnings = patchyWarnings ∧ composites.Nodup ∧
      ⟨"public", "address"⟩ ∈ composites ∧ patchyWarnings.Perm
        ((includedTables patchyTypes.tables ["dropped"]).flatMap
            (columnWarnings patchyTypes.types) ++
          composites.flatMap (attributeWarnings patchyTypes.types)) := by
  obtain ⟨artifacts, h, hwarned⟩ : ∃ artifacts,
      generate patchyTypes { excluded := ["dropped"] } = .ok artifacts ∧
        artifacts.warnings = patchyWarnings :=
    map_eq_ok_iff.1 (by decide +kernel)
  obtain ⟨composites, hnodup, hmem, hperm⟩ := generate_warnings_perm h
  have haddress : Needs patchyTypes.types patchyTypes.tables[1] ⟨"public", "address"⟩ :=
    ⟨_, List.mem_cons_self, .composite rfl⟩
  refine ⟨artifacts, composites, h, hwarned, hnodup, (hmem _).2 ⟨rfl, _, ?_, haddress⟩,
    hwarned ▸ hperm⟩
  exact mem_includedTables.2 ⟨by simp [patchyTypes], by decide +kernel⟩

end SchemaStructs.Generate
