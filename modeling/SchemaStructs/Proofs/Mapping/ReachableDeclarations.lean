import SchemaStructs.Proofs.Mapping.Termination

/-!
# Declarations are what a type reaches

Mapping a type collects whole declarations on the way, at any depth. The registry decides what a
name is declared as, so no name is declared in two ways: each name that the type reaches is declared
once, and nothing else is. A type is mapped unless a value of another sort is met on the way.
-/

namespace SchemaStructs

open Catalog Mapping Relation Rust

namespace Mapping

variable {registry : Registry}

/-! ## What stops a mapping -/

/-- To map `t`, `u` is mapped, after any number of steps. -/
def Visits (registry : Registry) : TypeRef → TypeRef → Prop := ReflTransGen (LeadsTo registry)

/-- A mapping that a value of another sort stops has come to that value, if this holds for
composites. -/
theorem visits_of_mapWith {f : QualifiedName → Except MappingError Mapped} {sort : String}
    (hf : ∀ name fields, f name = .error (.notAType sort) →
      Visits registry (.composite name fields) (.foreign sort)) {t : TypeRef}
    (h : mapWith registry f t = .error (.notAType sort)) : Visits registry t (.foreign sort) := by
  fun_induction mapWith registry f t with
  | case1 s => cases h
  | case2 element dimension ih => exact .head .array (ih (map_eq_error_iff.1 h))
  | case3 name labels => cases h
  | case4 name fields => exact hf name fields h
  | case5 subtype rangeName ih => exact .head .range (ih (map_eq_error_iff.1 h))
  | case6 name underlying notNull ih => exact .head .domain (ih h)
  | case7 u => cases h
  | case8 sort' =>
    cases h
    exact .refl

theorem visits_of_mapComposite {steps : Nat} {name : QualifiedName} {sort : String}
    (h : mapComposite registry steps name = .error (.notAType sort))
    (fields : List (Attribute TypeRef)) :
    Visits registry (.composite name fields) (.foreign sort) := by
  induction steps generalizing name fields with
  | zero => cases h
  | succ steps ih =>
    obtain ⟨name', source, hget, field, hfield, herror⟩ := exists_field_of_mapComposite_eq_error h
    exact .head (.field hget hfield) (visits_of_mapWith (fun _ source h => ih h source) herror)

/-- What is mapped on the way to a mapped type is mapped itself. -/
theorem exists_mapType_of_leadsTo {t u : TypeRef} (hstep : LeadsTo registry t u)
    (h : ∃ m, mapType registry t = .ok m) : ∃ m, mapType registry u = .ok m := by
  obtain ⟨m, hm⟩ := h
  cases hstep with
  | array =>
    obtain ⟨m', hm', -⟩ := map_eq_ok_iff.1 hm
    exact ⟨m', hm'⟩
  | range =>
    obtain ⟨m', hm', -⟩ := map_eq_ok_iff.1 hm
    exact ⟨m', hm'⟩
  | domain => exact ⟨m, hm⟩
  | field hget hfield =>
    rcases mapComposite_succ_eq_ok_iff.1 hm with ⟨_, source, mapped, hget', hmapped, -⟩ | ⟨hnone, -⟩
    · rw [hget] at hget'
      cases hget'
      obtain ⟨n, -, hn⟩ := exists_right_of_mem hmapped hfield
      obtain ⟨m', hm', -⟩ := bind_eq_ok_iff.1 hn
      exact ⟨m', mapWith_mono (fun _ _ => mapComposite_mono (Nat.le_succ _)) hm'⟩
    · exact absurd hget (hnone _ _)

theorem exists_mapType_of_visits {t u : TypeRef} (hvisits : Visits registry t u)
    (h : ∃ m, mapType registry t = .ok m) : ∃ m, mapType registry u = .ok m := by
  induction hvisits with
  | refl => exact h
  | tail _ hstep ih => exact exists_mapType_of_leadsTo hstep ih

/-- A type is mapped unless it leads to a value of another sort. -/
theorem exists_mapType_iff (h : registry.Made) (t : TypeRef) :
    (∃ m, mapType registry t = .ok m) ↔ ∀ sort, ¬ Visits registry t (.foreign sort) := by
  constructor
  · intro ht sort hvisits
    obtain ⟨m, hm⟩ := exists_mapType_of_visits hvisits ht
    cases hm
  · intro hvisits
    refine exists_eq_ok fun e he => ?_
    cases e with
    | notAType sort =>
      exact hvisits sort (visits_of_mapWith (fun _ fields h => visits_of_mapComposite h fields) he)
    | endless => exact mapType_ne_endless h t he

/-! ## What is collected -/

/-- Mapping `t` collects `d`: a definition that is met on the way, declared with its mapped
fields. -/
inductive Collects (registry : Registry) : TypeRef → Declaration → Prop
  | array {element : TypeRef} {dimension : Nat} {d : Declaration} :
      Collects registry element d → Collects registry (.array element dimension) d
  | range {subtype : TypeRef} {rangeName : String} {d : Declaration} :
      Collects registry subtype d → Collects registry (.range subtype rangeName) d
  | domain {name : QualifiedName} {underlying : TypeRef} {notNull : Bool} {d : Declaration} :
      Collects registry underlying d → Collects registry (.domain name underlying notNull) d
  | enum {name name' : QualifiedName} {labels labels' : List String} :
      registry.get? name = some (.enum name' labels') →
      Collects registry (.enum name labels) ⟨name, Identifier.typeName name.name, .enum labels'⟩
  | composite {name name' : QualifiedName} {fields source : List (Attribute TypeRef)}
      {mapped : List (String × Mapped)} :
      registry.get? name = some (.composite name' source) →
      List.Forall₂ (MapsField registry) source mapped →
      Collects registry (.composite name fields) (recordDeclaration name source mapped)
  | field {name name' : QualifiedName} {fields source : List (Attribute TypeRef)}
      {field : Attribute TypeRef} {d : Declaration} :
      registry.get? name = some (.composite name' source) → field ∈ source →
      Collects registry field.type d → Collects registry (.composite name fields) d

/-- What is collected is what the registry says of the names that are reached. -/
theorem collects_iff {t : TypeRef} {d : Declaration} :
    Collects registry t d ↔ registry.Reaches t d.name ∧ Declares registry d := by
  constructor
  · intro h
    induction h with
    | array _ ih => exact ih.imp_left .array
    | range _ ih => exact ih.imp_left .range
    | domain _ ih => exact ih.imp_left .domain
    | enum hget => exact ⟨.enum hget, .enum hget⟩
    | composite hget hmaps => exact ⟨.composite hget, .composite hget hmaps⟩
    | field hget hfield _ ih => exact ih.imp_left (.field hget hfield)
  · rintro ⟨hreach, hdeclares⟩
    generalize hn : d.name = n at hreach
    induction hreach with
    | array _ ih => exact .array (ih hn)
    | range _ ih => exact .range (ih hn)
    | domain _ ih => exact .domain (ih hn)
    | enum hget =>
      obtain rfl := hdeclares.unique (.enum hget) hn
      exact .enum hget
    | composite hget =>
      subst hn
      cases hdeclares with
      | enum hget' =>
        rw [hget] at hget'
        cases hget'
      | composite hget' hmaps => exact .composite hget' hmaps
    | field hget hfield _ ih => exact .field hget hfield (ih hn)

/-! ## Dependencies -/

/-- The declarations of a mapped field are what the type of its attribute reaches. -/
theorem MapsField.mem_names_iff {field : Attribute TypeRef} {m : String × Mapped}
    (h : MapsField registry field m) {n : QualifiedName} :
    n ∈ m.2.declarations.map Declaration.name ↔ registry.Reaches field.type n := by
  obtain ⟨m', -, hsound, heq⟩ := exists_sound_of_mapNullable h.2
  rw [heq, declarations_nullable]
  exact hsound.names n

/-- The dependencies of a declaration are what the parts of its definition reach. -/
theorem Declares.mem_dependencies_iff {d : Declaration} (hd : Declares registry d)
    {n : QualifiedName} : n ∈ d.dependencies ↔ ∃ u ∈ d.source.parts, registry.Reaches u n := by
  cases hd with
  | enum hget => simp [Declaration.dependencies, Declaration.source, TypeRef.parts]
  | composite hget hmaps =>
    refine mem_names_neededBy.trans ⟨?_, ?_⟩
    · rintro ⟨m, hm, hn⟩
      obtain ⟨field, hfield, hmap⟩ := exists_left_of_mem hmaps hm
      exact ⟨field.type, List.mem_map_of_mem hfield, hmap.mem_names_iff.1 hn⟩
    · rintro ⟨u, hu, hn⟩
      obtain ⟨field, hfield, rfl⟩ := List.mem_map.1 hu
      obtain ⟨m, hm, hmap⟩ := exists_right_of_mem hmaps hfield
      exact ⟨m, hm, hmap.mem_names_iff.2 hn⟩

theorem Declares.nodup_dependencies {d : Declaration} (hd : Declares registry d) :
    d.dependencies.Nodup := by
  cases hd with
  | enum hget => exact List.nodup_nil
  | composite hget hmaps => exact (ordered_neededBy _).nodup_names

/-- The registered definition, with nothing left out of it. -/
theorem Declares.get?_eq (h : registry.Made) {d : Declaration} (hd : Declares registry d) :
    registry.get? d.name = some d.source := by
  cases hd with
  | enum hget =>
    obtain rfl := Option.some.inj (h.registeredName?_of_get? hget)
    exact hget
  | composite hget hmaps =>
    obtain rfl := Option.some.inj (h.registeredName?_of_get? hget)
    exact hget

/-! ## The declarations of a mapped type -/

/-- The generated types that a type expression names are declared, if its nodes need only `ds`. -/
theorem mem_names_of_grounded {ds : List Declaration} {t : TypeExpr}
    (h : ∀ u ∈ t.nodes, Grounded ds u) {n : QualifiedName} (hn : n ∈ t.declarations) :
    n ∈ ds.map Declaration.name := by
  obtain ⟨u, hu, hdeclaration⟩ := TypeExpr.mem_declared_iff.1 (mem_sortedSet.1 hn)
  cases h u hu with
  | builtin _ hnone _ => rw [hnone] at hdeclaration; cases hdeclaration
  | crate _ _ hnone _ => rw [hnone] at hdeclaration; cases hdeclaration
  | generated hd _ hsome _ =>
    obtain rfl := Option.some.inj (hsome.symm.trans hdeclaration)
    exact List.mem_map_of_mem hd

/-- The generated types that a mapped field names are reached by the type of its attribute. -/
theorem MapsField.reaches {field : Attribute TypeRef} {m : String × Mapped}
    (h : MapsField registry field m) {n : QualifiedName} (hn : n ∈ m.2.type.declarations) :
    registry.Reaches field.type n := by
  obtain ⟨m', -, hsound, heq⟩ := exists_sound_of_mapNullable h.2
  rw [heq] at hn
  exact (hsound.names n).1 (mem_names_of_grounded (hsound.nullable _) hn)

/-- The declarations of `m` are what `t` reaches, as the registry has it, and what they or the
mapped type refer to is among them. -/
structure Mapped.Exact (registry : Registry) (t : TypeRef) (m : Mapped) : Prop where
  collects : ∀ d, d ∈ m.declarations ↔ Collects registry t d
  /-- One declaration for each name that the type reaches, and no other. -/
  nodup_names : (m.declarations.map Declaration.name).Nodup
  mem_names_iff : ∀ n, n ∈ m.declarations.map Declaration.name ↔ registry.Reaches t n
  registered : ∀ d ∈ m.declarations, registry.get? d.name = some d.source
  /-- Exactly the names that the registered fields of a composite reach. -/
  dependencies : ∀ d ∈ m.declarations, d.dependencies.Nodup ∧
    ∀ n, n ∈ d.dependencies ↔ ∃ u ∈ d.source.parts, registry.Reaches u n
  referred : ∀ n ∈ m.type.declarations, n ∈ m.declarations.map Declaration.name
  referredByFields : ∀ d ∈ m.declarations, ∀ f ∈ d.fields, ∀ n ∈ f.2.declarations,
    n ∈ d.dependencies ∧ n ∈ m.declarations.map Declaration.name

theorem exact_of_mapType (h : registry.Made) {t : TypeRef} {m : Mapped}
    (hm : mapType registry t = .ok m) : m.Exact registry t := by
  have hsound := sound_of_mapType hm
  constructor
  case collects =>
    intro d
    rw [collects_iff, ← hsound.names]
    constructor
    · exact fun hd => ⟨List.mem_map_of_mem hd, hsound.declares d hd⟩
    · rintro ⟨hname, hdeclares⟩
      obtain ⟨e, he, hname⟩ := List.mem_map.1 hname
      rwa [← (hsound.declares e he).unique hdeclares hname]
  case nodup_names => exact hsound.ordered.nodup_names
  case mem_names_iff => exact hsound.names
  case registered => exact fun d hd => (hsound.declares d hd).get?_eq h
  case dependencies =>
    exact fun d hd => ⟨(hsound.declares d hd).nodup_dependencies,
      fun n => (hsound.declares d hd).mem_dependencies_iff⟩
  case referred => exact fun n hn => mem_names_of_grounded hsound.grounded hn
  case referredByFields =>
    intro d hd f hf n hn
    have hdeclares := hsound.declares d hd
    obtain ⟨name', source, hget, field, hfield, mf, hmap, htype⟩ := hdeclares.exists_mapsField hf
    have hsource : d.source = .composite name' source := by
      rw [hdeclares.get?_eq h] at hget
      exact Option.some.inj hget
    have hreach : registry.Reaches field.type n := hmap.reaches (htype ▸ hn)
    have hpart : field.type ∈ d.source.parts := by
      rw [hsource]
      exact List.mem_map_of_mem hfield
    refine ⟨hdeclares.mem_dependencies_iff.2 ⟨_, hpart, hreach⟩, (hsound.names n).2 ?_⟩
    exact ((hsound.names d.name).1 (List.mem_map_of_mem hd)).trans_field hget hfield hreach

/-- **Declarations are exactly the reachable types**: a type is mapped unless a value of another
sort is met on the way, and then its declarations are what it reaches, each once, with what their
fields reach as their dependencies. -/
theorem mapType_declares_reachable (h : registry.Made) (t : TypeRef) :
    ((∃ m, mapType registry t = .ok m) ↔ ∀ sort, ¬ Visits registry t (.foreign sort)) ∧
      ∀ m, mapType registry t = .ok m → m.Exact registry t :=
  ⟨exists_mapType_iff h t, fun _ hm => exact_of_mapType h hm⟩

/-- An order of moods, to an address behind a domain. -/
def orderLine : TypeRef :=
  .composite ⟨"public", "order_line"⟩ [
    ⟨"moods", .array (.enum ⟨"public", "mood"⟩ ["sad", "happy"]) 1, true⟩,
    ⟨"ship_to", .domain ⟨"public", "home"⟩ (.composite ⟨"public", "address"⟩
      [⟨"city", .unrecognized ⟨"point", "no support"⟩, true⟩]) true, false⟩]

theorem orderLine_declares :
    (Registry.ofTypes [orderLine]).Made ∧ ∃ m, mapType (.ofTypes [orderLine]) orderLine = .ok m ∧
      m.declarations.map (fun d => (d.name.name, d.dependencies.map (·.name))) =
        [("address", []), ("mood", []), ("order_line", ["address", "mood"])] ∧
      m.Exact (.ofTypes [orderLine]) orderLine :=
  ⟨.ofTypes _, _, rfl, rfl, (mapType_declares_reachable (.ofTypes [orderLine]) orderLine).2 _ rfl⟩

end Mapping

end SchemaStructs
