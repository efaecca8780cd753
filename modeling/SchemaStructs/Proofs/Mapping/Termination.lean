import SchemaStructs.Proofs.Catalog.Registration
import SchemaStructs.Proofs.Mapping.Totality

/-!
# Mapping ends

A composite is mapped by the registered definition of its name, whatever the type at hand says of
its fields. This leaves the type that is mapped, so it ends for another reason than that types are
finite: each step into a definition goes to a name of lower rank. For rows the rank is the size of
the definition, for given types it is what was registered after the name.
-/

namespace SchemaStructs

open Catalog Mapping

namespace Catalog

open TypeRows

/-! ## Ranks of definitions -/

/-- If names are given once, a definition is larger than those inside it. -/
theorem Registry.exists_rank_of_ofRows {rows : TypeRows} {registry : Registry}
    (hindexed : rows.Indexed) (hnames : (rows.registered.map TypeRow.qualifiedName).Nodup)
    (h : Registry.ofRows rows = .ok registry) : ∃ rank, registry.RankedBy rank := by
  refine ⟨fun name => (registry.get? name).elim 0 sizeOf, ?_⟩
  intro name name' fields hget field hfield n source hin
  obtain ⟨row, hrow, -, hdefine⟩ := (exists_row_of_get? h).2 _ _ hget
  obtain ⟨hrow, hregistered⟩ := hindexed.mem_registered_iff.1 hrow
  have huser : row.isUserDefined = true := by
    rw [TypeRow.isRegistered, Bool.and_eq_true] at hregistered
    exact hregistered.1
  have hpart : field.type ∈ (TypeRef.composite name' fields).parts := List.mem_map_of_mem hfield
  have hgetInner : registry.get? n = some (.composite n source) :=
    get?_of_contains hindexed hnames h (.defined hrow huser hdefine) (.part hpart hin) rfl
  simp only [hget, hgetInner, Option.elim_some]
  exact Nat.lt_of_le_of_lt hin.sizeOf_le (TypeRef.sizeOf_lt_of_mem_parts hpart)

/-- Registries of given types, whatever they are, and of rows whose registered names are given
once. -/
inductive Registry.Made : Registry → Prop
  | ofTypes (types : List TypeRef) : Made (.ofTypes types)
  | ofRows {types : List TypeRow} {labels : List LabelRow} {attributes : List AttributeRow}
      {registry : Registry} :
      ((TypeRows.ofRows types labels attributes).registered.map TypeRow.qualifiedName).Nodup →
      Registry.ofRows (.ofRows types labels attributes) = .ok registry → Made registry

theorem Registry.Made.exists_rank {registry : Registry} (h : registry.Made) :
    ∃ rank, registry.RankedBy rank := by
  cases h with
  | ofTypes types => exact ⟨_, rankedBy_registeredAfter types⟩
  | ofRows hnames hrows => exact exists_rank_of_ofRows (indexed_ofRows _ _ _) hnames hrows

/-- Types are registered under their own names. -/
theorem Registry.Made.registeredName?_of_get? {registry : Registry} (h : registry.Made)
    {n : QualifiedName} {t : TypeRef} (hget : registry.get? n = some t) :
    t.registeredName? = some n := by
  cases h with
  | ofTypes types => exact registeredName?_of_get?_ofTypes hget
  | ofRows _ hrows =>
    obtain ⟨row, hrow, rfl, hdefine⟩ := (exists_row_of_get? hrows).2 _ _ hget
    have hregistered := ((indexed_ofRows _ _ _).mem_registered_iff.1 hrow).2
    cases variantOf_of_define hregistered hdefine <;> rfl

end Catalog

namespace Mapping

variable {registry : Registry} {rank : QualifiedName → Nat}

/-! ## Steps of a mapping -/

/-- To map `t`, `u` is mapped: a part of it, or a field of the definition that its name is
registered for. -/
inductive LeadsTo (registry : Registry) : TypeRef → TypeRef → Prop
  | array {element : TypeRef} {dimension : Nat} :
    LeadsTo registry (.array element dimension) element
  | range {subtype : TypeRef} {name : String} : LeadsTo registry (.range subtype name) subtype
  | domain {name : QualifiedName} {underlying : TypeRef} {notNull : Bool} :
      LeadsTo registry (.domain name underlying notNull) underlying
  | field {name name' : QualifiedName} {fields fields' : List (Attribute TypeRef)}
      {field : Attribute TypeRef} : registry.get? name = some (.composite name' fields') →
        field ∈ fields' →
      LeadsTo registry (.composite name fields) field.type

/-- The steps from a type end if those from the composites in it do. -/
theorem acc_of_composites {t : TypeRef}
    (h : ∀ name fields, t.Contains (.composite name fields) →
      Acc (fun u t => LeadsTo registry t u) (.composite name fields)) :
    Acc (fun u t => LeadsTo registry t u) t := by
  induction t using TypeRef.induction_on_parts with
  | step t ih =>
    by_cases hcomposite : t.isComposite
    · cases t with
      | composite name fields => exact h name fields (TypeRef.contains_self _)
      | _ => cases hcomposite
    · refine ⟨t, fun u hu => ?_⟩
      have hpart : u ∈ t.parts := by
        cases hu with
        | array => exact List.mem_singleton_self _
        | range => exact List.mem_singleton_self _
        | domain => exact List.mem_singleton_self _
        | field _ _ => exact absurd rfl hcomposite
      exact ih u hpart fun name fields hin => h name fields (.part hpart hin)

/-- No steps go on for ever: those from a composite lead to composites of lower rank only. -/
theorem wellFounded_leadsTo (hrank : registry.RankedBy rank) :
    WellFounded (fun u t => LeadsTo registry t u) := by
  have hcomposite : ∀ r name fields, rank name = r →
      Acc (fun u t => LeadsTo registry t u) (.composite name fields) := by
    intro r
    induction r using Nat.strong_induction_on with
    | _ r ih =>
      rintro name fields rfl
      refine ⟨_, fun u hu => ?_⟩
      cases hu with
      | field hget hfield =>
        exact acc_of_composites fun n source hin =>
          ih _ (hrank _ _ _ hget _ hfield n source hin) n source rfl
  exact ⟨fun t => acc_of_composites fun name fields _ => hcomposite _ name fields rfl⟩

/-! ## Enough steps -/

/-- A type is mapped alike by two ways to map composites that agree on those in it. -/
theorem mapWith_congr {f g : QualifiedName → Except MappingError Mapped} {t : TypeRef}
    (h : ∀ name fields, t.Contains (.composite name fields) → g name = f name ∧
      f name ≠ .error .endless) :
    mapWith registry g t = mapWith registry f t ∧ mapWith registry f t ≠ .error .endless := by
  fun_induction mapWith registry f t with
  | case1 s => exact ⟨rfl, by simp⟩
  | case2 element dimension ih =>
    obtain ⟨heq, hne⟩ := ih fun name fields hin =>
      h name fields (.part (List.mem_singleton_self _) hin)
    rw [mapWith, heq]
    exact ⟨rfl, map_eq_error_iff.not.2 hne⟩
  | case3 name labels => exact ⟨rfl, by simp⟩
  | case4 name fields => exact h name fields (TypeRef.contains_self _)
  | case5 subtype rangeName ih =>
    obtain ⟨heq, hne⟩ := ih fun name fields hin =>
      h name fields (.part (List.mem_singleton_self _) hin)
    rw [mapWith, heq]
    exact ⟨rfl, map_eq_error_iff.not.2 hne⟩
  | case6 name underlying notNull ih =>
    exact ih fun name fields hin => h name fields (.part (List.mem_singleton_self _) hin)
  | case7 u => exact ⟨rfl, by simp⟩
  | case8 sort => exact ⟨rfl, by simp⟩

/-- The mapping of a composite fails with the mapping of a field of its definition. -/
theorem exists_field_of_mapComposite_eq_error {steps : Nat} {name : QualifiedName}
    {e : MappingError} (h : mapComposite registry (steps + 1) name = .error e) :
    ∃ name' fields, registry.get? name = some (.composite name' fields) ∧
      ∃ field ∈ fields, mapWith registry (mapComposite registry steps) field.type = .error e := by
  rw [mapComposite] at h
  split at h
  · rename_i name' fields hget
    rcases bind_eq_error_iff.1 h with h | ⟨mapped, -, h⟩
    · obtain ⟨field, hfield, herror⟩ := exists_of_mapM_eq_error h
      rcases bind_eq_error_iff.1 herror with herror | ⟨m, -, herror⟩
      · exact ⟨name', fields, hget, field, hfield, herror⟩
      · cases herror
    · cases h
  · cases h

/-- One step into a definition keeps what is known of the composites in its fields. -/
theorem mapComposite_succ_congr {steps steps' : Nat} {name : QualifiedName}
    (h : ∀ name' fields, registry.get? name = some (.composite name' fields) → ∀ field ∈ fields,
      ∀ n source, field.type.Contains (.composite n source) →
        mapComposite registry steps' n = mapComposite registry steps n ∧
          mapComposite registry steps n ≠ .error .endless) :
    mapComposite registry (steps' + 1) name = mapComposite registry (steps + 1) name ∧
      mapComposite registry (steps + 1) name ≠ .error .endless := by
  constructor
  · rw [mapComposite, mapComposite]
    split
    · rename_i name' fields hget
      refine congrArg (· >>= _) (mapM_congr_of_mem fun field hfield => ?_)
      rw [(mapWith_congr (h name' fields hget field hfield)).1]
    · rfl
  · intro herror
    obtain ⟨name', fields, hget, field, hfield, herror⟩ :=
      exists_field_of_mapComposite_eq_error herror
    exact (mapWith_congr (h name' fields hget field hfield)).2 herror

/-- A composite is mapped with as many steps as there are registered names, and alike with more.
`above` holds the names of the definitions around it, which have higher ranks. -/
theorem mapComposite_steps (hrank : registry.RankedBy rank) {steps steps' : Nat}
    {above : List QualifiedName} (hnodup : above.Nodup) {name : QualifiedName}
    (habove : ∀ n ∈ above, (∃ t, registry.get? n = some t) ∧ rank name < rank n)
    (hsteps : registry.size < steps + above.length)
    (hsteps' : registry.size < steps' + above.length) :
    mapComposite registry steps' name = mapComposite registry steps name ∧
      mapComposite registry steps name ≠ .error .endless := by
  induction steps generalizing steps' above name with
  | zero =>
    have hlength := Registry.length_le_size hnodup fun n hn => (habove n hn).1
    omega
  | succ steps ih =>
    have hlength := Registry.length_le_size hnodup fun n hn => (habove n hn).1
    obtain ⟨steps', rfl⟩ : ∃ k, steps' = k + 1 := ⟨steps' - 1, by omega⟩
    refine mapComposite_succ_congr fun name' fields hget field hfield n source hin => ?_
    have hlower := hrank name name' fields hget field hfield n source hin
    have hfresh : name ∉ above := fun hmem => Nat.lt_irrefl _ (habove name hmem).2
    refine ih (List.nodup_cons.2 ⟨hfresh, hnodup⟩) ?_ ?_ ?_
    · refine List.forall_mem_cons.2 ⟨⟨⟨_, hget⟩, hlower⟩, fun n' hn' => ?_⟩
      exact ⟨(habove n' hn').1, hlower.trans (habove n' hn').2⟩
    · simp only [List.length_cons]
      omega
    · simp only [List.length_cons]
      omega

/-- As many steps into definitions as there are registered names are enough for any type. -/
theorem mapType_steps (hrank : registry.RankedBy rank) (t : TypeRef) {steps : Nat}
    (hsteps : registry.size < steps) :
    mapWith registry (mapComposite registry steps) t = mapType registry t ∧
      mapType registry t ≠ .error .endless :=
  mapWith_congr fun _ _ _ =>
    mapComposite_steps hrank List.nodup_nil (by simp) (by simp) (by simpa using hsteps)

theorem mapType_ne_endless (h : registry.Made) (t : TypeRef) :
    mapType registry t ≠ .error .endless := by
  obtain ⟨rank, hrank⟩ := h.exists_rank
  exact (mapType_steps hrank t (Nat.lt_succ_self _)).2

/-- **Mapping ends**: in every registry no steps from a type go on for ever, and a type is mapped or
what is met on the way is no type. More steps into definitions than there are registered names give
nothing else. -/
theorem mapType_ends (h : registry.Made) :
    WellFounded (fun u t => LeadsTo registry t u) ∧ ∀ t : TypeRef,
      ((∃ m, mapType registry t = .ok m) ∨ ∃ sort, mapType registry t = .error (.notAType sort)) ∧
        ∀ steps, registry.size < steps →
          mapWith registry (mapComposite registry steps) t = mapType registry t := by
  obtain ⟨rank, hrank⟩ := h.exists_rank
  refine ⟨wellFounded_leadsTo hrank, fun t => ⟨?_, fun steps hlt => (mapType_steps hrank t hlt).1⟩⟩
  cases hresult : mapType registry t with
  | ok m => exact .inl ⟨m, rfl⟩
  | error e =>
    cases e with
    | notAType sort => exact .inr ⟨sort, rfl⟩
    | endless => exact absurd hresult (mapType_ne_endless h t)

/-- A node of nodes, one of which says that it has none. -/
def conflictingNode : TypeRef :=
  .composite ⟨"public", "node"⟩ [⟨"next", .array (.composite ⟨"public", "leaf"⟩
    [⟨"owner", .composite ⟨"public", "node"⟩ [], false⟩]) 1, false⟩]

/-- Of two definitions at different depths the inner one is registered, and to it the outer one is
mapped. -/
theorem conflictingNode_ends :
    (Registry.ofTypes [conflictingNode]).Made ∧
      (Registry.ofTypes [conflictingNode]).get? ⟨"public", "node"⟩ =
        some (.composite ⟨"public", "node"⟩ []) ∧
      ∃ m, mapType (.ofTypes [conflictingNode]) conflictingNode = .ok m ∧ m.type.render = "Node" ∧
        m.declarations.map (fun d => (d.name.text, d.fields.map Prod.fst)) =
          [("public.node", [])] := by
  refine ⟨.ofTypes _, rfl, ?_⟩
  have hmapped : (mapType (.ofTypes [conflictingNode]) conflictingNode).map (fun m =>
      (m.type.render, m.declarations.map fun d => (d.name.text, d.fields.map Prod.fst))) =
        .ok ("Node", [("public.node", [])]) := by
    decide +kernel
  rcases ((mapType_ends (.ofTypes [conflictingNode])).2 conflictingNode).1 with ⟨m, hm⟩ | ⟨sort, he⟩
  · rw [hm] at hmapped
    obtain ⟨hrender, hdeclarations⟩ := Prod.mk.inj (Except.ok.inj hmapped)
    exact ⟨m, hm, hrender, hdeclarations⟩
  · rw [he] at hmapped
    cases hmapped

end Mapping

end SchemaStructs
