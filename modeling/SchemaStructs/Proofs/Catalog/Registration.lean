import SchemaStructs.Proofs.Catalog.Agreement

/-!
# Registries of given types

A given type is registered before the types inside it. A name that occurs again takes the later
definition. So whatever stands inside the definition that a name has in the end was registered after
it, and names can be ranked by what was registered after them.
-/

namespace SchemaStructs.Catalog

/-! ## Order of registration -/

mutual

/-- The named types in a type, in the order in which they are registered. -/
def TypeRef.named : TypeRef → List (QualifiedName × TypeRef)
  | .enum name labels => [(name, .enum name labels)]
  | .composite name fields => (name, .composite name fields) :: TypeRef.namedInFields fields
  | .domain name underlying notNull =>
    (name, .domain name underlying notNull) :: TypeRef.named underlying
  | .array element _ => TypeRef.named element
  | .range subtype _ => TypeRef.named subtype
  | _ => []

def TypeRef.namedInFields : List (Attribute TypeRef) → List (QualifiedName × TypeRef)
  | [] => []
  | field :: rest => TypeRef.namedInFields rest ++ TypeRef.named field.type

end

/-- What holds of a type if it holds of its parts holds of every type. -/
@[elab_as_elim]
theorem TypeRef.induction_on_parts {motive : TypeRef → Prop}
    (step : ∀ t : TypeRef, (∀ u ∈ t.parts, motive u) → motive t) (t : TypeRef) : motive t :=
  @TypeRef.rec motive (fun fields => ∀ field ∈ fields, motive field.type)
    (fun field => motive field.type)
    (fun _ => step _ fun _ hu => absurd hu List.not_mem_nil)
    (fun _ _ ih => step _ (List.forall_mem_singleton.2 ih))
    (fun _ _ => step _ fun _ hu => absurd hu List.not_mem_nil)
    (fun _ _ ih => step _ (List.forall_mem_map.2 ih))
    (fun _ _ ih => step _ (List.forall_mem_singleton.2 ih))
    (fun _ _ _ ih => step _ (List.forall_mem_singleton.2 ih))
    (fun _ => step _ fun _ hu => absurd hu List.not_mem_nil)
    (fun _ => step _ fun _ hu => absurd hu List.not_mem_nil)
    (fun _ hfield => absurd hfield List.not_mem_nil)
    (fun _ _ hhead htail => List.forall_mem_cons.2 ⟨hhead, htail⟩)
    (fun _ _ _ ih => ih) t

theorem TypeRef.namedInFields_eq (fields : List (Attribute TypeRef)) :
    namedInFields fields = (fields.map (·.type)).reverse.flatMap named := by
  induction fields with
  | nil => rfl
  | cons field rest ih => simp [namedInFields, ih]

/-- A type comes first, if it has a name, and then its parts, the last part first. -/
theorem TypeRef.named_eq (t : TypeRef) :
    t.named = (t.registeredName?.map (·, t)).toList ++ t.parts.reverse.flatMap named := by
  cases t with
  | composite name fields => simp [named, namedInFields_eq, registeredName?, parts]
  | enum name labels => rfl
  | domain name underlying notNull => simp [named, registeredName?, parts]
  | array element dimension => simp [named, registeredName?, parts]
  | range subtype name => simp [named, registeredName?, parts]
  | scalar type => rfl
  | unrecognized type => rfl
  | foreign sort => rfl

/-- What stands in a type under a name is registered under it, and nothing else is. -/
theorem TypeRef.mem_named_iff {t u : TypeRef} {n : QualifiedName} :
    (n, u) ∈ t.named ↔ t.Contains u ∧ u.registeredName? = some n := by
  constructor
  · intro h
    induction t using TypeRef.induction_on_parts with
    | step t ih =>
      rw [named_eq, List.mem_append, List.mem_flatMap] at h
      rcases h with h | ⟨v, hv, h⟩
      · obtain ⟨n', hn', heq⟩ := Option.map_eq_some_iff.1 (Option.mem_toList.1 h)
        cases heq
        exact ⟨.refl, hn'⟩
      · have hpart := List.mem_reverse.1 hv
        exact (ih v hpart h).imp_left (.head hpart)
  · rintro ⟨h, hn⟩
    induction h using Relation.ReflTransGen.head_induction_on with
    | refl =>
      rw [named_eq, hn]
      exact List.mem_cons_self
    | head hpart _ ih =>
      rw [named_eq, List.mem_append, List.mem_flatMap]
      exact Or.inr ⟨_, List.mem_reverse.2 hpart, ih⟩

/-! ## What follows a registered type -/

/-- All that stands inside a type of the list under a name is registered after it. -/
def PartsFollow : List (QualifiedName × TypeRef) → Prop
  | [] => True
  | (_, t) :: rest =>
    (∀ u ∈ t.parts, ∀ v n, u.Contains v → v.registeredName? = some n → n ∈ rest.map Prod.fst) ∧
      PartsFollow rest

namespace PartsFollow

theorem append {pairs pairs' : List (QualifiedName × TypeRef)} (h : PartsFollow pairs)
    (h' : PartsFollow pairs') : PartsFollow (pairs ++ pairs') := by
  induction pairs with
  | nil => exact h'
  | cons p rest ih =>
    refine ⟨fun u hu v n hv hn => ?_, ih h.2⟩
    show n ∈ (rest ++ pairs').map Prod.fst
    rw [List.map_append]
    exact List.mem_append_left _ (h.1 u hu v n hv hn)

theorem flatMap {ts : List TypeRef} (h : ∀ t ∈ ts, PartsFollow t.named) :
    PartsFollow (ts.flatMap TypeRef.named) := by
  induction ts with
  | nil => trivial
  | cons t rest ih =>
    obtain ⟨ht, hrest⟩ := List.forall_mem_cons.1 h
    exact ht.append (ih hrest)

theorem named (t : TypeRef) : PartsFollow t.named := by
  induction t using TypeRef.induction_on_parts with
  | step t ih =>
    have hparts : PartsFollow (t.parts.reverse.flatMap TypeRef.named) :=
      flatMap fun u hu => ih u (List.mem_reverse.1 hu)
    rw [TypeRef.named_eq]
    cases t.registeredName? with
    | none => exact hparts
    | some name =>
      refine ⟨fun u hu v n hv hn => List.mem_map.2 ⟨(n, v), ?_, rfl⟩, hparts⟩
      exact List.mem_flatMap.2 ⟨u, List.mem_reverse.2 hu, TypeRef.mem_named_iff.2 ⟨hv, hn⟩⟩

theorem mem_after {before after : List (QualifiedName × TypeRef)} {name n : QualifiedName}
    {t u v : TypeRef} (h : PartsFollow (before ++ (name, t) :: after)) (hu : u ∈ t.parts)
    (hv : u.Contains v) (hn : v.registeredName? = some n) : n ∈ after.map Prod.fst := by
  induction before with
  | nil => exact h.1 u hu v n hv hn
  | cons p rest ih => exact ih h.2

end PartsFollow

namespace Registry

/-! ## The registry -/

/-- Puts pairs one after the other. -/
def putAll (entries : Entries QualifiedName TypeRef) (pairs : List (QualifiedName × TypeRef)) :
    Entries QualifiedName TypeRef :=
  pairs.foldl (fun entries p => entries.put p.1 p.2) entries

theorem putAll_append (entries : Entries QualifiedName TypeRef)
    (pairs pairs' : List (QualifiedName × TypeRef)) :
    putAll entries (pairs ++ pairs') = putAll (putAll entries pairs) pairs' := List.foldl_append

theorem registerFields_eq {fields : List (Attribute TypeRef)}
    (h : ∀ field ∈ fields, ∀ entries, register entries field.type = putAll entries field.type.named)
    (entries : Entries QualifiedName TypeRef) :
    registerFields entries fields = putAll entries (TypeRef.namedInFields fields) := by
  induction fields with
  | nil => rfl
  | cons field rest ih =>
    obtain ⟨hfield, hrest⟩ := List.forall_mem_cons.1 h
    rw [registerFields, ih hrest, hfield, TypeRef.namedInFields, putAll_append]

theorem register_eq (entries : Entries QualifiedName TypeRef) (t : TypeRef) :
    register entries t = putAll entries t.named := by
  induction t using TypeRef.induction_on_parts generalizing entries with
  | step t ih =>
    cases t with
    | composite name fields =>
      have hfields : ∀ field ∈ fields, ∀ entries,
          register entries field.type = putAll entries field.type.named :=
        fun field hfield => ih _ (List.mem_map_of_mem hfield)
      rw [register, registerFields_eq hfields, TypeRef.named]
      rfl
    | domain name underlying notNull =>
      rw [register, ih underlying (List.mem_singleton_self _), TypeRef.named]
      rfl
    | array element dimension =>
      rw [register, ih element (List.mem_singleton_self _), TypeRef.named]
    | range subtype name => rw [register, ih subtype (List.mem_singleton_self _), TypeRef.named]
    | enum name labels => rfl
    | scalar type => rfl
    | unrecognized type => rfl
    | foreign sort => rfl

/-- All pairs that are put into a registry of types, in their order. -/
def registrations (types : List TypeRef) : List (QualifiedName × TypeRef) :=
  types.reverse.flatMap TypeRef.named

theorem entries_ofTypes (types : List TypeRef) :
    (ofTypes types).entries =
      sortOn QualifiedName.le Prod.fst (Entries.ofPairs (registrations types)) := by
  have hfold : types.foldr (fun type entries => register entries type) [] =
      Entries.ofPairs (registrations types) := by
    induction types with
    | nil => rfl
    | cons t rest ih =>
      have hlast : registrations (t :: rest) = registrations rest ++ t.named := by
        simp [registrations]
      rw [List.foldr_cons, ih, register_eq, hlast]
      exact (putAll_append [] _ _).symm
  exact congrArg _ hfold

/-- A name stands for the type that was registered last under it. -/
theorem exists_last_of_get? {types : List TypeRef} {name : QualifiedName} {t : TypeRef}
    (h : (ofTypes types).get? name = some t) :
    ∃ before after, registrations types = before ++ (name, t) :: after ∧
      name ∉ after.map Prod.fst := by
  rw [get?, entries_ofTypes] at h
  refine Entries.exists_last_of_get?_ofPairs ?_
  exact (Entries.get?_eq_some_iff (Entries.nodup_keys_ofPairs _)).2
    (mem_sortOn.1 (Entries.mem_of_get? h))

/-- Types are registered under their own names. -/
theorem registeredName?_of_get?_ofTypes {types : List TypeRef} {name : QualifiedName} {t : TypeRef}
    (h : (ofTypes types).get? name = some t) : t.registeredName? = some name := by
  obtain ⟨before, after, hsplit, -⟩ := exists_last_of_get? h
  have hmem : (name, t) ∈ registrations types := by
    rw [hsplit]
    exact List.mem_append_right _ List.mem_cons_self
  obtain ⟨u, -, hnamed⟩ := List.mem_flatMap.1 hmem
  exact (TypeRef.mem_named_iff.1 hnamed).2

/-! ## Ranks -/

/-- A composite that stands inside the registered definition of another has a lower rank. -/
def RankedBy (registry : Registry) (rank : QualifiedName → Nat) : Prop :=
  ∀ name name' fields, registry.get? name = some (.composite name' fields) → ∀ field ∈ fields,
    ∀ n source, field.type.Contains (.composite n source) → rank n < rank name

/-- The number of types that are registered after the last one of a name. -/
def registeredAfter (types : List TypeRef) (name : QualifiedName) : Nat :=
  ((registrations types).map Prod.fst).reverse.idxOf name

theorem rankedBy_registeredAfter (types : List TypeRef) :
    (ofTypes types).RankedBy (registeredAfter types) := by
  intro name name' fields hget field hfield n source hin
  obtain ⟨before, after, hsplit, hlast⟩ := exists_last_of_get? hget
  have hfollows : PartsFollow (registrations types) := .flatMap fun t _ => .named t
  rw [hsplit] at hfollows
  have hn : n ∈ (after.map Prod.fst).reverse :=
    List.mem_reverse.2 (hfollows.mem_after (List.mem_map_of_mem hfield) hin rfl)
  have hkeys : ((registrations types).map Prod.fst).reverse =
      (after.map Prod.fst).reverse ++ name :: (before.map Prod.fst).reverse := by
    rw [hsplit]
    simp
  rw [registeredAfter, registeredAfter, hkeys, List.idxOf_append_of_mem hn,
    List.idxOf_append_of_notMem (by simpa using hlast), List.idxOf_cons_self]
  exact List.idxOf_lt_length_of_mem hn

end Registry

end SchemaStructs.Catalog
