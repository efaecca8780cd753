import SchemaStructs.Proofs.Mapping.Declarations
import SchemaStructs.Proofs.Mapping.Reachability
import SchemaStructs.Proofs.Rust.TypeNodes

/-!
# What a mapped type needs

A mapped type comes with exactly the declarations that its catalog type reaches, each once and as
the registry has it. Every node of the mapped type, and of the fields of those declarations, is
built in, belongs to a crate, or names one of the declarations.
-/

namespace SchemaStructs.Mapping

open Catalog Rust

variable {registry : Registry}

/-! ## Nodes -/

/-- Names that no file has to import. -/
def builtinNames : List String :=
  ["Option", "Vec", "String", "bool", "i8", "i16", "i32", "i64", "u8", "u32", "u64", "f32", "f64",
    "[u8; 8]", "()"]

/-- A node names a type of the language or its prelude, a type of a crate, or one of the
declarations `ds`. -/
inductive Grounded (ds : List Declaration) (u : TypeExpr) : Prop
  | builtin (hpath : u.path = none) (hdeclaration : u.declaration = none)
    (hname : u.name ∈ builtinNames)
  | crate {p : String} (hpath : u.path = some p) (hne : p ≠ "")
    (hdeclaration : u.declaration = none)
    (hname : u.name = lastSegment p)
  | generated {d : Declaration} (hd : d ∈ ds) (hpath : u.path = none)
      (hdeclaration : u.declaration = some d.name) (hname : u.name = d.identifier)

theorem Grounded.mono {ds es : List Declaration} (hsub : ∀ d ∈ ds, d ∈ es) {u : TypeExpr}
    (h : Grounded ds u) : Grounded es u := by
  cases h with
  | builtin hpath hdecl hname => exact .builtin hpath hdecl hname
  | crate hpath hne hdecl hname => exact .crate hpath hne hdecl hname
  | generated hd hpath hdecl hname => exact .generated (hsub _ hd) hpath hdecl hname

/-- A node that is known without declarations. -/
def IsStandard (u : TypeExpr) : Prop :=
  u.declaration = none ∧ (u.path = none → u.name ∈ builtinNames) ∧
    ∀ p ∈ u.path, p ≠ "" ∧ u.name = lastSegment p

instance (u : TypeExpr) : Decidable (IsStandard u) := inferInstanceAs (Decidable (_ ∧ (_ → _) ∧ _))

theorem IsStandard.grounded {ds : List Declaration} {u : TypeExpr} (h : IsStandard u) :
    Grounded ds u := by
  obtain ⟨hdecl, hbuiltin, hcrate⟩ := h
  cases hp : u.path with
  | none => exact .builtin hp hdecl (hbuiltin hp)
  | some p =>
    obtain ⟨hne, hname⟩ := hcrate p hp
    exact .crate hp hne hdecl hname

/-- The name of a type that is no `Option`; without a bracket it is seen in the rendered type. -/
def IsHead (name : String) : Prop := name ≠ "Option" ∧ '<' ∉ name.toList

instance (name : String) : Decidable (IsHead name) := inferInstanceAs (Decidable (_ ∧ _))

theorem forall_nodes_vec {p : TypeExpr → Prop} {t : TypeExpr}
    (hvec : ∀ u : TypeExpr, u.path = none → u.declaration = none → u.name = "Vec" → p u)
    (ht : ∀ u ∈ t.nodes, p u) (n : Nat) : ∀ u ∈ (TypeExpr.vec t n).nodes, p u := by
  induction n with
  | zero => exact ht
  | succ n ih =>
    refine TypeExpr.forall_mem_nodes_iff.2 ⟨hvec _ rfl rfl rfl, fun g hg => ?_⟩
    rw [List.mem_singleton.1 hg]
    exact ih

theorem forall_nodes_option {p : TypeExpr → Prop} {t : TypeExpr}
    (hoption : ∀ u : TypeExpr, u.path = none → u.declaration = none → u.name = "Option" → p u)
    (ht : ∀ u ∈ t.nodes, p u) : ∀ u ∈ (TypeExpr.option t).nodes, p u := by
  unfold TypeExpr.option
  split
  · exact ht
  · refine TypeExpr.forall_mem_nodes_iff.2 ⟨hoption _ rfl rfl rfl, fun g hg => ?_⟩
    rw [List.mem_singleton.1 hg]
    exact ht

/-! ## Soundness of a mapped type -/

/-- `m` is a right mapping of `type`: its declarations are the definitions of the names that `type`
reaches, in order, and its nodes need nothing else. -/
structure Mapped.Sound (registry : Registry) (type : TypeRef) (m : Mapped) : Prop where
  ordered : Declaration.Ordered m.declarations
  declares : ∀ d ∈ m.declarations, Declares registry d
  names : ∀ n, n ∈ m.declarations.map Declaration.name ↔ registry.Reaches type n
  grounded : ∀ u ∈ m.type.nodes, Grounded m.declarations u
  head : m.type.declaration = none → IsHead m.type.name

namespace Mapped.Sound

/-- A type that reaches nothing and is mapped to a built-in type or one of a crate. -/
theorem of_no_declarations {type : TypeRef} {m : Mapped} (hm : m.declarations = [])
    (hreach : ∀ n, ¬ registry.Reaches type n)
    (hnodes : ∀ u ∈ m.type.nodes, IsStandard u) (hhead : IsHead m.type.name) :
    Sound registry type m where
  ordered := by rw [hm]; exact List.Pairwise.nil
  declares := by simp [hm]
  names n := by simp [hm, hreach n]
  grounded u hu := (hnodes u hu).grounded
  head _ := hhead

theorem fallback {type : TypeRef} (hreach : ∀ n, ¬ registry.Reaches type n) (u : Unrecognized) :
    Sound registry type (.fallback u) :=
  of_no_declarations rfl hreach
    (show ∀ u ∈ (TypeExpr.primitive "String").nodes, IsStandard u by decide +kernel)
    (show IsHead "String" by decide +kernel)

/-- Wrapping the mapped type does not change what it needs. -/
theorem wrap {type type' : TypeRef} {m : Mapped} (h : Sound registry type m)
    (hreach : ∀ n, registry.Reaches type' n ↔ registry.Reaches type n) {f : TypeExpr → TypeExpr}
    (hnodes : ∀ u ∈ (f m.type).nodes, Grounded m.declarations u)
    (hhead : (f m.type).declaration = none → IsHead (f m.type).name) :
    Sound registry type' (m.mapType f) where
  ordered := h.ordered
  declares := h.declares
  names n := (h.names n).trans (hreach n).symm
  grounded := hnodes
  head := hhead

end Mapped.Sound

theorem scalarTypes_standard :
    ∀ e ∈ scalarTypes, IsHead e.2.name ∧ ∀ u ∈ e.2.nodes, IsStandard u := by
  decide +kernel

theorem sound_scalar (s : Scalar) :
    Mapped.Sound registry (.scalar s) <| match scalarType? s with
      | some type => { type }
      | none => .fallback ⟨s.kind, "no Rust mapping for this type"⟩ := by
  have hreach : ∀ n, ¬ registry.Reaches (.scalar s) n := fun n hn => by cases hn
  split
  · rename_i t hs
    obtain ⟨base, hbase, rfl⟩ := Option.map_eq_some_iff.1 hs
    obtain ⟨l₁, l₂, hl, -⟩ := List.lookup_eq_some_iff.1 hbase
    have hmem : (canonicalKind s.kind, base) ∈ scalarTypes := by rw [hl]; simp
    obtain ⟨hhead, hnodes⟩ := scalarTypes_standard _ hmem
    -- Modifiers change the outermost node, but nothing that is asked of it.
    have hparts := TypeExpr.forall_mem_nodes_iff.1 hnodes
    exact .of_no_declarations rfl hreach (TypeExpr.forall_mem_nodes_iff.2 hparts) hhead
  · exact .fallback hreach _

/-- A declaration with what it needs, named by a type. -/
theorem sound_declared {type : TypeRef} {d : Declaration} {needed : List Declaration}
    (hd : Declares registry d) (hordered : Declaration.Ordered needed)
    (hneeded : ∀ e ∈ needed, Declares registry e)
    (hnames : ∀ n, registry.Reaches type n ↔ n = d.name ∨ n ∈ needed.map Declaration.name) :
    (Mapped.declared d needed).Sound registry type := by
  have hmem : ∀ e ∈ (Mapped.declared d needed).declarations, Declares registry e := by
    intro e he
    rcases Declaration.mem_of_mem_insert he with rfl | he
    · exact hd
    · exact hneeded e he
  constructor
  case ordered => exact hordered.insert d
  case declares => exact hmem
  case names =>
    intro n
    rw [hnames]
    exact Declaration.mem_names_insert
  case grounded =>
    refine TypeExpr.forall_mem_nodes_iff.2 ⟨?_, by simp [Mapped.declared]⟩
    obtain ⟨e, he, hname⟩ := List.mem_map.1 (Declaration.mem_names_insert.2 (Or.inl rfl) :
      d.name ∈ (Declaration.insert d needed).map Declaration.name)
    obtain rfl := (hmem e he).unique hd hname
    exact .generated he rfl rfl rfl
  case head => rintro ⟨⟩

theorem sound_enum (name : QualifiedName) (labels : List String) :
    (mapEnum registry name).Sound registry (.enum name labels) := by
  unfold mapEnum
  split
  · rename_i name' labels' hget
    refine sound_declared (.enum hget) List.Pairwise.nil (by simp) fun n => ?_
    simp only [List.map_nil, List.not_mem_nil, or_false]
    constructor
    · rintro ⟨⟩
      rfl
    · rintro rfl
      exact .enum hget
  · rename_i hnone
    refine .fallback (fun n hn => ?_) _
    cases hn with
    | enum hget => exact hnone _ _ hget

/-- Mapping a type is sound if mapping composites is. -/
theorem sound_of_mapWith {f : QualifiedName → Except MappingError Mapped}
    (hf : ∀ n m, f n = .ok m → ∀ fields, m.Sound registry (.composite n fields)) {type : TypeRef}
    {m : Mapped} (h : mapWith registry f type = .ok m) : m.Sound registry type := by
  fun_induction mapWith registry f type generalizing m with
  | case1 s =>
    cases h
    exact sound_scalar s
  | case2 element dimension ih =>
    obtain ⟨m', hm', rfl⟩ := map_eq_ok_iff.1 h
    have hs := ih hm'
    refine hs.wrap (fun n => ⟨fun hn => by cases hn with | array hn => exact hn, .array⟩)
      (forall_nodes_vec (fun _ hpath hdecl hname => .builtin hpath hdecl (by rw [hname]; decide))
        hs.grounded dimension) ?_
    cases dimension with
    | zero => exact hs.head
    | succ n => exact fun _ => show IsHead "Vec" by decide +kernel
  | case3 name labels =>
    cases h
    exact sound_enum name labels
  | case4 name fields => exact hf name m h fields
  | case5 subtype rangeName ih =>
    obtain ⟨m', hm', rfl⟩ := map_eq_ok_iff.1 h
    have hs := ih hm'
    refine hs.wrap (fun n => ⟨fun hn => by cases hn with | range hn => exact hn, .range⟩) ?_ ?_
    · refine TypeExpr.forall_mem_nodes_iff.2 ⟨.crate rfl (by decide) rfl rfl, fun g hg => ?_⟩
      rw [List.mem_singleton.1 hg]
      exact hs.grounded
    · exact fun _ => show IsHead (lastSegment "sqlx::postgres::types::PgRange") by decide +kernel
  | case6 name underlying notNull ih =>
    have hs := ih h
    have hreach : ∀ n, registry.Reaches (.domain name underlying notNull) n ↔
        registry.Reaches underlying n :=
      fun n => ⟨fun hn => by cases hn with | domain hn => exact hn, .domain⟩
    exact ⟨hs.ordered, hs.declares, fun n => (hs.names n).trans (hreach n).symm, hs.grounded,
      hs.head⟩
  | case7 u =>
    cases h
    exact .fallback (fun n hn => by cases hn) u
  | case8 sort => cases h

/-! ## Composites -/

theorem mem_names_neededBy {mapped : List (String × Mapped)} {n : QualifiedName} :
    n ∈ (neededBy mapped).map Declaration.name ↔
      ∃ m ∈ mapped, n ∈ m.2.declarations.map Declaration.name := by
  suffices H : ∀ ds : List Declaration,
      n ∈ (mapped.foldl (fun ds m => Declaration.union ds m.2.declarations) ds).map
        Declaration.name ↔
        n ∈ ds.map Declaration.name ∨ ∃ m ∈ mapped, n ∈ m.2.declarations.map Declaration.name by
    have h := H []
    rwa [List.map_nil, iff_false_intro List.not_mem_nil, false_or] at h
  induction mapped with
  | nil => simp
  | cons m rest ih =>
    intro ds
    rw [List.foldl_cons, ih, Declaration.mem_names_union, List.exists_mem_cons_iff, or_assoc]

theorem mem_of_mem_neededBy {mapped : List (String × Mapped)} {d : Declaration}
    (h : d ∈ neededBy mapped) : ∃ m ∈ mapped, d ∈ m.2.declarations := by
  suffices H : ∀ ds : List Declaration,
      d ∈ mapped.foldl (fun ds m => Declaration.union ds m.2.declarations) ds →
        d ∈ ds ∨ ∃ m ∈ mapped, d ∈ m.2.declarations by
    exact (H [] h).resolve_left List.not_mem_nil
  clear h
  induction mapped with
  | nil => exact fun ds hd => Or.inl hd
  | cons m rest ih =>
    intro ds hd
    rw [List.exists_mem_cons_iff]
    rcases ih _ hd with hd | hd
    · exact (Declaration.mem_of_mem_union hd).imp_right Or.inl
    · exact Or.inr (Or.inr hd)

theorem ordered_neededBy (mapped : List (String × Mapped)) :
    Declaration.Ordered (neededBy mapped) := by
  suffices H : ∀ ds, Declaration.Ordered ds → Declaration.Ordered
      (mapped.foldl (fun ds m => Declaration.union ds m.2.declarations) ds) from
    H [] List.Pairwise.nil
  induction mapped with
  | nil => exact fun _ hds => hds
  | cons m rest ih => exact fun ds hds => ih _ (hds.union _)

theorem Mapped.Sound.nullable {type : TypeRef} {m : Mapped} (h : m.Sound registry type)
    (isNullable : Bool) : ∀ u ∈ (m.nullable isNullable).type.nodes, Grounded m.declarations u := by
  cases isNullable with
  | false => exact h.grounded
  | true =>
    exact forall_nodes_option
      (fun _ hpath hdecl hname => .builtin hpath hdecl (by rw [hname]; decide))
      h.grounded

@[simp] theorem declarations_nullable (m : Mapped) (isNullable : Bool) :
    (m.nullable isNullable).declarations = m.declarations := by
  cases isNullable <;> rfl

/-- The record of a registered composite is sound if the types of its fields are. -/
theorem sound_declareComposite {name name' : QualifiedName} {source : List (Attribute TypeRef)}
    {mapped : List (String × Mapped)} (hget : registry.get? name = some (.composite name' source))
    (hmaps : List.Forall₂ (MapsField registry) source mapped)
    (hsound : List.Forall₂ (fun field m => ∃ m' : Mapped, m'.Sound registry field.type ∧
      m.2.declarations = m'.declarations) source mapped) (fields : List (Attribute TypeRef)) :
    (declareComposite name source mapped).Sound registry (.composite name fields) := by
  rw [declareComposite_eq]
  refine sound_declared (.composite hget hmaps) (ordered_neededBy mapped) ?_ fun n => ?_
  · intro e he
    obtain ⟨m, hm, he⟩ := mem_of_mem_neededBy he
    obtain ⟨field, -, m', hm', hdecl⟩ := exists_left_of_mem hsound hm
    exact hm'.declares e (hdecl ▸ he)
  · rw [mem_names_neededBy]
    constructor
    · intro hn
      cases hn with
      | composite _ => exact Or.inl rfl
      | field hget' hfield hreach =>
        rw [hget] at hget'
        cases hget'
        obtain ⟨m, hm, m', hm', hdecl⟩ := exists_right_of_mem hsound hfield
        exact Or.inr ⟨m, hm, hdecl ▸ (hm'.names n).2 hreach⟩
    · rintro (rfl | ⟨m, hm, hn⟩)
      · exact .composite hget
      · obtain ⟨field, hfield, m', hm', hdecl⟩ := exists_left_of_mem hsound hm
        exact .field hget hfield ((hm'.names n).1 (hdecl ▸ hn))

theorem sound_of_mapComposite {steps : Nat} (hsteps : steps ≤ registry.size + 1)
    {name : QualifiedName} {m : Mapped} (h : mapComposite registry steps name = .ok m)
    (fields : List (Attribute TypeRef)) : m.Sound registry (.composite name fields) := by
  induction steps generalizing name m fields with
  | zero => cases h
  | succ steps ih =>
    rcases mapComposite_succ_eq_ok_iff.1 h with ⟨name', source, mapped, hget, hmapped, rfl⟩ |
      ⟨hnone, rfl⟩
    · refine sound_declareComposite hget (hmapped.imp fun field m hm => ?_)
        (hmapped.imp fun field m hm => ?_) fields
      · exact mapFieldWith_eq_ok_iff.1
          (mapFieldWith_mono (fun _ _ => mapComposite_mono (Nat.le_of_succ_le hsteps)) hm)
      · obtain ⟨m', hm', hm⟩ := bind_eq_ok_iff.1 hm
        obtain rfl := pure_eq_ok_iff.1 hm
        exact ⟨m', sound_of_mapWith (fun _ _ => ih (Nat.le_of_succ_le hsteps)) hm',
          declarations_nullable m' _⟩
    · refine .fallback (fun n hn => ?_) _
      cases hn with
      | composite hget => exact hnone _ _ hget
      | field hget _ _ => exact hnone _ _ hget

/-- A type that can be mapped comes with exactly what it reaches. -/
theorem sound_of_mapType {type : TypeRef} {m : Mapped} (h : mapType registry type = .ok m) :
    m.Sound registry type :=
  sound_of_mapWith (fun _ _ => sound_of_mapComposite (Nat.le_refl _)) h

theorem exists_sound_of_mapNullable {type : TypeRef} {isNullable : Bool} {m : Mapped}
    (h : mapNullable registry type isNullable = .ok m) :
    ∃ m', mapType registry type = .ok m' ∧ m'.Sound registry type ∧ m = m'.nullable isNullable := by
  obtain ⟨m', hm', rfl⟩ := map_eq_ok_iff.1 h
  exact ⟨m', hm', sound_of_mapType hm', rfl⟩

/-! ## Fields of declarations -/

/-- A field of a declared composite is an attribute of its definition, mapped. -/
theorem Declares.exists_mapsField {d : Declaration} (hd : Declares registry d) {f : RecordField}
    (hf : f ∈ d.fields) : ∃ name' source, registry.get? d.name = some (.composite name' source) ∧
      ∃ field ∈ source, ∃ m, MapsField registry field (f.1, m) ∧ f.2 = m.type := by
  cases hd with
  | enum _ => cases hf
  | @composite name name' source mapped hget hmaps =>
    obtain ⟨m, hm, rfl⟩ := List.mem_map.1 hf
    obtain ⟨field, hfield, hmap⟩ := exists_left_of_mem hmaps hm
    exact ⟨name', source, hget, field, hfield, m.2, hmap, rfl⟩

/-- The nodes of the fields of a needed declaration need only what is needed anyway. -/
theorem Mapped.Sound.grounded_fields {type : TypeRef} {m : Mapped} (h : m.Sound registry type)
    {d : Declaration} (hd : d ∈ m.declarations) :
    ∀ f ∈ d.fields, ∀ u ∈ f.2.nodes, Grounded m.declarations u := by
  intro f hf u hu
  obtain ⟨name', source, hget, field, hfield, mf, ⟨-, hmap⟩, htype⟩ :=
    (h.declares d hd).exists_mapsField hf
  obtain ⟨m', -, hsound, rfl⟩ := exists_sound_of_mapNullable hmap
  have hsub : ∀ e ∈ m'.declarations, e ∈ m.declarations := by
    intro e he
    have hreach := (hsound.names e.name).1 (List.mem_map_of_mem he)
    have hd' := (h.names d.name).1 (List.mem_map_of_mem hd)
    obtain ⟨e', he', hname⟩ := List.mem_map.1 ((h.names e.name).2
      (hd'.trans_field hget hfield hreach))
    rwa [← (h.declares e' he').unique (hsound.declares e he) hname]
  exact (hsound.nullable _ u (htype ▸ hu)).mono hsub

end SchemaStructs.Mapping
