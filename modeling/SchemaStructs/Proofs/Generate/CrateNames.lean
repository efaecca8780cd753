import SchemaStructs.Proofs.Generate.NameClosure
import SchemaStructs.Proofs.Mapping.CratePaths

/-!
# Names of crate types in a module

The crate types that a module imports are known by their last segments. They are different from each
other and from the names of the prelude anyway, so a module that imports them is checked for two
things only: that none has the name of the struct, and none that of a type which the struct needs.
-/

namespace SchemaStructs.Generate

open Catalog Mapping Rust Identifier

variable {s : Struct} {paths : List String}

theorem mem_crateImports_iff_or {owned : List Declaration} {p : String} :
    p ∈ crateImports s owned ↔
      (∃ f ∈ s.fields, p ∈ f.type.paths) ∨ ∃ d ∈ owned, ∃ f ∈ d.fields, p ∈ f.2.paths := by
  rw [crateImports, mem_sortedSet, List.mem_append]
  simp only [List.mem_flatMap]

/-- What a module imports from crates are crate types that scalars or ranges are mapped to. -/
theorem mem_cratePaths_of_crateImports {registry : Registry} {t : Table} {s : Struct}
    (hts : StructOf registry t s) {owned : List Declaration}
    (howned : ∀ d ∈ owned, Declares registry d) : ∀ p ∈ crateImports s owned, p ∈ cratePaths := by
  intro p hp
  rcases mem_crateImports_iff_or.1 hp with ⟨f, hf, hp⟩ | ⟨d, hd, f, hf, hp⟩
  · obtain ⟨column, -, hfield⟩ := exists_left_of_mem hts.fields hf
    obtain ⟨m, hm, htype⟩ := hfield.type_eq
    exact mem_cratePaths_of_mapNullable hm p (htype ▸ hp)
  · exact (howned d hd).mem_cratePaths hf hp

/-- A crate type is imported into the module of a struct under the name of the struct or of a type
that the struct needs. -/
def ClashesWith (s : Struct) (path : String) : Prop :=
  lastSegment path = s.name ∨ ∃ n ∈ s.declarations, lastSegment path = typeName n.name

theorem mem_namesMeeting_iff {named : Named} :
    named ∈ namesMeeting s paths ↔
      named ∈ namesMeeting s [] ∨ ∃ path ∈ paths, named = (s!"use {path}", lastSegment path) := by
  simp only [namesMeeting, List.mem_append, List.mem_map, List.not_mem_nil, false_and, exists_false,
    or_false]
  constructor
  · rintro (((h | ⟨path, hpath, rfl⟩) | h) | h)
    · exact Or.inl (Or.inl (Or.inl h))
    · exact Or.inr ⟨path, hpath, rfl⟩
    · exact Or.inl (Or.inl (Or.inr h))
    · exact Or.inl (Or.inr h)
  · rintro (((h | h) | h) | ⟨path, hpath, rfl⟩)
    · exact Or.inl (Or.inl (Or.inl h))
    · exact Or.inl (Or.inr h)
    · exact Or.inr h
    · exact Or.inl (Or.inl (Or.inr ⟨path, hpath, rfl⟩))

theorem use_ne_text {path : String} (hpath : path ∈ cratePaths) (n : QualifiedName) :
    s!"use {path}" ≠ n.text := by
  intro h
  have hdot : '.' ∈ (s!"use {path}").toList := by
    rw [h, QualifiedName.toList_text]
    simp
  have hmem : '.' ∈ "use ".toList ++ path.toList := by
    rwa [← String.toList_append]
  rcases List.mem_append.1 hmem with hmem | hmem
  · exact absurd hmem (by decide)
  · exact (isCratePath_of_mem hpath).no_dot hmem

/-- A crate type shares its name with another name of the module only if the two clash. -/
theorem clashesWith_of_key_eq (hname : bare s.name = s.name) {path : String}
    (hpath : path ∈ cratePaths) {named : Named} (hnamed : named ∈ namesMeeting s [])
    (hkey : bare (lastSegment path) = bare named.2) : ClashesWith s path := by
  have hcrate := isCratePath_of_mem hpath
  rw [hcrate.bare_eq] at hkey
  rw [namesMeeting] at hnamed
  rcases List.mem_append.1 hnamed with hnamed | hnamed
  · rcases List.mem_append.1 hnamed with hnamed | hnamed
    · obtain ⟨name, hprelude, rfl⟩ := List.mem_map.1 (List.append_nil _ ▸ hnamed)
      have hbuiltin : ∀ name ∈ Plan.preludeNames, bare name = name ∧ name ∈ builtinNames := by
        decide +kernel
      obtain ⟨hbare, hmem⟩ := hbuiltin name hprelude
      exact absurd (hkey.trans hbare ▸ hmem) hcrate.not_builtin
    · obtain ⟨n, hn, rfl⟩ := List.mem_map.1 hnamed
      exact Or.inr ⟨n, hn, hkey.trans (isPlainName_typeName n.name).bare_eq⟩
  · rw [List.mem_singleton.1 hnamed] at hkey
    exact Or.inl (hkey.trans hname)

/-- The sources of a crate type and of another name are different. -/
theorem use_ne_source {path : String} (hpath : path ∈ cratePaths) {named : Named}
    (hnamed : named ∈ namesMeeting s []) : s!"use {path}" ≠ named.1 := by
  rw [namesMeeting] at hnamed
  rcases List.mem_append.1 hnamed with hnamed | hnamed
  · rcases List.mem_append.1 hnamed with hnamed | hnamed
    · obtain ⟨name, -, rfl⟩ := List.mem_map.1 (List.append_nil _ ▸ hnamed)
      exact label_ne_label rfl rfl (by decide) _ _
    · obtain ⟨n, -, rfl⟩ := List.mem_map.1 hnamed
      exact label_ne_label rfl rfl (by decide) _ _
  · rw [List.mem_singleton.1 hnamed]
    exact use_ne_text hpath s.table

/-- The names of a module are different if they are without its crate types and none of these
clashes. -/
theorem consistent_namesMeeting_iff (hname : bare s.name = s.name)
    (hpaths : ∀ p ∈ paths, p ∈ cratePaths) :
    Consistent .sensitive (namesMeeting s paths) ↔
      Consistent .sensitive (namesMeeting s []) ∧ ∀ p ∈ paths, ¬ ClashesWith s p := by
  constructor
  · intro h
    refine ⟨h.mono fun named hnamed => mem_namesMeeting_iff.2 (Or.inl hnamed),
      fun p hp hclash => ?_⟩
    have huse : (s!"use {p}", lastSegment p) ∈ namesMeeting s paths :=
      mem_namesMeeting_iff.2 (Or.inr ⟨p, hp, rfl⟩)
    have hother : ∀ named ∈ namesMeeting s [], named.2 ≠ lastSegment p := by
      intro named hnamed he
      refine use_ne_source (hpaths p hp) hnamed ?_
      exact h _ huse _ (mem_namesMeeting_iff.2 (Or.inl hnamed)) (by rw [he])
    rcases hclash with he | ⟨n, hn, he⟩
    · exact hother (s.table.text, s.name) (by simp [namesMeeting]) he.symm
    · exact hother (s!"type {n.text}", typeName n.name)
        (List.mem_append_left _ (List.mem_append_right _ (List.mem_map_of_mem hn))) he.symm
  · rintro ⟨h, hclash⟩ x hx y hy hkey
    rcases mem_namesMeeting_iff.1 hx with hx | ⟨p, hp, rfl⟩
    · rcases mem_namesMeeting_iff.1 hy with hy | ⟨q, hq, rfl⟩
      · exact h x hx y hy hkey
      · exact absurd (clashesWith_of_key_eq hname (hpaths q hq) hx hkey.symm) (hclash q hq)
    · rcases mem_namesMeeting_iff.1 hy with hy | ⟨q, hq, rfl⟩
      · exact absurd (clashesWith_of_key_eq hname (hpaths p hp) hy hkey) (hclash p hp)
      · have hp' := isCratePath_of_mem (hpaths p hp)
        have hq' := isCratePath_of_mem (hpaths q hq)
        have hsegment : lastSegment p = lastSegment q := by
          rw [← hp'.bare_eq, ← hq'.bare_eq]
          exact hkey
        rw [hp'.eq_of_lastSegment q (hpaths q hq) hsegment]

/-- The check of a module whose names are known. -/
theorem checkNames_iff_of_namesIn {plan : Plan}
    (hnames : plan.namesIn s = .ok (namesMeeting s paths)) (hname : bare s.name = s.name)
    (hpaths : ∀ p ∈ paths, p ∈ cratePaths) :
    plan.checkNames s = .ok () ↔
      Consistent .sensitive (namesMeeting s []) ∧ ∀ p ∈ paths, ¬ ClashesWith s p := by
  rw [checkNames_eq_ok_iff, ← consistent_namesMeeting_iff hname hpaths, hnames]
  constructor
  · rintro ⟨names, hnames, hconsistent⟩
    cases hnames
    exact hconsistent
  · exact fun hconsistent => ⟨_, rfl, hconsistent⟩

end SchemaStructs.Generate
