import SchemaStructs.Proofs.Generate.Blocks
import SchemaStructs.Proofs.Mapping.CratePaths
import SchemaStructs.Proofs.Rust.Characters
import SchemaStructs.Proofs.Rust.StringLiterals

/-!
# Text made of identifiers and punctuation

Outside comments and string literals the lines of a module are made of identifiers and of fixed
punctuation. So they have no quote, no slash and no line break, whatever the names in the catalog
are.
-/

namespace SchemaStructs.Generate

open Catalog Mapping Rust Text

/-- The characters of code that no identifier has, and the underscore. -/
def punctuation : List Char :=
  [' ', '_', ':', ';', ',', '<', '>', '(', ')', '[', ']', '\x7b', '\x7d', '#', '!', '=']

/-- Every character belongs to an identifier or is punctuation. -/
def IsCode (s : String) : Prop := AllChars (fun c => IsPlain c ∨ c ∈ punctuation) s

instance (s : String) : Decidable (IsCode s) :=
  inferInstanceAs (Decidable (AllChars (fun c => IsPlain c ∨ c ∈ punctuation) s))

@[simp] theorem isCode_append {s t : String} : IsCode (s ++ t) ↔ IsCode s ∧ IsCode t :=
  allChars_append

theorem IsCode.not_mem {s : String} (h : IsCode s) {c : Char} (hplain : ¬ IsPlain c)
    (hpunctuation : c ∉ punctuation) : c ∉ s.toList :=
  fun hc => (h c hc).elim hplain hpunctuation

theorem IsCode.singleLine {s : String} (h : IsCode s) : SingleLine s := by
  have hfeed : '\n' ∉ s.toList := h.not_mem (by decide) (by decide)
  have hreturn : '\r' ∉ s.toList := h.not_mem (by decide) (by decide)
  exact fun c hc => ⟨fun he => hfeed (he ▸ hc), fun he => hreturn (he ▸ hc)⟩

theorem isCode_of_isPlainName {s : String} (h : Identifier.IsPlainName s) : IsCode s :=
  fun c hc => (h c hc).imp_right fun he => by rw [he]; decide

theorem isCode_columnName (raw : String) : IsCode (Identifier.columnName raw) := by
  obtain ⟨name, hname, he | he⟩ := Identifier.columnName_cases raw
  · rw [he]
    exact isCode_of_isPlainName hname
  · rw [he, isCode_append]
    exact ⟨by decide, isCode_of_isPlainName hname⟩

/-! ## Types -/

theorem isCode_of_mem_cratePaths : ∀ p ∈ cratePaths, IsCode p := by
  decide +kernel

section Mapping

variable {registry : Registry}

/-- The type of a column or attribute is written in identifiers and punctuation. -/
theorem isCode_render_of_mapNullable {type : TypeRef} {isNullable : Bool} {m : Mapped}
    (h : mapNullable registry type isNullable = .ok m) : IsCode m.type.render := by
  obtain ⟨m', -, hsound, rfl⟩ := exists_sound_of_mapNullable h
  refine allChars_render (by decide) fun u hu => ?_
  cases hsound.nullable isNullable u hu with
  | builtin _ _ hname =>
    have hbuiltin : ∀ name ∈ builtinNames, IsCode name := by decide
    exact hbuiltin u.name hname
  | @crate p hpath hne _ hname =>
    have hp : p ∈ cratePaths :=
      mem_cratePaths_of_mapNullable h p (TypeExpr.mem_paths_iff.2 ⟨hne, u, hu, hpath⟩)
    rw [hname]
    exact (allChars_splitPath (isCode_of_mem_cratePaths p hp)).2
  | @generated d hd _ _ hname =>
    rw [hname, (hsound.declares d hd).identifier_eq]
    exact isCode_of_isPlainName (Identifier.isPlainName_typeName d.name.name)

theorem isCode_render_of_declares {d : Declaration} (hd : Declares registry d) {f : RecordField}
    (hf : f ∈ d.fields) : IsCode f.2.render := by
  obtain ⟨-, -, -, field, -, m, hmaps, htype⟩ := hd.exists_mapsField hf
  rw [htype]
  exact isCode_render_of_mapNullable hmaps.2

end Mapping

/-! ## Lines -/

theorem isCode_fieldLine {identifier : String} {type : TypeExpr} (hidentifier : IsCode identifier)
    (htype : IsCode type.render) : IsCode (fieldLine identifier type) := by
  rw [fieldLine_eq]
  simp only [isCode_append]
  exact ⟨by decide, ⟨⟨⟨by decide, hidentifier⟩, by decide⟩, htype⟩, by decide⟩

theorem isCode_groupImports {paths : List String} (h : ∀ p ∈ paths, p ∈ cratePaths) :
    ∀ line ∈ groupImports paths, IsCode line :=
  allChars_groupImports (by decide) fun p hp => isCode_of_mem_cratePaths p (h p hp)

theorem isCode_siblingImports {imported : List SiblingImport}
    (h : ∀ i ∈ imported, IsCode i.1 ∧ IsCode i.2) :
    ∀ line ∈ siblingImports imported, IsCode line := by
  intro line hline
  obtain ⟨i, hi, rfl⟩ := List.mem_map.1 (mem_sortedSet.1 hline)
  simp only [toString, isCode_append]
  exact ⟨⟨⟨⟨by decide, (h i hi).1⟩, by decide⟩, (h i hi).2⟩, by decide⟩

end SchemaStructs.Generate
