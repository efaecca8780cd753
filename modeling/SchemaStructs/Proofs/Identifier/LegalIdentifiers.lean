import SchemaStructs.Proofs.Identifier.TypeNames

/-!
# Legal identifiers

Whatever a catalog name in ASCII is, the names that are made of it can stand in Rust code: they are
made of letters, digits and underscores, do not start with a digit, are not underscores only, and
are no keywords. A digit in front gets an underscore, a keyword gets one behind it or is written in
its raw form, and a name without words is replaced. None of these repairs undoes what another one
has to see to.
-/

namespace SchemaStructs.Identifier

open Text

/-! ## Identifiers -/

/-- The form `[A-Za-z_][A-Za-z0-9_]*`, with a letter or digit. -/
structure HasIdentifierForm (s : String) : Prop where
  head : ∃ c ∈ s.toList.head?, c.isAlpha = true ∨ c = '_'
  chars : ∀ c ∈ s.toList, IsWordChar c ∨ c = '_'
  named : ∃ c ∈ s.toList, IsWordChar c

structure IsIdentifier (s : String) : Prop extends HasIdentifierForm s where
  not_keyword : isKeyword s = false

theorem HasIdentifierForm.of_isWord {s : String} (hhead : s.toList.head?.any Char.isAlpha = true)
    (hs : IsWord s.toList) : HasIdentifierForm s := by
  obtain ⟨c, hc, hletter⟩ := (Option.any_eq_true _ _).1 hhead
  have hmem : c ∈ s.toList := List.mem_of_mem_head? hc
  exact ⟨⟨c, hc, Or.inl hletter⟩, fun d hd => Or.inl (hs d hd), ⟨c, hmem, hs c hmem⟩⟩

theorem HasIdentifierForm.isAscii {s : String} (h : HasIdentifierForm s) : IsAscii s.toList := by
  intro c hc
  rcases h.chars c hc with hword | rfl
  · exact hword.1
  · decide

/-! ## Repairs -/

theorem HasIdentifierForm.append_underscore {s : String} (h : HasIdentifierForm s) :
    HasIdentifierForm (s ++ "_") := by
  obtain ⟨c, hc, hletter⟩ := h.head
  obtain ⟨d, hd, hword⟩ := h.named
  refine ⟨⟨c, ?_, hletter⟩, fun e he => ?_, ⟨d, ?_, hword⟩⟩
  · rw [String.toList_append, List.head?_append, Option.mem_def.1 hc, Option.some_or]
    rfl
  · rw [String.toList_append, List.mem_append] at he
    exact he.elim (h.chars e) fun he => Or.inr (List.mem_singleton.1 he)
  · rw [String.toList_append]
    exact List.mem_append_left _ hd

theorem HasIdentifierForm.isIdentifier_append_underscore {s : String} (h : HasIdentifierForm s) :
    IsIdentifier (s ++ "_") :=
  ⟨h.append_underscore, isKeyword_append_underscore s⟩

theorem HasIdentifierForm.avoidKeyword {s : String} (h : HasIdentifierForm s) :
    IsIdentifier (avoidKeyword s) := by
  refine ⟨?_, isKeyword_avoidKeyword s⟩
  unfold Identifier.avoidKeyword
  split
  · exact h.append_underscore
  · exact h

/-- A letter or digit is what a name starts with, so an underscore before a digit is all that it
needs. -/
theorem hasIdentifierForm_afterDigit {s : String} {c : Char} (hhead : s.toList.head? = some c)
    (hc : IsWordChar c) (hs : ∀ d ∈ s.toList, IsWordChar d ∨ d = '_') :
    HasIdentifierForm (afterDigit s) := by
  have hmem : c ∈ s.toList := List.mem_of_mem_head? hhead
  unfold afterDigit
  rw [hhead, Option.any_some, isDigit_of_ascii hc.1]
  split
  · refine ⟨⟨'_', ?_, Or.inr rfl⟩, ?_, ⟨c, ?_, hc⟩⟩
    · rw [String.toList_append]
      rfl
    · rw [String.toList_append]
      exact List.forall_mem_cons.2 ⟨Or.inr rfl, hs⟩
    · rw [String.toList_append]
      exact List.mem_append_right _ hmem
  · rename_i hdigit
    refine ⟨⟨c, hhead, Or.inl ?_⟩, hs, ⟨c, hmem, hc⟩⟩
    have halphanum : (c.isAlpha || c.isDigit) = true := hc.2
    rwa [Bool.eq_false_iff.2 hdigit, Bool.or_false] at halphanum

/-! ## Words -/

/-- Of the words only the first has to be there. -/
theorem hasIdentifierForm_pascalCase_cons {w : String} {rest : List String} (hw : IsNameWord w)
    (hrest : ∀ w ∈ rest, IsWord w.toList) :
    HasIdentifierForm (afterDigit (pascalCase (w :: rest))) := by
  obtain ⟨c, others, hcons, hc⟩ := hw.exists_cons
  refine hasIdentifierForm_afterDigit (c := c.toUpper) ?_ hc.casing.toUpper fun d hd => Or.inl ?_
  · rw [pascalCase, String.toList_ofList, List.flatMap_cons, hcons, capitalize, upperOf,
      if_pos hc.1]
    rfl
  · exact isWord_pascalCase (List.forall_mem_cons.2 ⟨hw.isWord, hrest⟩) d hd

section Words

variable {ws : List String} (hne : ws ≠ []) (hws : ∀ w ∈ ws, IsNameWord w)

include hne hws

theorem hasIdentifierForm_pascalCase : HasIdentifierForm (afterDigit (pascalCase ws)) := by
  obtain ⟨w, rest, rfl⟩ := List.exists_cons_of_ne_nil hne
  obtain ⟨hw, hrest⟩ := List.forall_mem_cons.1 hws
  exact hasIdentifierForm_pascalCase_cons hw fun w hmem => (hrest w hmem).isWord

theorem hasIdentifierForm_snakeCase : HasIdentifierForm (afterDigit (snakeCase ws)) := by
  obtain ⟨w, rest, rfl⟩ := List.exists_cons_of_ne_nil hne
  obtain ⟨c, hc, hhead⟩ := (hws w List.mem_cons_self).head?_snakeCase rest
  refine hasIdentifierForm_afterDigit hhead hc.casing.toLower fun d hd => ?_
  refine (mem_snakeCase hd).imp_left ?_
  rintro ⟨w, hw, hd⟩
  exact isWord_lower (hws w hw).isWord d hd

end Words

/-! ## Names -/

theorem isIdentifier_ofTypeWords {fallback : String} {ws : List String}
    (hfallback : HasIdentifierForm fallback) (hws : ∀ w ∈ ws, IsNameWord w) :
    IsIdentifier (ofTypeWords fallback ws) := by
  refine HasIdentifierForm.avoidKeyword ?_
  split
  · exact hfallback
  · rename_i hne
    exact hasIdentifierForm_pascalCase (by simpa using hne) hws

theorem hasIdentifierForm_ofWords {fallback : String} {ws : List String}
    (hfallback : HasIdentifierForm fallback) (hws : ∀ w ∈ ws, IsNameWord w) :
    HasIdentifierForm (if ws.isEmpty then fallback else afterDigit (snakeCase ws)) := by
  split
  · exact hfallback
  · rename_i hne
    exact hasIdentifierForm_snakeCase (by simpa using hne) hws

theorem isAscii_bare {s : String} (hs : IsAscii s.toList) : IsAscii (bare s).toList := by
  unfold bare
  split
  · rename_i rest hraw
    rw [hraw] at hs
    rw [String.toList_ofList]
    exact (List.forall_mem_cons.1 (List.forall_mem_cons.1 hs).2).2
  · exact hs

theorem isIdentifier_moduleName {struct : String} (hstruct : IsAscii struct.toList) :
    IsIdentifier (moduleName struct) :=
  (hasIdentifierForm_ofWords (.of_isWord (by decide) (by decide)) fun _ =>
    isNameWord_of_mem_splitWords (isAscii_bare hstruct)).avoidKeyword

theorem isIdentifier_columnName_or_raw {raw : String} (hraw : IsAscii raw.toList) :
    IsIdentifier (columnName raw) ∨
      ∃ k, isKeyword k = true ∧ isNonRawKeyword k = false ∧ columnName raw = "r#" ++ k := by
  have hfield : HasIdentifierForm "field" := .of_isWord (by decide) (by decide)
  have hform := hasIdentifierForm_ofWords hfield fun _ => isNameWord_of_mem_splitWords hraw
  dsimp only [columnName]
  generalize
    (if (splitWords raw).isEmpty then "field" else afterDigit (snakeCase (splitWords raw))) =
    name at hform
  split
  · exact Or.inl hform.isIdentifier_append_underscore
  · rename_i hnonRaw
    split
    · rename_i hkeyword
      exact Or.inr ⟨name, hkeyword, Bool.eq_false_iff.2 hnonRaw, rfl⟩
    · rename_i hkeyword
      exact Or.inl ⟨hform, Bool.eq_false_iff.2 hkeyword⟩

/-- Of a name in ASCII come identifiers: of a column one that may be in its raw form, of a type, a
variant and a table one that is as it is, and so is its module. No module is called `mod`. -/
theorem isIdentifier_of_ascii {raw : String} (hraw : IsAscii raw.toList) :
    (IsIdentifier (columnName raw) ∨
        ∃ k, isKeyword k = true ∧ k ∉ ["self", "Self", "super", "crate"] ∧
          columnName raw = "r#" ++ k) ∧
      (∀ name ∈ [typeName raw, variantName raw, tableName false raw],
        IsIdentifier name ∧ IsIdentifier (moduleName name)) ∧
      ∀ struct, moduleName struct ≠ "mod" := by
  have hwords : ∀ w ∈ splitWords raw, IsNameWord w := fun _ => isNameWord_of_mem_splitWords hraw
  refine ⟨(isIdentifier_columnName_or_raw hraw).imp_right ?_, ?_, moduleName_ne_mod⟩
  · rintro ⟨k, hkeyword, hraw, hcolumn⟩
    exact ⟨k, hkeyword, by simpa [isNonRawKeyword, nonRawKeywords] using hraw, hcolumn⟩
  · have hmodule : ∀ name, IsIdentifier name → IsIdentifier name ∧ IsIdentifier (moduleName name) :=
      fun name hname => ⟨hname, isIdentifier_moduleName hname.isAscii⟩
    intro name hname
    refine hmodule name ?_
    simp only [List.mem_cons, List.not_mem_nil, or_false] at hname
    rcases hname with rfl | rfl | rfl
    · exact isIdentifier_ofTypeWords (.of_isWord (by decide) (by decide)) hwords
    · exact isIdentifier_ofTypeWords (.of_isWord (by decide) (by decide)) hwords
    · exact isIdentifier_ofTypeWords (.of_isWord (by decide) (by decide)) hwords

theorem isIdentifier_of_self :
    IsAscii "self".toList ∧ columnName "self" = "self_" ∧ typeName "self" = "Self_" ∧
      IsIdentifier "Self_" ∧ IsIdentifier (moduleName "Self_") := by
  have hascii : IsAscii "self".toList := by decide
  have htype : typeName "self" = "Self_" := by decide +kernel
  obtain ⟨-, htypes, -⟩ := isIdentifier_of_ascii hascii
  have hself := htypes (typeName "self") List.mem_cons_self
  rw [htype] at hself
  exact ⟨hascii, by decide +kernel, htype, hself⟩

end SchemaStructs.Identifier
