import SchemaStructs.Proofs.Identifier.Inflections
import SchemaStructs.Proofs.Identifier.LegalIdentifiers

/-!
# Names in the singular

Each rule leaves something of a plural, except that nothing is left of an `s`. Behind other words
this does not matter, since the first one makes the identifier. So the struct of a table in ASCII
has an identifier in the singular unless `s` is all that the table is called.
-/

namespace SchemaStructs.Identifier

open Text

/-! ## Empty singulars -/

theorem eq_of_firstSingular?_eq_nil {reversed : List Char}
    (h : firstSingular? pluralRules reversed = some []) : reversed = ['s'] := by
  have hendings : ∀ i ∈ pluralRules.flatMap PluralRule.inflections, i.singular = [] →
      i.plural = ['s'] := by
    decide +kernel
  obtain ⟨i, hi, rest, hplural, hsingular, -⟩ := exists_inflection_of_firstSingular h
  obtain ⟨hending, rfl⟩ := List.append_eq_nil_iff.1 hsingular.symm
  rw [hplural, hendings i hi hending, List.append_nil]

/-- A line end stays. -/
theorem singularByRule_lineEnd_ne_nil (before : List Char) :
    singularByRule (before ++ ['\n']) ≠ [] := by
  unfold singularByRule
  rw [List.reverse_append, List.reverse_singleton, List.singleton_append]
  split
  rename_i heq
  cases heq
  split <;> exact List.append_ne_nil_of_right_ne_nil _ (List.cons_ne_nil _ _)

theorem singularByRule_eq_nil_iff {word : List Char} :
    singularByRule word = [] ↔ word = [] ∨ word = ['s'] := by
  constructor
  · intro h
    by_cases hline : word.getLast? = some '\n'
    · obtain ⟨before, rfl⟩ := List.getLast?_eq_some_iff.1 hline
      exact absurd h (singularByRule_lineEnd_ne_nil before)
    · rw [singularByRule_eq hline, List.reverse_eq_nil_iff] at h
      cases hsingular : firstSingular? pluralRules word.reverse with
      | none =>
        rw [hsingular, Option.getD_none, List.reverse_eq_nil_iff] at h
        exact Or.inl h
      | some singular =>
        rw [hsingular, Option.getD_some] at h
        rw [h] at hsingular
        exact Or.inr (List.reverse_eq_iff.1 (eq_of_firstSingular?_eq_nil hsingular))
  · rintro (rfl | rfl) <;> decide +kernel

theorem singularize_eq_empty_iff {word : String} :
    singularize word = "" ↔ word = "" ∨ word = "s" := by
  have hnever : ∀ w ∈ uncountables, w ≠ "" ∧ w ≠ "s" := by decide
  have hirregular : ∀ e ∈ irregularSingulars, e.2 ≠ "" ∧ e.1 ≠ "" ∧ e.1 ≠ "s" := by decide
  unfold singularize
  split
  · rename_i huncountable
    obtain ⟨hempty, hs⟩ := hnever word (by simpa using huncountable)
    exact iff_of_false hempty (not_or.2 ⟨hempty, hs⟩)
  · split
    · rename_i singular hlookup
      obtain ⟨l₁, l₂, hl, -⟩ := List.lookup_eq_some_iff.1 hlookup
      obtain ⟨hsingular, hempty, hs⟩ := hirregular (word, singular) (by rw [hl]; simp)
      exact iff_of_false hsingular (not_or.2 ⟨hempty, hs⟩)
    · have hs : word = "s" ↔ word.toList = ['s'] := by
        rw [← String.toList_inj]
        rfl
      rw [hs, ← String.toList_eq_nil_iff, String.toList_ofList, singularByRule_eq_nil_iff,
        String.toList_eq_nil_iff]

/-! ## Tables -/

theorem isIdentifier_ofTypeWords_cons {fallback w : String} {rest : List String} (hw : IsNameWord w)
    (hrest : ∀ v ∈ rest, IsWord v.toList) : IsIdentifier (ofTypeWords fallback (w :: rest)) :=
  (hasIdentifierForm_pascalCase_cons hw hrest).avoidKeyword

theorem isNameWord_singularize {w : String} (hw : IsNameWord w) (hs : lowercase w ≠ "s") :
    IsNameWord (singularize (lowercase w)) := by
  have hmem : ∀ v ∈ singularLast [w], IsWord v.toList :=
    isWord_of_mem_singularLast fun v hv => List.mem_singleton.1 hv ▸ hw.isWord
  refine ⟨?_, hmem _ List.mem_cons_self⟩
  rw [Ne, String.toList_eq_nil_iff, singularize_eq_empty_iff, not_or]
  refine ⟨fun hempty => hw.ne_nil ?_, hs⟩
  rw [← String.toList_eq_nil_iff, lowercase, String.toList_ofList, lower_eq_map hw.isWord] at hempty
  exact List.map_eq_nil_iff.1 hempty

theorem tableName_eq_empty {raw : String} (h : (splitWords raw).map lowercase = ["s"]) :
    tableName true raw = "" := by
  obtain ⟨w, hw, hs⟩ := List.map_eq_singleton_iff.1 h
  rw [tableName, if_pos rfl, hw, singularLast, hs]
  decide +kernel

theorem isIdentifier_tableName_of_ne {raw : String} (hraw : IsAscii raw.toList)
    (h : (splitWords raw).map lowercase ≠ ["s"]) : IsIdentifier (tableName true raw) := by
  have hwords : ∀ w ∈ splitWords raw, IsNameWord w := fun _ => isNameWord_of_mem_splitWords hraw
  rw [tableName, if_pos rfl]
  cases hsplit : splitWords raw with
  | nil => exact HasIdentifierForm.avoidKeyword (.of_isWord (by decide) (by decide))
  | cons w rest =>
    rw [hsplit] at hwords h
    obtain ⟨hw, hrest⟩ := List.forall_mem_cons.1 hwords
    cases rest with
    | nil =>
      have hs : lowercase w ≠ "s" := fun hs => h (congrArg ([·]) hs)
      rw [singularLast]
      exact isIdentifier_ofTypeWords_cons (isNameWord_singularize hw hs) (by simp)
    | cons w' rest =>
      have hsingular : ∀ v ∈ singularLast (w' :: rest), IsWord v.toList :=
        isWord_of_mem_singularLast fun v hv => (hrest v hv).isWord
      rw [singularLast]
      · exact isIdentifier_ofTypeWords_cons hw hsingular
      · exact List.cons_ne_nil _ _

/-- The struct of a table has an identifier unless all that is there to name it is an `s`. No other
word has an empty singular. -/
theorem isIdentifier_singular_tableName_iff {raw : String} (hraw : IsAscii raw.toList) :
    (IsIdentifier (tableName true raw) ↔ (splitWords raw).map lowercase ≠ ["s"]) ∧
      ∀ word, singularize word = "" ↔ word = "" ∨ word = "s" := by
  refine ⟨⟨?_, isIdentifier_tableName_of_ne hraw⟩, fun word => singularize_eq_empty_iff⟩
  intro hidentifier hs
  rw [tableName_eq_empty hs] at hidentifier
  obtain ⟨c, hc, -⟩ := hidentifier.head
  cases hc

theorem isIdentifier_singular_self_s :
    IsAscii "self_s".toList ∧ tableName true "self_s" = "Self_" ∧ IsIdentifier "Self_" := by
  have hascii : IsAscii "self_s".toList := by decide
  have htable : tableName true "self_s" = "Self_" := by decide +kernel
  have hwords : (splitWords "self_s").map lowercase ≠ ["s"] := by decide +kernel
  have hidentifier := (isIdentifier_singular_tableName_iff hascii).1.2 hwords
  rw [htable] at hidentifier
  exact ⟨hascii, htable, hidentifier⟩

theorem not_forall_isIdentifier_singular :
    ¬ ∀ raw : String, IsAscii raw.toList → IsIdentifier (tableName true raw) := by
  intro h
  obtain ⟨c, hc, -⟩ := (h "s" (by decide)).head
  rw [show tableName true "s" = "" by decide +kernel] at hc
  cases hc

end SchemaStructs.Identifier
