import SchemaStructs.Identifier.Naming
import SchemaStructs.Proofs.Identifier.Inflections
import SchemaStructs.Proofs.Identifier.Words
import SchemaStructs.Proofs.Text.CaseForms

/-!
# Characters of identifiers

Identifiers of types and modules are made of letters, digits and underscores, where characters
beyond ASCII count as letters. In particular they hold no mark of a raw identifier and no bracket,
so they are their own bare form. No module is called `mod`.
-/

namespace SchemaStructs.Identifier

open Text

/-- Every character of the text is an underscore or, if it is in ASCII, a letter or digit. -/
def IsPlainName (s : String) : Prop := ∀ c ∈ s.toList, IsPlain c ∨ c = '_'

instance (s : String) : Decidable (IsPlainName s) :=
  List.decidableBAll (fun c => IsPlain c ∨ c = '_') s.toList

/-! ## Words -/

theorem isPlain_of_not_isSeparator {c : Char} (hc : ¬ isSeparator c) : IsPlain c := by
  intro hascii
  simp only [isSeparator, Bool.or_eq_true, Bool.not_eq_true', not_or, Bool.not_eq_false] at hc
  rw [← isAlphanumeric_of_ascii hascii]
  exact hc.2

theorem isPlain_of_mem_words {name word : List Char} (hword : word ∈ words name) :
    ∀ c ∈ word, IsPlain c := by
  intro c hc
  have hseparator := (runsTo_runs _ _).isSeparator_eq_false word hword c hc
  exact isPlain_of_not_isSeparator (Bool.eq_false_iff.1 hseparator)

theorem isPlain_of_mem_splitWords {name word : String} (hword : word ∈ splitWords name) :
    ∀ c ∈ word.toList, IsPlain c :=
  isPlain_of_mem_words (toList_of_mem_splitWords hword)

/-! ## Casing -/

theorem isPlain_of_mem_capitalize {word : List Char} (hword : ∀ c ∈ word, IsPlain c) :
    ∀ d ∈ capitalize word, IsPlain d := by
  cases word with
  | nil => simp [capitalize]
  | cons c rest =>
    obtain ⟨hc, hrest⟩ := List.forall_mem_cons.1 hword
    intro d hd
    rcases List.mem_append.1 hd with hd | hd
    · exact isPlain_of_mem_upperOf hc hd
    · exact isPlain_of_mem_lower hrest d hd

theorem isPlainName_pascalCase {ws : List String} (hws : ∀ w ∈ ws, ∀ c ∈ w.toList, IsPlain c) :
    IsPlainName (pascalCase ws) := by
  intro d hd
  rw [pascalCase, String.toList_ofList, List.mem_flatMap] at hd
  obtain ⟨w, hw, hd⟩ := hd
  exact Or.inl (isPlain_of_mem_capitalize (hws w hw) d hd)

theorem toList_snakeCase (ws : List String) :
    (snakeCase ws).toList = ['_'].intercalate (ws.map fun w => lower w.toList) := by
  have hmark : "_".toList = ['_'] := by decide
  simp only [snakeCase, String.toList_intercalate, hmark, List.map_map, Function.comp_def,
    lowercase, String.toList_ofList]

theorem mem_snakeCase {ws : List String} {d : Char} (hd : d ∈ (snakeCase ws).toList) :
    (∃ w ∈ ws, d ∈ lower w.toList) ∨ d = '_' := by
  rw [toList_snakeCase] at hd
  induction ws with
  | nil => cases hd
  | cons w rest ih =>
    cases rest with
    | nil =>
      rw [List.map_singleton, List.intercalate_singleton] at hd
      exact Or.inl ⟨w, List.mem_cons_self, hd⟩
    | cons w' rest =>
      rw [List.map_cons] at ih
      rw [List.map_cons, List.map_cons, List.intercalate_cons_cons, List.mem_append,
        List.mem_append, List.mem_singleton] at hd
      rcases hd with (hd | hd) | hd
      · exact Or.inl ⟨w, List.mem_cons_self, hd⟩
      · exact Or.inr hd
      · refine (ih hd).imp_left ?_
        rintro ⟨w, hw, hd⟩
        exact ⟨w, List.mem_cons_of_mem _ hw, hd⟩

theorem isPlainName_snakeCase {ws : List String} (hws : ∀ w ∈ ws, ∀ c ∈ w.toList, IsPlain c) :
    IsPlainName (snakeCase ws) := by
  intro d hd
  refine (mem_snakeCase hd).imp_left ?_
  rintro ⟨w, hw, hd⟩
  exact isPlain_of_mem_lower (hws w hw) d hd

/-! ## Singulars

A property of characters is kept by the singular of a word if lower-case letters have it and a line
end has not: the rules write letters only, and they look past a line end. -/

theorem isAlphanum_of_isLower {c : Char} (hc : c.isLower = true) : c.isAlphanum = true := by
  show (c.isUpper || c.isLower || c.isDigit) = true
  rw [hc, Bool.or_true, Bool.true_or]

section Singulars

variable {p : Char → Prop} (hletter : ∀ c : Char, c.isLower = true → p c) (hlineEnd : ¬ p '\n')

include hletter hlineEnd

theorem forall_mem_singularByRule {word : List Char} (hword : ∀ c ∈ word, p c) :
    ∀ c ∈ singularByRule word, p c := by
  have hendings : (pluralRules.flatMap PluralRule.inflections).all fun i =>
    i.singular.all Char.isLower := by
    decide +kernel
  have hline : word.getLast? ≠ some '\n' := fun h => hlineEnd (hword _ (List.mem_of_getLast? h))
  intro c hc
  rw [singularByRule_eq hline, List.mem_reverse] at hc
  cases hsingular : firstSingular? pluralRules word.reverse with
  | none =>
    rw [hsingular, Option.getD_none, List.mem_reverse] at hc
    exact hword c hc
  | some singular =>
    obtain ⟨i, hi, rest, hplural, rfl, -⟩ := exists_inflection_of_firstSingular hsingular
    rw [hsingular, Option.getD_some, List.mem_append] at hc
    rcases hc with hc | hc
    · exact hletter c (List.all_eq_true.1 (List.all_eq_true.1 hendings i hi) c hc)
    · exact hword c (List.mem_reverse.1 (hplural ▸ List.mem_append_right _ hc))

theorem forall_mem_singularize {word : String} (hword : ∀ c ∈ word.toList, p c) :
    ∀ c ∈ (singularize word).toList, p c := by
  unfold singularize
  split
  · exact hword
  · split
    · rename_i singular hlookup
      obtain ⟨l₁, l₂, hl, -⟩ := List.lookup_eq_some_iff.1 hlookup
      have hirregular : irregularSingulars.all fun e => e.2.toList.all Char.isLower := by decide
      have hmem : (word, singular) ∈ irregularSingulars := by rw [hl]; simp
      exact fun c hc => hletter c (List.all_eq_true.1 (List.all_eq_true.1 hirregular _ hmem) c hc)
    · rw [String.toList_ofList]
      exact forall_mem_singularByRule hletter hlineEnd hword

theorem forall_mem_singularLast (hlower : ∀ word, (∀ c ∈ word, p c) → ∀ c ∈ lower word, p c)
    {ws : List String} (hws : ∀ w ∈ ws, ∀ c ∈ w.toList, p c) :
    ∀ w ∈ singularLast ws, ∀ c ∈ w.toList, p c := by
  fun_induction singularLast ws with
  | case1 => exact hws
  | case2 word =>
    intro w hw
    obtain rfl := List.mem_singleton.1 hw
    apply forall_mem_singularize hletter hlineEnd
    rw [lowercase, String.toList_ofList]
    exact hlower _ (hws word List.mem_cons_self)
  | case3 word rest hrest ih =>
    obtain ⟨hword, hrest⟩ := List.forall_mem_cons.1 hws
    exact List.forall_mem_cons.2 ⟨hword, ih hrest⟩

end Singulars

/-! ## Identifiers -/

theorem IsPlainName.append_underscore {s : String} (h : IsPlainName s) :
    IsPlainName (s ++ "_") := by
  intro c hc
  rw [String.toList_append, List.mem_append] at hc
  rcases hc with hc | hc
  · exact h c hc
  · exact Or.inr (List.mem_singleton.1 hc)

theorem IsPlainName.afterDigit {s : String} (h : IsPlainName s) : IsPlainName (afterDigit s) := by
  unfold Identifier.afterDigit
  split
  · intro c hc
    rw [String.toList_append, List.mem_append] at hc
    rcases hc with hc | hc
    · exact Or.inr (List.mem_singleton.1 hc)
    · exact h c hc
  · exact h

theorem IsPlainName.avoidKeyword {s : String} (h : IsPlainName s) :
    IsPlainName (avoidKeyword s) := by
  unfold Identifier.avoidKeyword
  split
  · exact h.append_underscore
  · exact h

theorem isPlainName_ofTypeWords {fallback : String} (hfallback : IsPlainName fallback)
    {ws : List String} (hws : ∀ w ∈ ws, ∀ c ∈ w.toList, IsPlain c) :
    IsPlainName (ofTypeWords fallback ws) := by
  refine IsPlainName.avoidKeyword ?_
  split
  · exact hfallback
  · exact (isPlainName_pascalCase hws).afterDigit

theorem isPlainName_typeName (raw : String) : IsPlainName (typeName raw) :=
  isPlainName_ofTypeWords (by decide) fun _ => isPlain_of_mem_splitWords

theorem isPlainName_variantName (label : String) : IsPlainName (variantName label) :=
  isPlainName_ofTypeWords (by decide) fun _ => isPlain_of_mem_splitWords

theorem isPlainName_tableName (singular : Bool) (raw : String) :
    IsPlainName (tableName singular raw) := by
  apply isPlainName_ofTypeWords (by decide)
  have hwords : ∀ w ∈ splitWords raw, ∀ c ∈ w.toList, IsPlain c :=
    fun _ => isPlain_of_mem_splitWords
  split
  · have hletter : ∀ c : Char, c.isLower = true → IsPlain c :=
      fun c hc _ => isAlphanum_of_isLower hc
    exact forall_mem_singularLast hletter (by decide) (fun _ => isPlain_of_mem_lower) hwords
  · exact hwords

/-- The field of a column may be a raw identifier. -/
theorem columnName_cases (raw : String) :
    ∃ name, IsPlainName name ∧ (columnName raw = name ∨ columnName raw = "r#" ++ name) := by
  have hname : IsPlainName (if (splitWords raw).isEmpty then "field"
      else afterDigit (snakeCase (splitWords raw))) := by
    split
    · decide
    · exact (isPlainName_snakeCase fun _ => isPlain_of_mem_splitWords).afterDigit
  have hescape : ∀ name, IsPlainName name →
      ∃ name', IsPlainName name' ∧
        ((if isNonRawKeyword name then name ++ "_" else if isKeyword name then "r#" ++ name
          else name) = name' ∨
          (if isNonRawKeyword name then name ++ "_" else if isKeyword name then "r#" ++ name
            else name) = "r#" ++ name') := by
    intro name hname
    split
    · exact ⟨_, hname.append_underscore, Or.inl rfl⟩
    · split
      · exact ⟨name, hname, Or.inr rfl⟩
      · exact ⟨name, hname, Or.inl rfl⟩
  exact hescape _ hname

theorem isPlainName_moduleName (struct : String) : IsPlainName (moduleName struct) := by
  refine IsPlainName.avoidKeyword ?_
  split
  · decide
  · exact (isPlainName_snakeCase fun w hw => isPlain_of_mem_splitWords hw).afterDigit

theorem IsPlainName.not_mem {s : String} (h : IsPlainName s) {c : Char} (hc : ¬ IsPlain c)
    (hne : c ≠ '_') : c ∉ s.toList :=
  fun hmem => (h c hmem).elim hc hne

/-- Without a mark of its raw form an identifier is its own bare form. -/
theorem IsPlainName.bare_eq {s : String} (h : IsPlainName s) : bare s = s := by
  unfold bare
  split
  · rename_i rest hs
    exact absurd (show '#' ∈ s.toList by simp [hs]) (h.not_mem (by decide) (by decide))
  · rfl

/-- No keyword ends in an underscore. -/
theorem isKeyword_append_underscore (s : String) : isKeyword (s ++ "_") = false := by
  have hkeywords : ∀ k ∈ strictKeywords ++ reservedKeywords,
      k.toList.getLast? ≠ some '_' := by decide
  rw [Bool.eq_false_iff]
  intro hkeyword
  refine hkeywords (s ++ "_") (by simpa [isKeyword] using hkeyword) ?_
  rw [String.toList_append, List.getLast?_append]
  rfl

theorem isKeyword_avoidKeyword (s : String) : isKeyword (avoidKeyword s) = false := by
  unfold avoidKeyword
  split
  · exact isKeyword_append_underscore s
  · rename_i hkeyword
    exact Bool.eq_false_iff.2 hkeyword

/-- The name of the index is taken by no module. -/
theorem moduleName_ne_mod (struct : String) : moduleName struct ≠ "mod" := by
  intro hmod
  have hkeyword : isKeyword (moduleName struct) = false := isKeyword_avoidKeyword _
  rw [hmod] at hkeyword
  exact absurd hkeyword (by decide)

end SchemaStructs.Identifier
