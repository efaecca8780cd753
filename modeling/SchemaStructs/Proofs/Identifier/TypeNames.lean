import SchemaStructs.Proofs.Identifier.Characters

/-!
# Types and modules of one name

For a name in ASCII, the identifier of a type starts with a capital or, if a digit comes first, with
an underscore before it. A module has no capitals. So a module has the name of a type only if the
name starts with a digit, and then the type is the struct of that very module.
-/

namespace SchemaStructs.Identifier

open Text

/-! ## Letters and digits of ASCII -/

def IsAscii (s : List Char) : Prop := ∀ c ∈ s, c.toNat < 0x80

/-- A letter or digit of ASCII. -/
def IsWordChar (c : Char) : Prop := c.toNat < 0x80 ∧ c.isAlphanum = true

/-- A text of letters and digits of ASCII. -/
def IsWord (s : List Char) : Prop := ∀ c ∈ s, IsWordChar c

instance (s : List Char) : Decidable (IsAscii s) :=
  List.decidableBAll (fun c : Char => c.toNat < 0x80) s

instance (c : Char) : Decidable (IsWordChar c) := inferInstanceAs (Decidable (_ ∧ _))

instance (s : List Char) : Decidable (IsWord s) := List.decidableBAll IsWordChar s

/-- How a letter or digit of ASCII behaves in words and casing. -/
structure CharCasing (c : Char) : Prop where
  isSeparator_eq_false : isSeparator c = false
  toUpper : IsWordChar c.toUpper
  toLower : IsWordChar c.toLower
  isCapital_or_isDigit_toUpper : isCapital c.toUpper = true ∨ isDigit c.toUpper = true
  isCapital_toLower : isCapital c.toLower = false
  isDigit_eq_false : isCapital c = true → isDigit c = false
  toLower_eq_self : isCapital c = false → c.toLower = c
  endsWord_eq_true : isCapital c = false → endsWord c = true
  isCapital_eq_false : isDigit c.toLower = true → isCapital c = false

instance (c : Char) : Decidable (CharCasing c) :=
  decidable_of_iff
    (isSeparator c = false ∧ IsWordChar c.toUpper ∧ IsWordChar c.toLower ∧
      (isCapital c.toUpper = true ∨ isDigit c.toUpper = true) ∧ isCapital c.toLower = false ∧
      (isCapital c = true → isDigit c = false) ∧ (isCapital c = false → c.toLower = c) ∧
      (isCapital c = false → endsWord c = true) ∧ (isDigit c.toLower = true → isCapital c = false))
    ⟨fun ⟨h₁, h₂, h₃, h₄, h₅, h₆, h₇, h₈, h₉⟩ => ⟨h₁, h₂, h₃, h₄, h₅, h₆, h₇, h₈, h₉⟩,
      fun ⟨h₁, h₂, h₃, h₄, h₅, h₆, h₇, h₈, h₉⟩ => ⟨h₁, h₂, h₃, h₄, h₅, h₆, h₇, h₈, h₉⟩⟩

namespace IsWordChar

variable {c : Char}

theorem casing (hc : IsWordChar c) : CharCasing c :=
  ascii_forall (p := fun c => IsWordChar c → CharCasing c) (by decide +kernel) c hc.1 hc

theorem ne_underscore (hc : IsWordChar c) : c ≠ '_' := by
  rintro rfl
  exact absurd hc (by decide)

theorem of_not_isSeparator (hascii : c.toNat < 0x80) (hc : isSeparator c = false) : IsWordChar c :=
  ⟨hascii, isPlain_of_not_isSeparator (Bool.eq_false_iff.1 hc) hascii⟩

end IsWordChar

/-! ## Words of ASCII names -/

theorem lower_eq_map {s : List Char} (hs : IsWord s) : lower s = s.map Char.toLower :=
  lower_of_ascii fun c hc => (hs c hc).1

theorem isWord_lower {s : List Char} (hs : IsWord s) : IsWord (lower s) := by
  intro d hd
  rw [lower_eq_map hs] at hd
  obtain ⟨c, hc, rfl⟩ := List.mem_map.1 hd
  exact (hs c hc).casing.toLower

theorem filter_isSeparator_eq_self {s : List Char} (hs : IsWord s) :
    s.filter (!isSeparator ·) = s := by
  refine List.filter_eq_self.2 fun c hc => ?_
  rw [(hs c hc).casing.isSeparator_eq_false, Bool.not_false]

theorem isWord_of_mem_splitWords {name word : String} (hname : IsAscii name.toList)
    (hword : word ∈ splitWords name) : IsWord word.toList := by
  intro c hc
  have hmem : c ∈ (words name.toList).flatten :=
    List.mem_flatten.2 ⟨word.toList, toList_of_mem_splitWords hword, hc⟩
  rw [flatten_words, List.mem_filter] at hmem
  exact .of_not_isSeparator (hname c hmem.1) (by simpa using hmem.2)

theorem ne_nil_of_mem_splitWords {name word : String} (hword : word ∈ splitWords name) :
    word.toList ≠ [] :=
  ne_nil_of_mem_words (toList_of_mem_splitWords hword)

/-- A word that can stand in an identifier. -/
structure IsNameWord (w : String) : Prop where
  ne_nil : w.toList ≠ []
  isWord : IsWord w.toList

theorem isNameWord_of_mem_splitWords {name word : String} (hname : IsAscii name.toList)
    (hword : word ∈ splitWords name) : IsNameWord word :=
  ⟨ne_nil_of_mem_splitWords hword, isWord_of_mem_splitWords hname hword⟩

theorem IsNameWord.exists_cons {w : String} (hw : IsNameWord w) :
    ∃ c rest, w.toList = c :: rest ∧ IsWordChar c := by
  obtain ⟨c, rest, hcons⟩ := List.exists_cons_of_ne_nil hw.ne_nil
  exact ⟨c, rest, hcons, hw.isWord c (hcons ▸ List.mem_cons_self)⟩

theorem isWord_capitalize {word : List Char} (hword : IsWord word) : IsWord (capitalize word) := by
  cases word with
  | nil => exact hword
  | cons c rest =>
    obtain ⟨hc, hrest⟩ := List.forall_mem_cons.1 hword
    rw [capitalize, upperOf, if_pos hc.1, List.singleton_append]
    exact List.forall_mem_cons.2 ⟨hc.casing.toUpper, isWord_lower hrest⟩

/-- A word that starts with no capital has none. -/
theorem toLower_eq_self_of_isChain {c : Char} {s : List Char} (hchain : (c :: s).IsChain NoBorder)
    (hword : IsWord (c :: s)) (hc : isCapital c = false) :
    ∀ d ∈ c :: s, d.toLower = d := by
  induction s generalizing c with
  | nil =>
    intro d hd
    obtain rfl := List.mem_singleton.1 hd
    exact (hword d hd).casing.toLower_eq_self hc
  | cons d rest ih =>
    obtain ⟨hborder, hchain⟩ := List.isChain_cons_cons.1 hchain
    obtain ⟨hcword, hword⟩ := List.forall_mem_cons.1 hword
    rw [NoBorder, hcword.casing.endsWord_eq_true hc, Bool.true_and] at hborder
    exact List.forall_mem_cons.2 ⟨hcword.casing.toLower_eq_self hc, ih hchain hword hborder⟩

/-! ## Singulars -/

theorem isWord_of_mem_singularLast {ws : List String} (hws : ∀ w ∈ ws, IsWord w.toList) :
    ∀ w ∈ singularLast ws, IsWord w.toList := by
  have hletter : ∀ c : Char, c.isLower = true → IsWordChar c := by
    intro c hc
    refine ⟨?_, isAlphanum_of_isLower hc⟩
    obtain ⟨-, hle⟩ := (Bool.and_eq_true_iff (x := decide (c ≥ 'a'))).1 hc
    have hle : c.toNat ≤ 'z'.toNat := of_decide_eq_true hle
    exact Nat.lt_of_le_of_lt hle (by decide)
  exact forall_mem_singularLast hletter (by decide) (fun _ => isWord_lower) hws

/-! ## Escapes -/

theorem isKeyword_eq_false {s : String} (hs : s.toList.head? = some '_') : isKeyword s = false := by
  have hkeywords : ∀ k ∈ strictKeywords ++ reservedKeywords, k.toList.head? ≠ some '_' := by decide
  rw [Bool.eq_false_iff]
  intro hkeyword
  refine hkeywords s ?_ hs
  simpa [isKeyword] using hkeyword

theorem mem_avoidKeyword {s : String} {c : Char} (hc : c ∈ (avoidKeyword s).toList) :
    c ∈ s.toList ∨ c = '_' := by
  unfold avoidKeyword at hc
  split at hc
  · rw [String.toList_append, List.mem_append] at hc
    exact hc.imp_right List.mem_singleton.1
  · exact Or.inl hc

theorem mem_afterDigit {s : String} {c : Char} (hc : c ∈ (afterDigit s).toList) :
    c ∈ s.toList ∨ c = '_' := by
  unfold afterDigit at hc
  split at hc
  · rw [String.toList_append, List.mem_append] at hc
    exact hc.symm.imp_right List.mem_singleton.1
  · exact Or.inl hc

/-- An identifier that would start with a digit starts with an underscore, and is no keyword. -/
theorem toList_escaped_of_isDigit {s : String} {c : Char} (hs : s.toList.head? = some c)
    (hc : isDigit c = true) : (avoidKeyword (afterDigit s)).toList = '_' :: s.toList := by
  have hafter : afterDigit s = "_" ++ s := by simp [afterDigit, hs, hc]
  rw [hafter, avoidKeyword, isKeyword_eq_false (by simp)]
  simp

theorem head?_escaped {s : String} {c : Char} (hs : s.toList.head? = some c)
    (hc : isDigit c = false) : (avoidKeyword (afterDigit s)).toList.head? = some c := by
  have hafter : afterDigit s = s := by simp [afterDigit, hs, hc]
  rw [hafter, avoidKeyword]
  split
  · rw [String.toList_append, List.head?_append, hs]
    rfl
  · exact hs

/-! ## Types -/

/-- How the identifier of a type starts. -/
inductive IsTypeName : List Char → Prop
  | empty : IsTypeName []
  | capital {c : Char} {s : List Char} : isCapital c = true → IsWordChar c → IsAscii s →
      IsTypeName (c :: s)
  | digit {c : Char} {s : List Char} :
    isDigit c = true → IsWord (c :: s) → IsTypeName ('_' :: c :: s)

theorem isWord_pascalCase {ws : List String} (hws : ∀ w ∈ ws, IsWord w.toList) :
    IsWord (pascalCase ws).toList := by
  intro c hc
  rw [pascalCase, String.toList_ofList, List.mem_flatMap] at hc
  obtain ⟨w, hw, hc⟩ := hc
  exact isWord_capitalize (hws w hw) c hc

theorem head?_pascalCase {ws : List String} (hws : ∀ w ∈ ws, IsWord w.toList) :
    ∀ c ∈ (pascalCase ws).toList.head?, isCapital c = true ∨ isDigit c = true := by
  rw [pascalCase, String.toList_ofList]
  induction ws with
  | nil =>
    intro c hc
    cases hc
  | cons w rest ih =>
    obtain ⟨hw, hrest⟩ := List.forall_mem_cons.1 hws
    rw [List.flatMap_cons]
    cases hword : w.toList with
    | nil => exact ih hrest
    | cons d others =>
      have hd : IsWordChar d := hw d (hword ▸ List.mem_cons_self)
      rw [capitalize, upperOf, if_pos hd.1]
      intro c hc
      cases hc
      exact hd.casing.isCapital_or_isDigit_toUpper

theorem isTypeName_ofTypeWords {fallback : String} {ws : List String}
    (hfallback : IsTypeName (avoidKeyword fallback).toList)
    (hws : ∀ w ∈ ws, IsWord w.toList) :
    IsTypeName (ofTypeWords fallback ws).toList := by
  have hchars := isWord_pascalCase hws
  have hhead := head?_pascalCase hws
  unfold ofTypeWords
  split
  · exact hfallback
  cases hp : (pascalCase ws).toList with
  | nil =>
    rw [String.toList_eq_nil_iff.1 hp, show (avoidKeyword (afterDigit "")).toList = [] by decide]
    exact .empty
  | cons c s =>
    have hc : (pascalCase ws).toList.head? = some c := by rw [hp, List.head?_cons]
    rcases hhead c hc with hcapital | hdigit
    · have hword : IsWordChar c := hchars c (hp ▸ List.mem_cons_self)
      obtain ⟨rest, hrest⟩ :=
        List.head?_eq_some_iff.1 (head?_escaped hc (hword.casing.isDigit_eq_false hcapital))
      rw [hrest]
      refine .capital hcapital hword fun d hd => ?_
      have hmem : d ∈ (avoidKeyword (afterDigit (pascalCase ws))).toList :=
        hrest ▸ List.mem_cons_of_mem c hd
      rcases mem_avoidKeyword hmem with hmem | rfl
      · rcases mem_afterDigit hmem with hmem | rfl
        · exact (hchars d hmem).1
        · decide
      · decide
    · rw [toList_escaped_of_isDigit hc hdigit, hp]
      exact .digit hdigit (hp ▸ hchars)

theorem isTypeName_typeName {raw : String} (hraw : IsAscii raw.toList) :
    IsTypeName (typeName raw).toList := by
  refine isTypeName_ofTypeWords ?_ fun _ hw => isWord_of_mem_splitWords hraw hw
  rw [show (avoidKeyword "Type").toList = ['T', 'y', 'p', 'e'] by decide]
  exact .capital (by decide) (by decide) (by decide)

theorem isTypeName_tableName {raw : String} (hraw : IsAscii raw.toList) (singular : Bool) :
    IsTypeName (tableName singular raw).toList := by
  have hwords : ∀ w ∈ splitWords raw, IsWord w.toList :=
    fun _ hw => isWord_of_mem_splitWords hraw hw
  refine isTypeName_ofTypeWords ?_ ?_
  · rw [show (avoidKeyword "Table").toList = ['T', 'a', 'b', 'l', 'e'] by decide]
    exact .capital (by decide) (by decide) (by decide)
  · split
    · exact isWord_of_mem_singularLast hwords
    · exact hwords

theorem IsTypeName.isAscii {s : List Char} (hs : IsTypeName s) : IsAscii s := by
  cases hs with
  | empty => decide
  | capital _ hc hs => exact List.forall_mem_cons.2 ⟨hc.1, hs⟩
  | digit _ hs => exact List.forall_mem_cons.2 ⟨by decide, fun d hd => (hs d hd).1⟩

theorem IsTypeName.bare_eq {s : String} (hs : IsTypeName s.toList) : bare s = s := by
  unfold bare
  split
  · rename_i rest hraw
    rw [hraw] at hs
    cases hs with
    | capital hc => exact absurd hc (by decide)
  · rfl

theorem IsTypeName.head?_eq {s : List Char} (hs : IsTypeName s) {c : Char} (hc : s.head? = some c) :
    isCapital c = true ∨ c = '_' := by
  cases hs with
  | empty => cases hc
  | capital hcapital =>
    cases hc
    exact Or.inl hcapital
  | digit =>
    cases hc
    exact Or.inr rfl

/-! ## Modules -/

theorem IsNameWord.head?_snakeCase {w : String} (hw : IsNameWord w) (rest : List String) :
    ∃ c, IsWordChar c ∧ (snakeCase (w :: rest)).toList.head? = some c.toLower := by
  obtain ⟨c, others, hcons, hc⟩ := hw.exists_cons
  refine ⟨c, hc, ?_⟩
  rw [toList_snakeCase, List.map_cons, lower_eq_map hw.isWord, hcons, List.map_cons]
  cases rest with
  | nil => rw [List.map_nil, List.intercalate_singleton, List.head?_cons]
  | cons w' rest =>
    rw [List.map_cons, List.intercalate_cons_cons, List.cons_append, List.cons_append,
      List.head?_cons]

/-- Words in snake case without an underscore are one word. -/
theorem exists_eq_singleton_of_snakeCase {ws : List String} (hne : ws ≠ [])
    (hs : '_' ∉ (snakeCase ws).toList) : ∃ w, ws = [w] := by
  obtain ⟨w, rest, rfl⟩ := List.exists_cons_of_ne_nil hne
  cases rest with
  | nil => exact ⟨w, rfl⟩
  | cons w' rest =>
    rw [toList_snakeCase, List.map_cons, List.map_cons, List.intercalate_cons_cons] at hs
    simp at hs

/-- A module starts with a small letter, or with an underscore before its words. -/
theorem moduleName_cases {s : String} (hs : IsTypeName s.toList) :
    (∃ c, (moduleName s).toList.head? = some c ∧ c ≠ '_' ∧ isCapital c = false) ∨
      splitWords s ≠ [] ∧ (moduleName s).toList = '_' :: (snakeCase (splitWords s)).toList := by
  rw [moduleName, hs.bare_eq]
  cases hwords : splitWords s with
  | nil => exact Or.inl ⟨'m', by decide, by decide, by decide⟩
  | cons w rest =>
    have hw : w ∈ splitWords s := hwords ▸ List.mem_cons_self
    obtain ⟨c, hc, hhead⟩ := (isNameWord_of_mem_splitWords hs.isAscii hw).head?_snakeCase rest
    show (∃ d, (avoidKeyword (afterDigit (snakeCase (w :: rest)))).toList.head? = some d ∧ _) ∨ _
    cases hdigit : isDigit c.toLower with
    | false =>
      exact Or.inl ⟨_, head?_escaped hhead hdigit, hc.casing.toLower.ne_underscore,
        hc.casing.isCapital_toLower⟩
    | true => exact Or.inr ⟨List.cons_ne_nil _ _, toList_escaped_of_isDigit hhead hdigit⟩

/-- The words of a name that is one word. -/
theorem filter_of_splitWords_eq_singleton {name w : String} (h : splitWords name = [w]) :
    w.toList = name.toList.filter (!isSeparator ·) ∧ w.toList.IsChain NoBorder := by
  obtain ⟨word, hwords, hw⟩ := List.map_eq_singleton_iff.1 h
  obtain rfl := hw
  rw [String.toList_ofList, ← flatten_words, hwords]
  exact ⟨by simp, isChain_of_mem_words (hwords ▸ List.mem_cons_self)⟩

/-- A word that in lower case starts with a digit is in lower case. -/
theorem toList_eq_of_snakeCase {w : String} (hchars : IsWord w.toList)
    (hchain : w.toList.IsChain NoBorder) {c : Char} {s : List Char}
    (h : (snakeCase [w]).toList = c :: s) (hc : isDigit c = true) : w.toList = c :: s := by
  rw [toList_snakeCase, List.map_singleton, List.intercalate_singleton, lower_eq_map hchars] at h
  rw [← h]
  cases hw : w.toList with
  | nil => rfl
  | cons d rest =>
    rw [hw] at h hchars hchain
    obtain ⟨rfl, -⟩ := List.cons.inj h
    have hd : isCapital d = false := (hchars d List.mem_cons_self).casing.isCapital_eq_false hc
    rw [List.map_congr_left (toLower_eq_self_of_isChain hchain hchars hd), List.map_id']

/-- A module has the name of a type only if that type is its struct. -/
theorem eq_moduleName_of_isTypeName {s : String} (hs : IsTypeName s.toList)
    (hmodule : IsTypeName (moduleName s).toList) : s = moduleName s := by
  rcases moduleName_cases hs with ⟨c, hhead, hne, hsmall⟩ | ⟨hwords, hname⟩
  · rcases hmodule.head?_eq hhead with hcapital | rfl
    · exact absurd hsmall (by simp [hcapital])
    · exact absurd rfl hne
  rw [hname] at hmodule
  generalize hsnake : (snakeCase (splitWords s)).toList = snake at hmodule hname
  cases hmodule with
  | capital hcapital => exact absurd hcapital (by decide)
  | digit hdigit hsnakeChars =>
    -- After its underscore the module is one word that starts with a digit. That word is the struct
    -- without its separators, and the struct has no other separator than an underscore in front.
    have hmark : '_' ∉ (snakeCase (splitWords s)).toList := by
      rw [hsnake]
      exact fun hmem => (hsnakeChars '_' hmem).ne_underscore rfl
    obtain ⟨w, hw⟩ := exists_eq_singleton_of_snakeCase hwords hmark
    obtain ⟨hfilter, hchain⟩ := filter_of_splitWords_eq_singleton hw
    have hchars := isWord_of_mem_splitWords hs.isAscii (hw ▸ List.mem_cons_self : w ∈ splitWords s)
    have hword := toList_eq_of_snakeCase hchars hchain (hw ▸ hsnake) hdigit
    rw [hword] at hfilter
    generalize hlist : s.toList = list at hs hfilter
    cases hs with
    | empty => cases hfilter
    | capital hcapital hd =>
      rw [List.filter_cons_of_pos (by simp [hd.casing.isSeparator_eq_false])] at hfilter
      obtain ⟨rfl, -⟩ := List.cons.inj hfilter
      exact absurd hdigit (by simp [hd.casing.isDigit_eq_false hcapital])
    | digit _ hnameChars =>
      rw [List.filter_cons_of_neg (by decide), filter_isSeparator_eq_self hnameChars] at hfilter
      rw [← String.toList_inj, hlist, hname, hfilter]

end SchemaStructs.Identifier
