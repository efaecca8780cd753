import SchemaStructs.Proofs.Identifier.Characters
import SchemaStructs.Proofs.Identifier.Inflections

/-!
# Singulars of singulars

Where the ending that a rule puts in place overlaps with a plural ending, exchanging that one
changes nothing. This is a finite check of the inflections, and it leaves only the last rule: behind
an `s` that it takes away another plural may stand. So the words whose singular has another singular
are those in which an `s` follows a plural in another form, or what looks like one.
-/

namespace SchemaStructs.Identifier

/-! ## Overlaps -/

/-- One of two texts starts with the other one. -/
def meets (s t : List Char) : Bool := s.isPrefixOf t || t.isPrefixOf s

theorem meets_of_append_eq {s t rest rest' : List Char} (h : s ++ rest = t ++ rest') :
    meets s t = true := by
  have hs : s <+: s ++ rest := List.prefix_append _ _
  have ht : t <+: s ++ rest := h ▸ List.prefix_append _ _
  rw [meets, Bool.or_eq_true, List.isPrefixOf_iff_prefix, List.isPrefixOf_iff_prefix]
  exact List.prefix_or_prefix_of_prefix hs ht

def specialInflections : List Inflection := specialRules.flatMap PluralRule.inflections

/-- A plural ending that is not singular as well overlaps with no singular ending. -/
theorem plural_eq_singular_or_apart : ∀ j ∈ specialInflections, j.plural = j.singular ∨
    ∀ i ∈ specialInflections, meets i.singular j.plural = false := by
  decide +kernel

/-- Endings, in reverse order, behind which the last rule is not asked. -/
def keptEndings : List (List Char) := ["ss", "us", "is", "alias"].map (·.toList.reverse)

theorem firstSingular?_of_mem_keptEndings {ending : List Char} (hending : ending ∈ keptEndings)
    (rest : List Char) : firstSingular? specialRules (ending ++ rest) ≠ none := by
  have hss : (⟨[.endingIn ["ss"]], [""], ""⟩ : PluralRule) ∈ specialRules := by decide
  have hus : (⟨[.endingIn ["us"]], [""], ""⟩ : PluralRule) ∈ specialRules := by decide
  have his : (⟨[.endingIn ["is"]], [""], ""⟩ : PluralRule) ∈ specialRules := by decide
  have halias : (⟨[.endingIn ["alias", "status"]], ["es", ""], ""⟩ : PluralRule) ∈
      specialRules := by decide
  simp only [keptEndings, List.map_cons, List.map_nil, List.mem_cons, List.not_mem_nil,
    or_false] at hending
  rcases hending with rfl | rfl | rfl | rfl
  · exact firstSingular?_ne_none hss rfl
  · exact firstSingular?_ne_none hus rfl
  · exact firstSingular?_ne_none his rfl
  · exact firstSingular?_ne_none halias rfl

theorem exists_keptEnding_of_head?_singular :
    ∀ i ∈ specialInflections, i.singular.head? = some 's' →
    ∃ ending ∈ keptEndings, ending <+: i.singular := by
  decide +kernel

theorem singular_ne_nil : ∀ i ∈ specialInflections, i.singular ≠ [] := by
  decide +kernel

/-- The singular of a text that is in no list, both in reverse order. -/
def singularOf (reversed : List Char) : List Char :=
  (firstSingular? pluralRules reversed).getD reversed

/-- A singular by one of the special rules is its own singular. -/
theorem singularOf_of_special {reversed singular : List Char}
    (h : firstSingular? specialRules reversed = some singular) :
    singularOf singular = singular := by
  obtain ⟨i, hi, rest, -, hsingular, -⟩ := exists_inflection_of_firstSingular h
  rw [singularOf, firstSingular?_pluralRules]
  cases hagain : firstSingular? specialRules singular with
  | some singular' =>
    obtain ⟨j, hj, rest', hplural, rfl, -⟩ := exists_inflection_of_firstSingular hagain
    have hmeets : meets i.singular j.plural = true :=
      meets_of_append_eq (hsingular.symm.trans hplural)
    rcases plural_eq_singular_or_apart j hj with hsame | hapart
    · rw [Option.some_or, Option.getD_some, hplural, hsame]
    · rw [hapart i hi] at hmeets
      cases hmeets
  | none =>
    -- The last rule is not asked: an ending with an `s` is one of those that special rules keep.
    suffices hlast : withoutS? singular = none by rw [hlast, Option.or_none, Option.getD_none]
    obtain ⟨c, others, hcons⟩ := List.exists_cons_of_ne_nil (singular_ne_nil i hi)
    rw [hsingular, hcons, List.cons_append]
    by_cases hc : c = 's'
    · obtain ⟨ending, hending, more, hmore⟩ :=
        exists_keptEnding_of_head?_singular i hi (by rw [hcons, hc, List.head?_cons])
      rw [hsingular, ← hmore, List.append_assoc] at hagain
      exact absurd hagain (firstSingular?_of_mem_keptEndings hending _)
    · simp [withoutS?, hc]

/-! ## Words in lists -/

def irregularPlurals : List String := irregularSingulars.map Prod.fst

/-- Words that are looked up and not taken apart. -/
def listedWords : List String := uncountables ++ irregularPlurals

theorem singularize_of_not_mem {word : String} (hlisted : word ∉ listedWords)
    (hword : '\n' ∉ word.toList) :
    singularize word = .ofList (singularOf word.toList.reverse).reverse := by
  rw [listedWords, List.mem_append, not_or] at hlisted
  have hlookup : irregularSingulars.lookup word = none := by
    rw [List.lookup_eq_none_iff]
    rintro ⟨plural, singular⟩ hp
    rw [bne_iff_ne]
    rintro rfl
    exact hlisted.2 (List.mem_map_of_mem hp)
  unfold singularize
  rw [if_neg (by simpa using hlisted.1), hlookup, singularByRule_eq (mt List.mem_of_getLast? hword),
    singularOf]

theorem singularize_eq_self_iff {word : String} (hword : '\n' ∉ word.toList) :
    singularize word = word ↔
      word ∈ uncountables ∨ word ∉ irregularPlurals ∧
        singularOf word.toList.reverse = word.toList.reverse := by
  have huncountable : ∀ w ∈ uncountables, singularize w = w := by decide +kernel
  have hirregular : ∀ w ∈ irregularPlurals, w ∉ uncountables ∧ singularize w ≠ w := by
    decide +kernel
  by_cases huncount : word ∈ uncountables
  · exact iff_of_true (huncountable word huncount) (Or.inl huncount)
  by_cases hirreg : word ∈ irregularPlurals
  · exact iff_of_false (hirregular word hirreg).2 (by tauto)
  have hlisted : word ∉ listedWords := by
    rw [listedWords, List.mem_append, not_or]
    exact ⟨huncount, hirreg⟩
  rw [singularize_of_not_mem hlisted hword, or_iff_right huncount, and_iff_right hirreg]
  constructor
  · intro h
    have hlist := congrArg (·.toList.reverse) h
    simpa using hlist
  · intro h
    rw [h, List.reverse_reverse, String.ofList_toList]

theorem not_mem_irregularPlurals {reversed singular : List Char}
    (h : firstSingular? specialRules reversed = some singular) :
    String.ofList singular.reverse ∉ irregularPlurals := by
  have hapart : ∀ w ∈ irregularPlurals, ∀ i ∈ specialInflections,
      meets w.toList.reverse i.singular = false := by
    decide +kernel
  obtain ⟨i, hi, rest, -, hsingular, -⟩ := exists_inflection_of_firstSingular h
  intro hmem
  have hmeets := meets_of_append_eq ((List.append_nil singular).trans hsingular)
  have hfalse := hapart _ hmem i hi
  rw [String.toList_ofList, List.reverse_reverse, hmeets] at hfalse
  cases hfalse

theorem not_mem_singularize {word : String} (hword : '\n' ∉ word.toList) :
    '\n' ∉ (singularize word).toList := by
  have hletter : ∀ c : Char, c.isLower = true → c ≠ '\n' := by
    rintro c hc rfl
    exact absurd hc (by decide)
  have hchars : ∀ c ∈ word.toList, c ≠ '\n' := fun c hc hline => hword (hline ▸ hc)
  exact fun hmem => forall_mem_singularize hletter (fun h => h rfl) hchars _ hmem rfl

/-! ## Words with two marks of the plural -/

def otherPlurals : List String :=
  ["people", "men", "women", "children", "geese", "teeth", "feet", "oxen"]

def otherEndings : List String := ["mice", "lice", "ta", "ia"]

/-- The word is a plural that has no `s`, or it looks like one. -/
def IsOtherPlural (word : String) : Prop :=
  word ∈ otherPlurals ∨
    (∃ ending ∈ otherEndings, ending.toList <:+ word.toList) ∧
      ¬ "alia".toList <:+ word.toList ∧ word ∉ ["data", "metadata"]

instance (word : String) : Decidable (IsOtherPlural word) :=
  inferInstanceAs (Decidable (_ ∨ _ ∧ _ ∧ _))

/-- An `s` follows a plural that needs none. -/
def IsDoublePlural (word : String) : Prop := ∃ plural, IsOtherPlural plural ∧ word = plural ++ "s"

theorem isDoublePlural_append_iff {stem : String} :
    IsDoublePlural (stem ++ "s") ↔ IsOtherPlural stem := by
  constructor
  · rintro ⟨plural, hplural, heq⟩
    rw [← String.toList_inj, String.toList_append, String.toList_append,
      List.append_cancel_right_eq, String.toList_inj] at heq
    rwa [heq]
  · exact fun h => ⟨stem, h, rfl⟩

theorem not_isDoublePlural_of_mem {word : String} (hword : word ∈ listedWords) :
    ¬ IsDoublePlural word := by
  have hlisted : ∀ w ∈ listedWords, ¬ IsOtherPlural (.ofList w.toList.dropLast) := by decide +kernel
  rintro ⟨plural, hplural, rfl⟩
  refine hlisted _ hword ?_
  have hlast : "s".toList = ['s'] := by decide
  rwa [String.toList_append, hlast, List.dropLast_concat, String.ofList_toList]

theorem toList_reverse_append_s (stem : String) :
    (stem ++ "s").toList.reverse = 's' :: stem.toList.reverse := by
  have hlast : "s".toList = ['s'] := by decide
  rw [String.toList_append, hlast, List.reverse_append, List.reverse_singleton,
    List.singleton_append]

theorem exists_stem_of_withoutS {word : String} {before : List Char}
    (h : withoutS? word.toList.reverse = some before) :
    ∃ stem, word = stem ++ "s" ∧ before = stem.toList.reverse := by
  rw [withoutS?_eq_some_iff] at h
  refine ⟨.ofList before.reverse, ?_, by rw [String.toList_ofList, List.reverse_reverse]⟩
  rw [← String.toList_inj, ← List.reverse_inj, toList_reverse_append_s, h, String.toList_ofList,
    List.reverse_reverse]

theorem firstSingular?_of_isOtherPlural {stem : String} (h : IsOtherPlural stem) :
    firstSingular? specialRules (stem ++ "s").toList.reverse = none := by
  have hlist : ∀ w ∈ otherPlurals,
      firstSingular? specialRules (w ++ "s").toList.reverse = none := by
    decide +kernel
  have halias : ∀ ending ∈ otherEndings, ∀ i ∈ specialInflections,
      meets ('s' :: ending.toList.reverse) i.plural = true → i.plural = "alias".toList.reverse := by
    decide +kernel
  rcases h with hstem | ⟨⟨ending, hending, hsuffix⟩, hnot, -⟩
  · exact hlist stem hstem
  · rw [Option.eq_none_iff_forall_ne_some]
    intro singular hsingular
    obtain ⟨i, hi, rest, hplural, -, -⟩ := exists_inflection_of_firstSingular hsingular
    obtain ⟨rest', hrest'⟩ := List.reverse_prefix.2 hsuffix
    rw [toList_reverse_append_s] at hplural
    have hmeets : 's' :: ending.toList.reverse ++ rest' = i.plural ++ rest := by
      rw [← hplural, ← hrest', List.cons_append]
    rw [halias ending hending i hi (meets_of_append_eq hmeets)] at hplural
    exact hnot (List.reverse_prefix.1 ⟨rest, (List.cons.inj hplural).2.symm⟩)

theorem singularize_ne_of_isOtherPlural {stem : String} (h : IsOtherPlural stem)
    (hstem : '\n' ∉ stem.toList) : singularize stem ≠ stem := by
  have hlist : ∀ w ∈ otherPlurals, singularize w ≠ w := by decide +kernel
  have hlisted : ∀ w ∈ listedWords, ∀ ending ∈ otherEndings, ending.toList <:+ w.toList →
      w ∈ ["data", "metadata"] := by
    decide +kernel
  rcases h with hmem | ⟨⟨ending, hending, hsuffix⟩, -, hdata⟩
  · exact hlist stem hmem
  have hnot : stem ∉ listedWords := fun hmem => hdata (hlisted stem hmem ending hending hsuffix)
  have huncountable : stem ∉ uncountables := fun hmem => hnot (List.mem_append_left _ hmem)
  rw [Ne, singularize_eq_self_iff hstem, or_iff_right huncountable]
  rintro ⟨-, hsame⟩
  obtain ⟨rest, hrest⟩ := List.reverse_prefix.2 hsuffix
  rw [← hrest] at hsame
  simp only [otherEndings, List.mem_cons, List.not_mem_nil, or_false] at hending
  have hcancel : ∀ {s t : String}, s.toList.reverse ++ rest = t.toList.reverse ++ rest → s = t :=
    fun h =>
    String.toList_inj.1 (List.reverse_inj.1 (List.append_cancel_right h))
  rcases hending with rfl | rfl | rfl | rfl
  · exact absurd (hcancel (s := "mouse") hsame) (by decide)
  · exact absurd (hcancel (s := "louse") hsame) (by decide)
  · exact absurd (hcancel (s := "tum") hsame) (by decide)
  · exact absurd (hcancel (s := "ium") hsame) (by decide)

/-- What a plural ending is before an `s` that the last rule takes away. -/
theorem plural_cases :
    ∀ i ∈ specialInflections,
      (∃ ending ∈ keptEndings, ending <+: 's' :: i.plural) ∨
      (i.isWhole = true ∧ i.plural = "oxen".toList.reverse) ∨
      ∃ ending ∈ otherEndings, i.plural = ending.toList.reverse := by
  decide +kernel

/-- An ending that special rules keep does not stand before the `s` that the last rule takes
away. -/
theorem not_keptEnding {stem : String}
    (hspecial : firstSingular? specialRules (stem ++ "s").toList.reverse = none) :
    ∀ ending ∈ keptEndings, ¬ ending <+: 's' :: stem.toList.reverse := by
  rintro ending hending ⟨rest, hrest⟩
  rw [toList_reverse_append_s, ← hrest] at hspecial
  exact firstSingular?_of_mem_keptEndings hending rest hspecial

theorem isOtherPlural_of_special {stem : String}
    (hspecial : firstSingular? specialRules (stem ++ "s").toList.reverse = none)
    (huncountable : stem ∉ uncountables) {singular : List Char}
    (hsingular : firstSingular? specialRules stem.toList.reverse = some singular) :
    IsOtherPlural stem := by
  have hkept := not_keptEnding hspecial
  obtain ⟨i, hi, rest, hplural, -, hwhole⟩ := exists_inflection_of_firstSingular hsingular
  rcases plural_cases i hi with
    ⟨ending, hending, hkeptEnding⟩ | ⟨hexact, hoxen⟩ | ⟨ending, hending, hother⟩
  · refine absurd (hkeptEnding.trans ?_) (hkept ending hending)
    rw [hplural]
    exact List.prefix_append _ _
  · rw [hwhole hexact, hoxen, List.append_nil, List.reverse_inj, String.toList_inj] at hplural
    exact Or.inl (by rw [hplural]; decide)
  · refine Or.inr ⟨⟨ending, hending, List.reverse_prefix.1 ⟨rest, ?_⟩⟩, ?_, ?_⟩
    · rw [hplural, hother]
    · rintro halia
      obtain ⟨more, hmore⟩ := List.reverse_prefix.2 halia
      exact hkept "alias".toList.reverse (by decide) ⟨more, by rw [← hmore]; rfl⟩
    · intro hdata
      have huncount : ∀ w ∈ ["data", "metadata"], w ∈ uncountables := by decide
      exact huncountable (huncount stem hdata)

/-- Only the plurals without `s` are no singulars where the last rule takes an `s` away. -/
theorem isOtherPlural_of_singularize_ne {stem : String} (hstem : '\n' ∉ stem.toList)
    (hspecial : firstSingular? specialRules (stem ++ "s").toList.reverse = none)
    (h : singularize stem ≠ stem) : IsOtherPlural stem := by
  have hirregular : ∀ w ∈ irregularPlurals,
      firstSingular? specialRules (w ++ "s").toList.reverse = none →
      w ∈ otherPlurals := by
    decide +kernel
  rw [Ne, singularize_eq_self_iff hstem, not_or, not_and_or, not_not] at h
  obtain ⟨huncountable, hmem | hsame⟩ := h
  · exact Or.inl (hirregular stem hmem hspecial)
  rw [singularOf, firstSingular?_pluralRules] at hsame
  cases hsingular : firstSingular? specialRules stem.toList.reverse with
  | some singular => exact isOtherPlural_of_special hspecial huncountable hsingular
  | none =>
    cases hlast : withoutS? stem.toList.reverse with
    | none => simp [hsingular, hlast] at hsame
    | some before =>
      rw [withoutS?_eq_some_iff] at hlast
      have hss : "ss".toList.reverse <+: 's' :: stem.toList.reverse := ⟨before, by rw [hlast]; rfl⟩
      exact absurd hss (not_keptEnding hspecial _ (by decide))

/-- What becomes of a word that is in no list. -/
inductive SingularizesTo : String → String → Prop
  | special {word : String} {singular : List Char} :
      firstSingular? specialRules word.toList.reverse = some singular →
      SingularizesTo word (.ofList singular.reverse)
  | withoutS {stem : String} : firstSingular? specialRules (stem ++ "s").toList.reverse = none →
      SingularizesTo (stem ++ "s") stem
  | same {word : String} : firstSingular? pluralRules word.toList.reverse = none →
    SingularizesTo word word

theorem singularizesTo_singularize {word : String} (hlisted : word ∉ listedWords)
    (hword : '\n' ∉ word.toList) : SingularizesTo word (singularize word) := by
  rw [singularize_of_not_mem hlisted hword, singularOf]
  have hrules := firstSingular?_pluralRules word.toList.reverse
  cases hspecial : firstSingular? specialRules word.toList.reverse with
  | some singular =>
    rw [hspecial, Option.some_or] at hrules
    rw [hrules, Option.getD_some]
    exact .special hspecial
  | none =>
    rw [hspecial, Option.none_or] at hrules
    cases hlast : withoutS? word.toList.reverse with
    | none =>
      rw [hrules, hlast, Option.getD_none, List.reverse_reverse, String.ofList_toList]
      exact .same (hrules.trans hlast)
    | some before =>
      obtain ⟨stem, rfl, rfl⟩ := exists_stem_of_withoutS hlast
      rw [hrules, hlast, Option.getD_some, List.reverse_reverse, String.ofList_toList]
      exact .withoutS hspecial

/-- A word has the singular of a singular unless it is a plural twice. -/
theorem singularize_singularize_eq_iff {word : String} (hword : '\n' ∉ word.toList) :
    singularize (singularize word) = singularize word ↔ ¬ IsDoublePlural word := by
  by_cases hlisted : word ∈ listedWords
  · have hsettled : ∀ w ∈ listedWords, singularize (singularize w) = singularize w := by
      decide +kernel
    exact iff_of_true (hsettled word hlisted) (not_isDoublePlural_of_mem hlisted)
  have hline : '\n' ∉ (singularize word).toList := not_mem_singularize hword
  have hcase := singularizesTo_singularize hlisted hword
  generalize hsingular : singularize word = singular at hcase hline
  cases hcase with
  | special hspecial =>
    refine iff_of_true ?_ ?_
    · rw [singularize_eq_self_iff hline, String.toList_ofList, List.reverse_reverse]
      exact Or.inr ⟨not_mem_irregularPlurals hspecial, singularOf_of_special hspecial⟩
    · rintro ⟨plural, hplural, rfl⟩
      rw [firstSingular?_of_isOtherPlural hplural] at hspecial
      cases hspecial
  | withoutS hspecial =>
    rw [isDoublePlural_append_iff]
    constructor
    · exact fun hsame hplural => singularize_ne_of_isOtherPlural hplural hline hsame
    · intro hnot
      by_contra hne
      exact hnot (isOtherPlural_of_singularize_ne hline hspecial hne)
  | same hnone =>
    refine iff_of_true hsingular ?_
    rintro ⟨plural, hplural, rfl⟩
    rw [firstSingular?_pluralRules, firstSingular?_of_isOtherPlural hplural,
      toList_reverse_append_s] at hnone
    cases hnone

theorem singularize_singularize_analyses :
    '\n' ∉ "analyses".toList ∧ singularize "analyses" = "analysis" ∧
      singularize "analysis" = "analysis" := by
  have hline : '\n' ∉ "analyses".toList := by decide
  have hsingular : singularize "analyses" = "analysis" := by decide +kernel
  have hplural : ¬ IsDoublePlural "analyses" := by
    rw [show "analyses" = "analyse" ++ "s" by decide, isDoublePlural_append_iff]
    decide
  have hagain := (singularize_singularize_eq_iff hline).2 hplural
  rw [hsingular] at hagain
  exact ⟨hline, hsingular, hagain⟩

/-- An `s` behind what looks like a plural is enough. -/
theorem not_forall_singularize_singularize :
    ¬ ∀ word : String, (∀ c ∈ word.toList, c.isLower = true) →
      singularize (singularize word) = singularize word := by
  intro h
  have hlower : "slices".toList.all Char.isLower = true := by decide
  exact absurd (h "slices" (List.all_eq_true.1 hlower)) (by decide +kernel)

end SchemaStructs.Identifier
