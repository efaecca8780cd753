import Mathlib.Data.List.Infix
import SchemaStructs.Identifier.Singular

/-!
# Inflections

A rule for plurals exchanges the ending of a word. What it asks of the stem can be read as a part of
the ending, so each rule stands for finitely many pairs of a plural ending and a singular one, and
what becomes of a word can be seen from the pairs. All texts are in reverse order, so that words
start with their endings.
-/

namespace SchemaStructs.Identifier

/-- A plural ending and the singular one that takes its place. -/
structure Inflection where
  plural : List Char
  singular : List Char
  /-- Only a word that is the ending and nothing else takes it. -/
  isWhole : Bool
deriving DecidableEq, Repr

/-- `singular` is `plural` with the ending exchanged. -/
def Inflection.Turns (i : Inflection) (plural singular : List Char) : Prop :=
  ∃ rest, plural = i.plural ++ rest ∧ singular = i.singular ++ rest ∧ (i.isWhole = true → rest = [])

namespace Stem

/-- The texts in one of which a stem ends, as far as this can be told. -/
def ends : Stem → List String
  | any => [""]
  | exactly text => [text]
  | endingIn texts => texts
  | lastNotIn _ => [""]

def isExact : Stem → Bool
  | exactly _ => true
  | _ => false

theorem exists_end_of_accepts {stem : Stem} {reversed : List Char}
    (h : stem.accepts reversed = true) :
    ∃ text ∈ stem.ends, ∃ rest, reversed = text.toList.reverse ++ rest ∧
      (stem.isExact = true → rest = []) := by
  have hfree : ∃ text ∈ [""], ∃ rest, reversed = text.toList.reverse ++ rest ∧
      ((false : Bool) = true → rest = []) :=
    ⟨"", List.mem_singleton_self _, reversed, rfl, nofun⟩
  cases stem with
  | any => exact hfree
  | exactly text =>
    have heq : reversed = text.toList.reverse := eq_of_beq h
    exact ⟨text, List.mem_singleton_self _, [], by rw [heq, List.append_nil], fun _ => rfl⟩
  | endingIn texts =>
    obtain ⟨text, htext, hstart⟩ := List.any_eq_true.1 h
    obtain ⟨rest, hrest⟩ := List.isPrefixOf_iff_prefix.1 hstart
    exact ⟨text, htext, rest, hrest.symm, nofun⟩
  | lastNotIn characters => exact hfree

end Stem

/-! ## Rules -/

namespace PluralRule

def inflections (rule : PluralRule) : List Inflection :=
  rule.stems.flatMap fun stem => stem.ends.flatMap fun text => rule.endings.map fun ending =>
    ⟨(text ++ ending).toList.reverse, (text ++ rule.singular).toList.reverse, stem.isExact⟩

theorem exists_inflection_of_applied {rule : PluralRule} {reversed singular : List Char}
    (h : rule.applied? reversed = some singular) :
    ∃ i ∈ rule.inflections, i.Turns reversed singular := by
  obtain ⟨ending, hending, h⟩ := List.exists_of_findSome?_eq_some h
  simp only [endingApplied?, Option.ite_none_right_eq_some, Option.some.injEq] at h
  obtain ⟨hstart, hstem, rfl⟩ := h
  obtain ⟨stem, hmem, haccepts⟩ := List.any_eq_true.1 hstem
  obtain ⟨before, hbefore⟩ := List.isPrefixOf_iff_prefix.1 hstart
  obtain rfl := hbefore
  rw [List.drop_left] at haccepts ⊢
  obtain ⟨text, htext, rest, rfl, hwhole⟩ := Stem.exists_end_of_accepts haccepts
  refine ⟨_, List.mem_flatMap.2 ⟨stem, hmem, List.mem_flatMap.2
    ⟨text, htext, List.mem_map_of_mem hending⟩⟩, rest, ?_, ?_, hwhole⟩
  · simp only [String.toList_append, List.reverse_append, List.append_assoc]
  · simp only [String.toList_append, List.reverse_append, List.append_assoc]

end PluralRule

/-- The singular by the first of some rules that applies. -/
def firstSingular? (rules : List PluralRule) (reversed : List Char) : Option (List Char) :=
  rules.findSome? (·.applied? reversed)

theorem exists_inflection_of_firstSingular {rules : List PluralRule} {reversed singular : List Char}
    (h : firstSingular? rules reversed = some singular) :
    ∃ i ∈ rules.flatMap PluralRule.inflections, i.Turns reversed singular := by
  obtain ⟨rule, hrule, happlied⟩ := List.exists_of_findSome?_eq_some h
  obtain ⟨i, hi, hturns⟩ := PluralRule.exists_inflection_of_applied happlied
  exact ⟨i, List.mem_flatMap.2 ⟨rule, hrule, hi⟩, hturns⟩

theorem firstSingular?_ne_none {rules : List PluralRule} {rule : PluralRule} (hrule : rule ∈ rules)
    {reversed singular : List Char} (h : rule.applied? reversed = some singular) :
    firstSingular? rules reversed ≠ none := by
  intro hnone
  rw [List.findSome?_eq_none_iff.1 hnone rule hrule] at h
  cases h

/-- The rules but the last one, which takes an `s` away behind anything. -/
def specialRules : List PluralRule := pluralRules.dropLast

/-- The word without an `s` at its end. -/
def withoutS? : List Char → Option (List Char)
  | 's' :: rest => some rest
  | _ => none

theorem withoutS?_eq_some_iff {reversed rest : List Char} :
    withoutS? reversed = some rest ↔ reversed = 's' :: rest := by
  unfold withoutS?
  split
  · rw [Option.some_inj, List.cons.injEq, and_iff_right rfl]
  · rename_i hnot
    exact iff_of_false nofun (hnot rest)

theorem firstSingular?_pluralRules (reversed : List Char) :
    firstSingular? pluralRules reversed =
      (firstSingular? specialRules reversed).or (withoutS? reversed) := by
  have hlast : firstSingular? [⟨[.any], ["s"], ""⟩] reversed = withoutS? reversed := by
    cases reversed with
    | nil => rfl
    | cons c rest =>
      by_cases hc : c = 's'
      · subst hc
        rfl
      · simp [firstSingular?, PluralRule.applied?, PluralRule.endingApplied?, withoutS?, hc,
          Ne.symm hc]
  have hrules : pluralRules = specialRules ++ [⟨[.any], ["s"], ""⟩] := by decide
  rw [← hlast, hrules]
  exact List.findSome?_append

theorem singularByRule_eq {word : List Char} (hword : word.getLast? ≠ some '\n') :
    singularByRule word =
      ((firstSingular? pluralRules word.reverse).getD word.reverse).reverse := by
  unfold singularByRule firstSingular?
  split
  rename_i lineEnd reversed heq
  obtain ⟨rfl, rfl⟩ : lineEnd = [] ∧ reversed = word.reverse := by
    split at heq
    · rename_i rest hrest
      exact absurd (by rw [← List.head?_reverse, hrest, List.head?_cons]) hword
    · exact ⟨(Prod.mk.inj heq).1.symm, (Prod.mk.inj heq).2.symm⟩
  split
  · rename_i singular hsingular
    rw [hsingular, Option.getD_some, List.append_nil]
  · rename_i hnone
    rw [hnone, Option.getD_none, List.reverse_reverse]

end SchemaStructs.Identifier
