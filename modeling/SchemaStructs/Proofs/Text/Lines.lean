import Mathlib.Data.List.Basic
import SchemaStructs.Proofs.Text.Cutting

/-!
# Lines of a text

The lines of a text are its parts between line breaks. Lines that are written one after the other
are read back if no line has a break inside.
-/

namespace SchemaStructs.Text

/-! ## Properties of all characters -/

/-- Every character of the text has the property. -/
def AllChars (p : Char → Prop) (s : String) : Prop := ∀ c ∈ s.toList, p c

instance (p : Char → Prop) [DecidablePred p] (s : String) : Decidable (AllChars p s) :=
  List.decidableBAll p s.toList

@[simp] theorem allChars_append {p : Char → Prop} {s t : String} :
    AllChars p (s ++ t) ↔ AllChars p s ∧ AllChars p t := by
  simp only [AllChars, String.toList_append, List.forall_mem_append]

theorem allChars_intercalate {p : Char → Prop} {separator : String} {parts : List String}
    (hseparator : AllChars p separator) (hparts : ∀ part ∈ parts, AllChars p part) :
    AllChars p (separator.intercalate parts) := by
  induction parts with
  | nil => simp [AllChars]
  | cons part rest ih =>
    obtain ⟨hpart, hrest⟩ := List.forall_mem_cons.1 hparts
    cases rest with
    | nil => simpa using hpart
    | cons _ _ =>
      rw [String.intercalate_cons_of_ne_nil (by simp), allChars_append, allChars_append]
      exact ⟨⟨hpart, hseparator⟩, ih hrest⟩

/-! ## Texts of one line -/

/-- There is no line break in the text. -/
def Unbroken (s : String) : Prop := '\n' ∉ s.toList

instance (s : String) : Decidable (Unbroken s) := inferInstanceAs (Decidable (¬ _))

@[simp] theorem unbroken_append {s t : String} : Unbroken (s ++ t) ↔ Unbroken s ∧ Unbroken t := by
  simp [Unbroken, not_or]

theorem unbroken_iff_allChars {s : String} : Unbroken s ↔ AllChars (· ≠ '\n') s :=
  ⟨fun h _ hc he => h (he ▸ hc), fun h hmem => h _ hmem rfl⟩

/-- There is neither a line feed nor a carriage return in the text. -/
def SingleLine (s : String) : Prop := AllChars (fun c => c ≠ '\n' ∧ c ≠ '\r') s

instance (s : String) : Decidable (SingleLine s) :=
  inferInstanceAs (Decidable (AllChars (fun c => c ≠ '\n' ∧ c ≠ '\r') s))

theorem SingleLine.unbroken {s : String} (h : SingleLine s) : Unbroken s :=
  fun hmem => (h _ hmem).1 rfl

/-- Of all characters only those that break a line can lack the property. -/
def HoldsInLines (p : Char → Prop) : Prop := ∀ c, c ≠ '\n' ∧ c ≠ '\r' → p c

theorem HoldsInLines.allChars {p : Char → Prop} (hp : HoldsInLines p) {s : String}
    (h : SingleLine s) : AllChars p s :=
  fun c hc => hp c (h c hc)

theorem holdsInLines_unbroken : HoldsInLines (· ≠ '\n') := fun _ h => h.1

theorem unbroken_toString_nat (n : Nat) : Unbroken (toString n) := by
  intro h
  have hdigit : '\n'.isDigit = true := by
    have hmem : '\n' ∈ Nat.toDigits 10 n := by simpa [Nat.toString_eq_ofList_toDigits] using h
    exact Nat.isDigit_of_mem_toDigits (by decide) (by decide) hmem
  exact absurd hdigit (by decide)

theorem unbroken_toString_int (i : Int) : Unbroken (toString i) := by
  cases i with
  | ofNat n => exact unbroken_toString_nat n
  | negSucc n =>
    show Unbroken ("-" ++ toString (n + 1))
    rw [unbroken_append]
    exact ⟨by decide, unbroken_toString_nat _⟩

/-! ## Reading lines back -/

def linesOf (text : String) : List String := (splitAtEach '\n' text.toList).map .ofList

theorem linesOf_of_unbroken {line : String} (h : Unbroken line) : linesOf line = [line] := by
  rw [linesOf, splitAtEach_of_not_mem h, List.map_singleton, String.ofList_toList]

/-- A break ends the lines before it. -/
theorem linesOf_append_newline (s rest : String) :
    linesOf (s ++ "\n" ++ rest) = linesOf s ++ linesOf rest := by
  have hlist : (s ++ "\n" ++ rest).toList = s.toList ++ '\n' :: rest.toList := by simp
  rw [linesOf, hlist, splitAtEach_append_cons, List.map_append]
  rfl

/-- Texts that are written with a break after each are read line by line, with an empty line at the
end. -/
theorem linesOf_intercalate_append {texts : List String} (hne : texts ≠ []) :
    linesOf ("\n".intercalate texts ++ "\n") = texts.flatMap linesOf ++ [""] := by
  induction texts with
  | nil => exact absurd rfl hne
  | cons text rest ih =>
    cases rest with
    | nil =>
      rw [String.intercalate_singleton, ← String.append_empty (s := text ++ "\n"),
        linesOf_append_newline, List.flatMap_singleton]
      rfl
    | cons text' rest =>
      rw [String.intercalate_cons_of_ne_nil (by simp), String.append_assoc,
        linesOf_append_newline, ih (by simp), ← List.append_assoc]
      rfl

/-- Lines are read back as they are. -/
theorem linesOf_intercalate {lines : List String} (hne : lines ≠ [])
    (hlines : ∀ line ∈ lines, Unbroken line) :
    linesOf ("\n".intercalate lines ++ "\n") = lines ++ [""] := by
  have hsingle : lines.flatMap linesOf = lines := by
    rw [List.flatMap_congr fun line hline => linesOf_of_unbroken (hlines line hline)]
    exact List.flatMap_singleton' lines
  rw [linesOf_intercalate_append hne, hsingle]

/-- A text is its lines with breaks between them. -/
theorem intercalate_linesOf (text : String) : "\n".intercalate (linesOf text) = text := by
  refine String.toList_inj.1 ?_
  have hparts : (linesOf text).map String.toList = splitAtEach '\n' text.toList := by
    simp [linesOf, Function.comp_def]
  rw [String.toList_intercalate, hparts]
  exact intercalate_splitAtEach '\n' text.toList

end SchemaStructs.Text
