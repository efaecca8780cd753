import Mathlib.Data.List.Chain
import SchemaStructs.Identifier.Words
import SchemaStructs.Proofs.Text.Runs

/-!
# Words of a name

The words of a name are the runs of its characters that are no separator. Marking borders only adds
separators, so put together the words are the name without its separators. No word goes on with a
capital after a small letter or digit.
-/

namespace SchemaStructs.Identifier

open Text

/-! ## Marks -/

theorem filter_cons_congr {s t : List Char}
    (h : s.filter (!isSeparator ·) = t.filter (!isSeparator ·)) (c : Char) :
    (c :: s).filter (!isSeparator ·) = (c :: t).filter (!isSeparator ·) := by
  rw [List.filter_cons, h, List.filter_cons]

theorem filter_mark (name : List Char) :
    ('_' :: name).filter (!isSeparator ·) = name.filter (!isSeparator ·) :=
  List.filter_cons_of_neg (by decide)

theorem filter_markAcronyms (name : List Char) :
    (markAcronyms name).filter (!isSeparator ·) = name.filter (!isSeparator ·) := by
  fun_induction markAcronyms name with
  | case1 => rfl
  | case2 a b c rest hborder ih => exact filter_cons_congr ((filter_mark _).trans ih) a
  | case3 a b c rest hborder ih => exact filter_cons_congr ih a
  | case4 a rest hshort ih => exact filter_cons_congr ih a

theorem filter_markCamel (name : List Char) :
    (markCamel name).filter (!isSeparator ·) = name.filter (!isSeparator ·) := by
  fun_induction markCamel name with
  | case1 => rfl
  | case2 a b rest hborder ih => exact filter_cons_congr ((filter_mark _).trans ih) a
  | case3 a b rest hborder ih => exact filter_cons_congr ih a
  | case4 a => rfl

/-- Put together, the words are the name without its separators. -/
theorem flatten_words (name : List Char) :
    (words name).flatten = name.filter (!isSeparator ·) := by
  rw [words, (runsTo_runs _ _).flatten_eq, filter_markCamel, filter_markAcronyms]

theorem ne_nil_of_mem_words {name word : List Char} (hword : word ∈ words name) : word ≠ [] :=
  (runsTo_runs _ _).ne_nil word hword

theorem toList_of_mem_splitWords {name word : String} (hword : word ∈ splitWords name) :
    word.toList ∈ words name.toList := by
  obtain ⟨w, hw, rfl⟩ := List.mem_map.1 hword
  rwa [String.toList_ofList]

/-! ## Borders -/

/-- `b` does not start a word after `a`. -/
def NoBorder (a b : Char) : Prop := (endsWord a && isCapital b) = false

theorem head?_markCamel (name : List Char) : (markCamel name).head? = name.head? := by
  fun_cases markCamel name <;> rfl

/-- A mark stands at every border, and is none itself. -/
theorem isChain_markCamel (name : List Char) : (markCamel name).IsChain NoBorder := by
  fun_induction markCamel name with
  | case1 => exact .nil
  | case2 a b rest hborder ih =>
    have hmark : ∀ c, NoBorder '_' c := fun c => rfl
    refine .cons_cons ?_ (List.isChain_cons.2 ⟨fun c _ => hmark c, ih⟩)
    exact Bool.and_false _
  | case3 a b rest hborder ih =>
    refine List.isChain_cons.2 ⟨fun c hc => ?_, ih⟩
    rw [head?_markCamel] at hc
    cases hc
    exact Bool.eq_false_iff.2 hborder
  | case4 a => exact .singleton a

/-- Inside a word no capital follows a small letter or digit. -/
theorem isChain_of_mem_words {name word : List Char} (hword : word ∈ words name) :
    word.IsChain NoBorder := by
  obtain ⟨before, after, heq⟩ := (runsTo_runs _ _).isInfix word hword
  have hchain := isChain_markCamel (markAcronyms name)
  rw [← heq] at hchain
  exact hchain.left_of_append.right_of_append

end SchemaStructs.Identifier
