import SchemaStructs.Proofs.Text.Lines
import SchemaStructs.Rust.StringLiteral

/-!
# String literals are read back

A literal holds its text and nothing else: reading it from the opening quote gives the text back and
ends at the closing quote, whatever stands behind. Inside there is no quote but in an escape, and
neither a line feed nor a carriage return nor a tab. Replacing one character after the other makes
the same literal if the backslash comes first.
-/

namespace SchemaStructs.Rust

open Text

/-- The character that an escape stands for. -/
def unescape? : Char → Option Char
  | '\\' => some '\\'
  | '"' => some '"'
  | 'n' => some '\n'
  | 'r' => some '\r'
  | 't' => some '\t'
  | _ => none

/-- Reads a literal behind its opening quote: the text up to the closing quote, and what comes
then. -/
def readEscaped : List Char → Option (List Char × List Char)
  | [] => none
  | '"' :: rest => some ([], rest)
  | '\\' :: c :: rest => do
    let c ← unescape? c
    let (text, rest) ← readEscaped rest
    pure (c :: text, rest)
  | ['\\'] => none
  | c :: rest => do
    let (text, rest) ← readEscaped rest
    pure (c :: text, rest)

def readLiteral? : List Char → Option (List Char × List Char)
  | '"' :: rest => readEscaped rest
  | _ => none

/-- One character of a text is read by one step. -/
theorem readEscaped_escapeChar (c : Char) (rest : List Char) :
    readEscaped (escapeChar c ++ rest) = (readEscaped rest).map fun r => (c :: r.1, r.2) := by
  unfold escapeChar
  split
  case h_6 hbackslash hquote _ _ _ =>
    rw [List.singleton_append, readEscaped]
    · cases readEscaped rest <;> rfl
    · exact hquote
    · exact fun _ _ h => absurd h hbackslash
    · exact fun h => absurd h hbackslash
  all_goals
    simp only [List.cons_append, List.nil_append, readEscaped, unescape?]
    cases readEscaped rest <;> rfl

/-- A literal is read as its text, up to its end. -/
theorem readLiteral?_stringLiteral (text : String) (rest : List Char) :
    readLiteral? ((stringLiteral text).toList ++ rest) = some (text.toList, rest) := by
  have hbody : ∀ s : List Char,
      readEscaped (s.flatMap escapeChar ++ '"' :: rest) = some (s, rest) := by
    intro s
    induction s with
    | nil => rfl
    | cons c s ih => rw [List.flatMap_cons, List.append_assoc, readEscaped_escapeChar, ih]; rfl
  rw [stringLiteral, String.toList_ofList, List.append_assoc, List.cons_append]
  exact hbody text.toList

/-! ## Literals are one token -/

/-- What stands between the quotes of a literal: escapes, and characters that need none. -/
inductive LiteralBody : List Char → Prop
  | nil : LiteralBody []
  | plain {c : Char} {s : List Char} : c ∉ ['"', '\\', '\n', '\r', '\t'] → LiteralBody s →
      LiteralBody (c :: s)
  | escape {c d : Char} {s : List Char} : unescape? c = some d → LiteralBody s →
      LiteralBody ('\\' :: c :: s)

theorem LiteralBody.escapeChar {s : List Char} (h : LiteralBody s) (c : Char) :
    LiteralBody (escapeChar c ++ s) := by
  unfold Rust.escapeChar
  split
  case h_6 hbackslash hquote hfeed hreturn htab =>
    refine .plain ?_ h
    simp only [List.mem_cons, List.not_mem_nil, or_false, not_or]
    exact ⟨hquote, hbackslash, hfeed, hreturn, htab⟩
  all_goals exact .escape rfl h

theorem literalBody_escaped (s : List Char) : LiteralBody (s.flatMap escapeChar) := by
  induction s with
  | nil => exact .nil
  | cons c s ih => exact ih.escapeChar c

/-- An escape is written with characters that stand for themselves otherwise. -/
theorem not_mem_controls_of_unescape? {c d : Char} (h : unescape? c = some d) :
    c ≠ '\n' ∧ c ≠ '\r' ∧ c ≠ '\t' := by
  refine ⟨?_, ?_, ?_⟩ <;>
  · rintro rfl
    cases h

theorem LiteralBody.not_mem_controls {s : List Char} (h : LiteralBody s) :
    ∀ c ∈ s, c ≠ '\n' ∧ c ≠ '\r' ∧ c ≠ '\t' := by
  induction h with
  | nil => simp
  | plain hc _ ih =>
    simp only [List.mem_cons, List.not_mem_nil, or_false, not_or] at hc
    exact List.forall_mem_cons.2 ⟨hc.2.2, ih⟩
  | escape hc _ ih =>
    exact List.forall_mem_cons.2
      ⟨by decide, List.forall_mem_cons.2 ⟨not_mem_controls_of_unescape? hc, ih⟩⟩

/-- The text is one literal, from the opening quote to the closing one. -/
def IsLiteral (literal : String) : Prop :=
  ∃ body, literal.toList = '"' :: body ++ ['"'] ∧ LiteralBody body

theorem isLiteral_stringLiteral (text : String) : IsLiteral (stringLiteral text) :=
  ⟨_, String.toList_ofList, literalBody_escaped text.toList⟩

theorem IsLiteral.not_mem_controls {literal : String} (h : IsLiteral literal) :
    AllChars (fun c => c ≠ '\n' ∧ c ≠ '\r' ∧ c ≠ '\t') literal := by
  obtain ⟨body, hliteral, hbody⟩ := h
  intro c hc
  rw [hliteral] at hc
  rcases List.mem_append.1 hc with hc | hc
  · rcases List.mem_cons.1 hc with rfl | hc
    · decide
    · exact hbody.not_mem_controls c hc
  · rw [List.mem_singleton.1 hc]
    decide

theorem singleLine_stringLiteral (text : String) : SingleLine (stringLiteral text) := by
  intro c hc
  obtain ⟨hfeed, hreturn, -⟩ := (isLiteral_stringLiteral text).not_mem_controls c hc
  exact ⟨hfeed, hreturn⟩

/-! ## Replacing one character after the other -/

def replaceEach (c : Char) (replacement s : List Char) : List Char :=
  s.flatMap fun d => if d = c then replacement else [d]

theorem replaceEach_singleton_of_ne {c d : Char} (h : d ≠ c) (replacement : List Char) :
    replaceEach c replacement [d] = [d] := by
  simp [replaceEach, h]

/-- The backslash is replaced first, since all other replacements bring backslashes in. -/
def escapedInTurn (s : List Char) : List Char :=
  replaceEach '\t' ['\\', 't'] <| replaceEach '\r' ['\\', 'r'] <| replaceEach '\n' ['\\', 'n'] <|
    replaceEach '"' ['\\', '"'] <| replaceEach '\\' ['\\', '\\'] s

theorem escapedInTurn_append (s t : List Char) :
    escapedInTurn (s ++ t) = escapedInTurn s ++ escapedInTurn t := by
  simp only [escapedInTurn, replaceEach, List.flatMap_append]

/-- No replacement changes what an earlier one has brought in. -/
theorem escapedInTurn_singleton (c : Char) : escapedInTurn [c] = escapeChar c := by
  unfold escapeChar
  split
  case h_6 hbackslash hquote hfeed hreturn htab =>
    rw [escapedInTurn, replaceEach_singleton_of_ne hbackslash, replaceEach_singleton_of_ne hquote,
      replaceEach_singleton_of_ne hfeed, replaceEach_singleton_of_ne hreturn,
      replaceEach_singleton_of_ne htab]
  all_goals decide

theorem escapedInTurn_eq (s : List Char) : escapedInTurn s = s.flatMap escapeChar := by
  induction s with
  | nil => rfl
  | cons c s ih =>
    rw [← List.singleton_append, escapedInTurn_append, escapedInTurn_singleton, ih,
      List.singleton_append, List.flatMap_cons]

end SchemaStructs.Rust
