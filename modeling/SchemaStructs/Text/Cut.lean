/-! # Cutting text at a character -/

namespace SchemaStructs.Text

/-- The parts of a text between occurrences of a character. -/
def splitAtEach (separator : Char) : List Char → List (List Char)
  | [] => [[]]
  | c :: rest =>
    if c == separator then [] :: splitAtEach separator rest
    else match splitAtEach separator rest with
      | part :: parts => (c :: part) :: parts
      | [] => [[c]]

/-- The text before the first occurrence of a character and the text after it, if it occurs. -/
def cutFirst (separator : Char) (s : List Char) : List Char × Option (List Char) :=
  (s.takeWhile (· != separator), (s.dropWhile (· != separator)).tail?)

/-- The text before the last occurrence of a character, if it occurs, and the text after it. -/
def cutLast (separator : Char) (s : List Char) : Option (List Char) × List Char :=
  let (after, before) := cutFirst separator s.reverse
  (before.map List.reverse, after.reverse)

theorem splitAtEach_ne_nil (separator : Char) (s : List Char) : splitAtEach separator s ≠ [] := by
  cases s with
  | nil => simp [splitAtEach]
  | cons c rest =>
    unfold splitAtEach
    split
    · simp
    · split <;> simp

/-- The parts of a text, put together again, are the text. -/
theorem intercalate_splitAtEach (separator : Char) (s : List Char) :
    [separator].intercalate (splitAtEach separator s) = s := by
  induction s with
  | nil => rfl
  | cons c rest ih =>
    unfold splitAtEach
    cases hs : splitAtEach separator rest with
    | nil => exact absurd hs (splitAtEach_ne_nil separator rest)
    | cons part parts =>
      rw [hs] at ih
      split
      · rename_i h
        have hc : c = separator := eq_of_beq h
        simp_all
      · cases parts <;> simp_all

end SchemaStructs.Text
