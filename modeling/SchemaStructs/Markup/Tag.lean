import SchemaStructs.Text.Cut

/-! # Tags in text

A tag is a name in square brackets, as in `[bold]`, with parameters after an equals sign. A slash
before the name closes a tag. A backslash before a bracket makes it text. -/

namespace SchemaStructs.Markup

open Text

inductive Piece where
  | text (content : List Char)
  | tag (name : List Char) (parameters : Option (List Char))
deriving DecidableEq, Repr

def startsTag (c : Char) : Bool := ('a' ≤ c && c ≤ 'z') || c == '#' || c == '/' || c == '@'

/-- The inside of a tag and what follows it, after the opening bracket. -/
def cutTag? (s : List Char) : Option (List Char × List Char) :=
  if s.head?.any startsTag then
    match s.span fun c => c != '[' && c != ']' with
    | (inside, ']' :: rest) => some (inside, rest)
    | _ => none
  else none

/-- The tag with the given inside. -/
def Piece.ofInside (inside : List Char) : Piece :=
  let (name, parameters) := cutFirst '=' inside
  .tag name parameters

/-- Cuts a text into pieces. Of the backslashes before a tag two stand for one, and one left over
makes the tag text. Every step takes a character, so the length of the text bounds the steps. -/
def piecesWithin : (steps : Nat) → List Char → List Piece
  | 0, _ => []
  | _, [] => []
  | steps + 1, s =>
    let (slashes, rest) := s.span (· == '\\')
    match rest with
    | [] => [.text slashes]
    | '[' :: rest =>
      match cutTag? rest with
      | some (inside, rest) =>
        let before := List.replicate (slashes.length / 2) '\\'
        if slashes.length % 2 = 0 then
          .text before :: .ofInside inside :: piecesWithin steps rest
        else .text (before ++ '[' :: inside ++ [']']) :: piecesWithin steps rest
      | none => .text (slashes.drop 1 ++ ['[']) :: piecesWithin steps rest
    | c :: rest => .text (slashes ++ [c]) :: piecesWithin steps rest

def pieces (s : List Char) : List Piece := piecesWithin s.length s

/-- The text without its tags. -/
def withoutTags (markup : String) : String :=
  .ofList <| (pieces markup.toList).flatMap fun
    | .text content => content
    | .tag _ _ => []

end SchemaStructs.Markup
