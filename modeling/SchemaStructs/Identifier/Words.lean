import SchemaStructs.Text.Character

/-! # Words of a catalog name

Names are written in snake case, in camel case, with spaces or with punctuation. Two passes mark the
borders that letter case implies; every character that belongs to no word then separates. -/

namespace SchemaStructs.Identifier

open Text

def isCapital (c : Char) : Bool := 'A' ≤ c && c ≤ 'Z'

def isSmall (c : Char) : Bool := 'a' ≤ c && c ≤ 'z'

/-- Characters after which a capital starts a new word. -/
def endsWord (c : Char) : Bool := isSmall c || ('0' ≤ c && c ≤ '9')

/-- Marks the border before the last capital of an acronym that runs into a word, as in
`HTTP_Server`. -/
def markAcronyms : List Char → List Char
  | [] => []
  | a :: rest =>
    match rest with
    | b :: c :: _ =>
      if isCapital a && isCapital b && isSmall c then a :: '_' :: markAcronyms rest
      else a :: markAcronyms rest
    | _ => a :: markAcronyms rest

/-- Marks the border between a small letter or digit and a capital, as in `order_Item`. -/
def markCamel : List Char → List Char
  | [] => []
  | a :: rest =>
    match rest with
    | b :: _ => if endsWord a && isCapital b then a :: '_' :: markCamel rest
      else a :: markCamel rest
    | [] => [a]

def isSeparator (c : Char) : Bool := c == '_' || !isAlphanumeric c

def words (name : List Char) : List (List Char) :=
  runs isSeparator (markCamel (markAcronyms name))

def splitWords (name : String) : List String := (words name.toList).map .ofList

end SchemaStructs.Identifier
