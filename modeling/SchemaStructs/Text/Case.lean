import SchemaStructs.Text.CaseTable
import SchemaStructs.Text.CaseContextTable

/-! # Upper, lower and title case

A character may have a case form of several characters, so the mappings go from a character to
text. The lower case of a capital sigma depends on the letters around it. -/

namespace SchemaStructs.Text

def ofCodes (codes : List Nat) : List Char := codes.map Char.ofNat

def mapCase (expansions : List (Nat × List Nat)) (shifts : List Shift) (c : Char) : List Char :=
  match expansions.lookup c.toNat with
  | some codes => ofCodes codes
  | none => [((shifted? shifts c.toNat).map Char.ofNat).getD c]

def upperOf (c : Char) : List Char :=
  if c.toNat < 0x80 then [c.toUpper] else mapCase upperExpansions upperShifts c

def titleOf (c : Char) : List Char :=
  match titleExceptions.lookup c.toNat with
  | some codes => ofCodes codes
  | none => upperOf c

/-- The lower case of a character on its own. -/
def lowerOf (c : Char) : List Char :=
  if c.toNat < 0x80 then [c.toLower] else mapCase lowerExpansions lowerShifts c

def isCaseIgnorable (c : Char) : Bool := inRanges caseIgnorableRanges c.toNat

/-- Whether the nearest character that is not ignored has a case. -/
def nextIsCased (s : List Char) : Bool :=
  (s.find? (!isCaseIgnorable ·)).any fun c => inRanges casedRanges c.toNat

/-- Lower case of a text that follows the reversed text `before`. A capital sigma that ends a
word becomes a final sigma. -/
def lowerAfter (before : List Char) : List Char → List Char
  | [] => []
  | c :: rest =>
    (if c == 'Σ' then [if nextIsCased before && !nextIsCased rest then 'ς' else 'σ']
      else lowerOf c) ++ lowerAfter (c :: before) rest

def lower (s : List Char) : List Char := lowerAfter [] s

def lowercase (s : String) : String := .ofList (lower s.toList)

/-- The first character in title case and the others in lower case. -/
def capitalized (s : String) : String :=
  match s.toList with
  | [] => ""
  | c :: rest => .ofList (titleOf c ++ lowerAfter [c] rest)

end SchemaStructs.Text
