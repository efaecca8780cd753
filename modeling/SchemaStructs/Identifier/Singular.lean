/-! # English singulars

A plural is recognised by its ending. The rules are tried in order and the first that applies
decides. -/

namespace SchemaStructs.Identifier

/-- What has to stand before the ending of a plural. -/
inductive Stem where
  /-- anything -/
  | any
  /-- exactly this text -/
  | exactly (text : String)
  /-- a text that ends in one of these -/
  | endingIn (texts : List String)
  /-- a text whose last character is none of these -/
  | lastNotIn (characters : String)
deriving DecidableEq, Repr

namespace Stem

/-- Takes the stem with its characters in reverse order. -/
def accepts (reversed : List Char) : Stem → Bool
  | any => true
  | exactly text => reversed == text.toList.reverse
  | endingIn texts => texts.any fun t => t.toList.reverse.isPrefixOf reversed
  | lastNotIn characters => reversed.head?.any (!characters.toList.contains ·)

end Stem

/-- A stem of one of the kinds in `stems`, followed by one of the `endings`, has the singular that
ends in `singular` instead. -/
structure PluralRule where
  stems : List Stem
  endings : List String
  singular : String
deriving DecidableEq, Repr

namespace PluralRule

def endingApplied? (rule : PluralRule) (reversed : List Char) (ending : String) :
    Option (List Char) :=
  let marks := ending.toList.reverse
  if marks.isPrefixOf reversed then
    let stem := reversed.drop marks.length
    if rule.stems.any (·.accepts stem) then some (rule.singular.toList.reverse ++ stem) else none
  else none

/-- The singular by this rule, both texts in reverse order. -/
def applied? (rule : PluralRule) (reversed : List Char) : Option (List Char) :=
  rule.endings.findSome? (rule.endingApplied? reversed)

end PluralRule

def pluralRules : List PluralRule := [
  ⟨[.endingIn ["database"]], ["s"], ""⟩,
  ⟨[.endingIn ["quiz"]], ["zes"], ""⟩,
  ⟨[.endingIn ["matr"]], ["ices"], "ix"⟩,
  ⟨[.endingIn ["vert", "ind"]], ["ices"], "ex"⟩,
  ⟨[.exactly "ox"], ["en"], ""⟩,
  ⟨[.endingIn ["alias", "status"]], ["es", ""], ""⟩,
  ⟨[.endingIn ["octop", "vir"]], ["us", "i"], "us"⟩,
  ⟨[.exactly "a"], ["xis", "xes"], "xis"⟩,
  ⟨[.endingIn ["cris", "test"]], ["is", "es"], "is"⟩,
  ⟨[.endingIn ["shoe"]], ["s"], ""⟩,
  ⟨[.endingIn ["o"]], ["es"], ""⟩,
  ⟨[.endingIn ["bus"]], ["es", ""], ""⟩,
  ⟨[.endingIn ["m", "l"]], ["ice"], "ouse"⟩,
  ⟨[.endingIn ["x", "ch", "ss", "sh"]], ["es"], ""⟩,
  ⟨[.endingIn ["m"]], ["ovies"], "ovie"⟩,
  ⟨[.lastNotIn "aeiouy", .endingIn ["qu"]], ["ies"], "y"⟩,
  ⟨[.endingIn ["l", "r"]], ["ves"], "f"⟩,
  ⟨[.endingIn ["tive"]], ["s"], ""⟩,
  ⟨[.endingIn ["hive"]], ["s"], ""⟩,
  ⟨[.lastNotIn "f"], ["ves"], "fe"⟩,
  ⟨[.endingIn ["analy", "ba", "diagno", "parenthe", "progno", "synop", "the"]],
    ["sis", "ses"], "sis"⟩,
  ⟨[.endingIn ["t", "i"]], ["a"], "um"⟩,
  ⟨[.endingIn ["ss"]], [""], ""⟩,
  ⟨[.endingIn ["us"]], [""], ""⟩,
  ⟨[.endingIn ["is"]], [""], ""⟩,
  ⟨[.any], ["s"], ""⟩]

/-- Words that are their own plural, or have none. -/
def uncountables : List String := [
  "data", "equipment", "fish", "information", "metadata", "money", "news", "rice", "series",
  "sheep", "species", "deer"]

def irregularSingulars : List (String × String) := [
  ("people", "person"), ("men", "man"), ("women", "woman"), ("children", "child"), ("sexes", "sex"),
  ("moves", "move"), ("zombies", "zombie"), ("geese", "goose"), ("teeth", "tooth"),
  ("feet", "foot")]

/-- A line end after the word is no part of it. -/
def singularByRule (word : List Char) : List Char :=
  let (lineEnd, reversed) := match word.reverse with
    | '\n' :: rest => (['\n'], rest)
    | reversed => ([], reversed)
  match pluralRules.findSome? (·.applied? reversed) with
  | some singular => singular.reverse ++ lineEnd
  | none => word

/-- The singular of an English word in lower case. -/
def singularize (word : String) : String :=
  if uncountables.contains word then word
  else match irregularSingulars.lookup word with
    | some singular => singular
    | none => .ofList (singularByRule word.toList)

end SchemaStructs.Identifier
