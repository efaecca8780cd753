import SchemaStructs.Entries
import SchemaStructs.Markup.ColorTable
import SchemaStructs.Numeric.Digits
import SchemaStructs.Text.Case
import SchemaStructs.Text.Character
import SchemaStructs.Text.Cut

/-! # Styles of marked text

A style is written as words: attributes, a colour, `on` and a colour for the background, `link` and
an address. Two writings of one style have the same normal form. -/

namespace SchemaStructs.Markup

open Numeric Text

/-- The attributes in the order of the normal form. -/
def attributes : List String := [
  "bold", "dim", "italic", "underline", "blink", "blink2", "reverse", "conceal", "strike",
  "underline2", "frame", "encircle", "overline"]

def abbreviations : List (String × String) := [
  ("b", "bold"), ("d", "dim"), ("i", "italic"), ("u", "underline"), ("r", "reverse"),
  ("c", "conceal"), ("s", "strike"), ("uu", "underline2"), ("o", "overline")]

def attribute? (word : List Char) : Option String :=
  let word := String.ofList word
  if attributes.contains word then some word else abbreviations.lookup word

/-- What is between the given words and a closing parenthesis at the end. -/
def argument? (name : String) (word : List Char) : Option (List Char) :=
  let opening := name.toList ++ ['(']
  if opening.isPrefixOf word && word.getLast? == some ')' then
    some ((word.drop opening.length).dropLast)
  else none

def isHexColor : List Char → Bool
  | '#' :: digits =>
    digits.length == 6 && digits.all fun c => c.isDigit || ('a' ≤ c && c ≤ 'f')
  | _ => false

/-- The number of a colour has up to three digits. -/
def isColorNumber (digits : List Char) : Bool :=
  !digits.isEmpty && digits.length ≤ 3 && digits.all Char.isDigit && digitsValue digits ≤ 255

/-- The value of an integer in digits of any script. -/
def integer (digits : List Char) : Except IntegerError Nat := do
  checkDigits digits
  pure ((digits.filterMap decimalDigit?).foldl (fun n d => 10 * n + d) 0)

/-- Three numbers with commas between them. -/
def isColorTriple (text : List Char) : Except IntegerError Bool := do
  if text.isEmpty || !text.all fun c => c == ',' || (decimalDigit? c).isSome then pure false
  else
    let parts := splitAtEach ',' text
    if parts.length != 3 then pure false
    else pure ((← parts.mapM integer).all (· ≤ 255))

/-- Whether a word in lower case is a colour. It is an error to leave a number out. -/
def isColor (word : List Char) : Except IntegerError Bool :=
  if word == "default".toList || isColorName word || isHexColor word then .ok true
  else match argument? "color" word, argument? "rgb" word with
    | some digits, _ => .ok (isColorNumber digits)
    | _, some text => isColorTriple text
    | none, none => .ok false

structure Style where
  attributes : Entries String Bool := []
  color : Option (List Char) := none
  background : Option (List Char) := none
  link : Option (List Char) := none

namespace Style

/-- Reads the words of a style; `none` if they are of another form. -/
def ofWords? (style : Style) : List (List Char) → Except IntegerError (Option Style)
  | [] => .ok (some style)
  | word :: rest => do
    let spelled := lower word
    if spelled == "on".toList then
      match rest with
      | [] => pure none
      | color :: rest =>
        if ← isColor (lower color) then
          ofWords? { style with background := some (lower color) } rest
        else pure none
    else if spelled == "not".toList then
      match rest with
      | [] => pure none
      | name :: rest =>
        match attribute? name with
        | some name => ofWords? { style with attributes := style.attributes.put name false } rest
        | none => pure none
    else if spelled == "link".toList then
      match rest with
      | [] => pure none
      | address :: rest => ofWords? { style with link := some address } rest
    else
      match attribute? spelled with
      | some name => ofWords? { style with attributes := style.attributes.put name true } rest
      | none =>
        if ← isColor spelled then ofWords? { style with color := some spelled } rest else pure none

def words (style : Style) : List (List Char) :=
  (Markup.attributes.filterMap fun name =>
    (style.attributes.get? name).map fun isSet =>
      (if isSet then name else "not " ++ name).toList) ++
  style.color.toList ++
  (style.background.map fun color => "on ".toList ++ color).toList ++
  (style.link.map fun address => "link ".toList ++ address).toList

def text (style : Style) : List Char :=
  match style.words with
  | [] => "none".toList
  | words => [' '].intercalate words

end Style

/-- The normal form of a style. Text that is no style is compared without case. -/
def normalForm (name : List Char) : Except IntegerError (List Char) := do
  if trim name == "none".toList then pure (trim name)
  else match ← Style.ofWords? {} (runs isBlank name) with
    | some style => pure style.text
    | none => pure (lower (trim name))

end SchemaStructs.Markup
