import SchemaStructs.Numeric.Digits

/-! # Literals

The parameters of a handler are a literal: a number, a text, `True`, `False`, `None`, a tuple, a set
or a map. Only whether a text is one is asked here, so of a literal only its kind is kept. -/

namespace SchemaStructs.Markup

open Numeric

inductive LiteralKind where
  | real
  | imaginary
  | signedReal
  /-- a complex number that is no plain imaginary one -/
  | complex
  /-- another literal that may be in a set -/
  | atomic
  | collection
deriving DecidableEq, Repr

namespace LiteralKind

def mayBeElement : LiteralKind → Bool
  | collection => false
  | _ => true

/-- A sign stands before a number that has none. -/
def signed? : LiteralKind → Option LiteralKind
  | real => some signedReal
  | imaginary => some complex
  | _ => none

/-- A sum has a real and an imaginary part, in this order. -/
def sum? : LiteralKind → LiteralKind → Option LiteralKind
  | real, imaginary | signedReal, imaginary => some complex
  | _, _ => none

def tuple (elements : List LiteralKind) : LiteralKind :=
  if elements.all mayBeElement then atomic else collection

end LiteralKind

namespace Literal

def isWordChar (c : Char) : Bool := c.isAlphanum || c == '_' || 0x80 ≤ c.toNat

def isLineEnd (c : Char) : Bool := c == '\n' || c == '\r'

/-- Blanks and comments. Inside brackets, and after a backslash, line ends are blanks, too. -/
def skipBlanks (inside : Bool) : Bool → List Char → List Char
  | _, [] => []
  | inComment, c :: rest =>
    if isLineEnd c then if inside then skipBlanks inside false rest else c :: rest
    else if inComment || c == '#' then skipBlanks inside true rest
    else if c == '\\' then
      match rest with
      | d :: more => if isLineEnd d && !more.isEmpty then skipBlanks inside false more
        else c :: rest
      | [] => [c]
    else if c == ' ' || c == '\t' || c == '\x0c' then skipBlanks inside false rest
    else c :: rest

def skip (inside : Bool) (s : List Char) : List Char := skipBlanks inside false s

/-- Digits, with single underscores between them. -/
def digits (isDigit : Char → Bool) : List Char → List Char × List Char
  | [] => ([], [])
  | c :: rest =>
    if isDigit c then
      match rest with
      | '_' :: d :: more =>
        if isDigit d then
          let (ds, rest) := digits isDigit (d :: more)
          (c :: ds, rest)
        else ([c], rest)
      | rest =>
        let (ds, rest) := digits isDigit rest
        (c :: ds, rest)
    else ([], c :: rest)

/-- Digits after a letter that tells their base. -/
def digitsInBase (isDigit : Char → Bool) (s : List Char) : Option (LiteralKind × List Char) :=
  let s := match s with
    | '_' :: rest => rest
    | s => s
  match digits isDigit s with
  | ([], _) => none
  | (_, rest) => some (.real, rest)

def exponent? (s : List Char) : Option (List Char) :=
  match s with
  | e :: rest =>
    if e == 'e' || e == 'E' then
      let unsigned := match rest with
        | '+' :: rest | '-' :: rest => rest
        | rest => rest
      match digits Char.isDigit unsigned with
      | ([], _) => none
      | (_, rest) => some rest
    else none
  | [] => none

/-- A number in decimal digits. An integer has no leading zeros, and not too many digits. -/
def decimal (s : List Char) : Option (LiteralKind × List Char) :=
  let (whole, rest) := digits Char.isDigit s
  let (hasPoint, fraction, afterFraction) := match rest with
    | '.' :: rest =>
      let (fraction, rest) := digits Char.isDigit rest
      (true, fraction, rest)
    | rest => (false, [], rest)
  if whole.isEmpty && fraction.isEmpty then none
  else
    let (hasExponent, rest) := match exponent? afterFraction with
      | some rest => (true, rest)
      | none => (false, afterFraction)
    match rest with
    | 'j' :: rest | 'J' :: rest => some (.imaginary, rest)
    | rest =>
      if hasPoint || hasExponent then some (.real, rest)
      else if whole.head? == some '0' && whole.any (· != '0') then none
      else if maxIntegerDigits < whole.length then none
      else some (.real, rest)

def number (s : List Char) : Option (LiteralKind × List Char) := do
  let (kind, rest) ← match s with
    | '0' :: base :: rest =>
      if base == 'x' || base == 'X' then digitsInBase isHexDigit rest
      else if base == 'o' || base == 'O' then digitsInBase (fun c => '0' ≤ c && c ≤ '7') rest
      else if base == 'b' || base == 'B' then digitsInBase (fun c => c == '0' || c == '1') rest
      else decimal s
    | _ => decimal s
  if rest.head?.any isWordChar then none else some (kind, rest)

/-- The number of hexadecimal digits after a letter of an escape. -/
def escapeDigits (isBytes : Bool) (c : Char) : Nat :=
  match c, isBytes with
  | 'x', _ => 2
  | 'u', false => 4
  | 'U', false => 8
  | _, _ => 0

/-- Whether the digits of an escape are there and stand for a character. -/
def isEscape (isBytes : Bool) (c : Char) (rest : List Char) : Bool :=
  let hex := rest.take (escapeDigits isBytes c)
  hex.length == escapeDigits isBytes c && hex.all isHexDigit &&
    hex.foldl (fun n d => 16 * n + hexValue d) 0 ≤ 0x10ffff && (isBytes || c != 'N')

/-- How a quoted text is written. -/
structure Quotes where
  quote : Char
  /-- whether three quotes stand on each side -/
  isLong : Bool
  isBytes : Bool
  isRaw : Bool

def Quotes.closing (q : Quotes) : List Char := List.replicate (if q.isLong then 3 else 1) q.quote

/-- The text after the closing quotes. -/
def afterQuoted (q : Quotes) : List Char → Option (List Char)
  | [] => none
  | c :: rest =>
    if q.closing.isPrefixOf (c :: rest) then some ((c :: rest).drop q.closing.length)
    else if q.isBytes && 0x80 ≤ c.toNat then none
    else if c == '\\' then
      match rest with
      | [] => none
      | d :: more =>
        if q.isBytes && 0x80 ≤ d.toNat then none
        else if q.isRaw || isEscape q.isBytes d more then afterQuoted q more
        else none
    else if isLineEnd c && !q.isLong then none
    else afterQuoted q rest

/-- A quoted text. Letters before the quote tell its kind. The result is whether it has bytes. -/
def quoted (s : List Char) : Option (Bool × List Char) :=
  let (letters, rest) := s.span Char.isAlpha
  match rest with
  | quote :: more =>
    let kind := letters.map Char.toLower
    let isKind := [[], ['r'], ['u'], ['b'], ['b', 'r'], ['r', 'b']].contains kind
    if isKind && (quote == '"' || quote == '\'') then
      let isLong := more.take 2 == [quote, quote]
      let q : Quotes := ⟨quote, isLong, kind.contains 'b', kind.contains 'r'⟩
      (afterQuoted q (if isLong then more.drop 2 else more)).map (kind.contains 'b', ·)
    else none
  | [] => none

/-- Quoted texts one after another are one text; all have bytes or none has. -/
def quotedRun (inside : Bool) : (steps : Nat) → List Char → Option (LiteralKind × List Char)
  | 0, _ => none
  | steps + 1, s => do
    let (isBytes, rest) ← quoted s
    match quoted (skip inside rest) with
    | none => some (.atomic, rest)
    | some (followsBytes, _) =>
      if isBytes == followsBytes then quotedRun inside steps (skip inside rest) else none

def word (inside : Bool) (s : List Char) : Option (LiteralKind × List Char) :=
  let (name, rest) := s.span isWordChar
  if ["True", "False", "None"].contains (String.ofList name) then some (.atomic, rest)
  else if name == "set".toList then
    match skip inside rest with
    | '(' :: rest =>
      match skip true rest with
      | ')' :: rest => some (.collection, rest)
      | _ => none
    | _ => none
  else none

mutual

/-- A number with a sign or a sum of numbers, or another literal. Every call reads a character or
goes down to a simpler form, so a multiple of the length of the text bounds the steps. -/
def value (inside : Bool) : (steps : Nat) → List Char → Option (LiteralKind × List Char)
  | 0, _ => none
  | steps + 1, s => do
    let (kind, rest) ← operand inside steps s
    match skip inside rest with
    | sign :: more =>
      if sign == '+' || sign == '-' then do
        let (right, rest) ← simple inside steps (skip inside more)
        let kind ← kind.sum? right
        some (kind, rest)
      else some (kind, rest)
    | [] => some (kind, rest)

def operand (inside : Bool) : (steps : Nat) → List Char → Option (LiteralKind × List Char)
  | 0, _ => none
  | steps + 1, s =>
    match s with
    | sign :: rest =>
      if sign == '+' || sign == '-' then do
        let (kind, rest) ← simple inside steps (skip inside rest)
        let kind ← kind.signed?
        some (kind, rest)
      else simple inside steps s
    | [] => none

def simple (inside : Bool) : (steps : Nat) → List Char → Option (LiteralKind × List Char)
  | 0, _ => none
  | steps + 1, s =>
    match s with
    | '(' :: rest =>
      match skip true rest with
      | ')' :: rest => some (.atomic, rest)
      | s => do
        let (kinds, hasComma, rest) ← values true steps s
        match kinds, hasComma, skip true rest with
        | [kind], false, ')' :: rest => some (kind, rest)
        | kinds, _, ')' :: rest => some (.tuple kinds, rest)
        | _, _, _ => none
    | '\x7b' :: rest =>
      match skip true rest with
      | '\x7d' :: rest => some (.collection, rest)
      | s => do
        let rest ← members steps s
        some (.collection, rest)
    | '.' :: '.' :: '.' :: rest => some (.atomic, rest)
    | _ => (number s).orElse fun _ => (quotedRun inside s.length s).orElse fun _ => word inside s

/-- Values with commas between them, and whether there is a comma. -/
def values (inside : Bool) :
    (steps : Nat) → List Char → Option (List LiteralKind × Bool × List Char)
  | 0, _ => none
  | steps + 1, s => do
    let (kind, rest) ← value inside steps s
    match skip inside rest with
    | ',' :: rest =>
      match values inside steps (skip inside rest) with
      | some (kinds, _, rest) => some (kind :: kinds, true, rest)
      | none => some ([kind], true, rest)
    | _ => some ([kind], false, rest)

/-- The members of a set or map up to the closing brace. -/
def members : (steps : Nat) → List Char → Option (List Char)
  | 0, _ => none
  | steps + 1, s => do
    let (kind, rest) ← value true steps s
    if !kind.mayBeElement then none
    match skip true rest with
    | ':' :: rest => do
      let (_, rest) ← value true steps (skip true rest)
      moreMembers true steps rest
    | rest => moreMembers false steps rest

/-- What follows a member; all members are pairs or none is. -/
def moreMembers (isMap : Bool) : (steps : Nat) → List Char → Option (List Char)
  | 0, _ => none
  | steps + 1, s =>
    match skip true s with
    | '\x7d' :: rest => some rest
    | ',' :: rest =>
      match skip true rest with
      | '\x7d' :: rest => some rest
      | s => do
        let (kind, rest) ← value true steps s
        if !kind.mayBeElement then none
        match isMap, skip true rest with
        | true, ':' :: rest => do
          let (_, rest) ← value true steps (skip true rest)
          moreMembers isMap steps rest
        | true, _ => none
        | false, rest => moreMembers isMap steps rest
    | _ => none

end

end Literal

/-- Whether a text is a literal. -/
def isLiteral (s : List Char) : Bool :=
  !s.contains '\x00' &&
    match Literal.values false (4 * s.length + 4) (Literal.skip true s) with
    | some (_, _, rest) => (Literal.skip true rest).isEmpty
    | none => false

end SchemaStructs.Markup
