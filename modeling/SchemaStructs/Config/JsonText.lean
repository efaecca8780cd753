import SchemaStructs.Numeric.Digits

/-! # Lists of texts in JSON

Settings that hold lists are written in JSON. Of a value only what such a list can hold is kept. -/

namespace SchemaStructs.Config

open Numeric

/-- A JSON value; numbers, truth values and objects are `other`. -/
inductive JsonValue where
  | null
  | text (content : String)
  | list (items : List JsonValue)
  | other
deriving Repr

/-- Why a text is no value. -/
inductive JsonError where
  | malformed
  | tooDeep
deriving DecidableEq, Repr

namespace JsonValue

/-- The greatest number of lists and objects in one another. -/
def maxDepth : Nat := 960

def skipSpace (s : List Char) : List Char :=
  s.dropWhile fun c => c == ' ' || c == '\t' || c == '\n' || c == '\r'

/-- Four hexadecimal digits. -/
def codeUnit? : List Char → Option (Nat × List Char)
  | a :: b :: c :: d :: rest =>
    if [a, b, c, d].all isHexDigit then
      some ([a, b, c, d].foldl (fun n x => 16 * n + hexValue x) 0, rest)
    else none
  | _ => none

def isHighSurrogate (n : Nat) : Bool := 0xd800 ≤ n && n < 0xdc00

def isLowSurrogate (n : Nat) : Bool := 0xdc00 ≤ n && n < 0xe000

def simpleEscape? : Char → Option Char
  | '"' => some '"'
  | '\\' => some '\\'
  | '/' => some '/'
  | 'b' => some '\x08'
  | 'f' => some '\x0c'
  | 'n' => some '\n'
  | 'r' => some '\r'
  | 't' => some '\t'
  | _ => none

/-- The content of a text after its opening quote, as code points. -/
def textCodes? : Nat → List Char → Option (List Nat × List Char)
  | 0, _ => none
  | steps + 1, s =>
    let following (code : Nat) (rest : List Char) :=
      (textCodes? steps rest).map fun (codes, rest) => (code :: codes, rest)
    match s with
    | [] => none
    | '"' :: rest => some ([], rest)
    | '\\' :: 'u' :: rest => do
      let (first, rest) ← codeUnit? rest
      match isHighSurrogate first, rest with
      | true, '\\' :: 'u' :: pair => do
        let (second, afterPair) ← codeUnit? pair
        if isLowSurrogate second then
          following (0x10000 + (first - 0xd800) * 0x400 + (second - 0xdc00)) afterPair
        else following first rest
      | _, _ => following first rest
    | '\\' :: c :: rest => do following (← simpleEscape? c).toNat rest
    | c :: rest => if c.toNat < 0x20 || c == '\\' then none else following c.toNat rest

/-- Half of a surrogate pair is no character; it is read as `U+FFFF`, which is none either. -/
def ofCodes (codes : List Nat) : JsonValue :=
  text <| .ofList <| codes.map fun n =>
    if isHighSurrogate n || isLowSurrogate n then '\uffff' else .ofNat n

/-- A number after its sign; an integer of too many digits is refused. -/
def number? (s : List Char) : Option (List Char) :=
  let (whole, rest) := match s with
    | '0' :: rest => (['0'], rest)
    | _ => s.span Char.isDigit
  if whole.isEmpty then none
  else
    let afterFraction := match rest with
      | '.' :: c :: more => if c.isDigit then more.dropWhile Char.isDigit else rest
      | _ => rest
    let exponentDigits (t : List Char) : Option (List Char) :=
      if t.head?.any Char.isDigit then some (t.dropWhile Char.isDigit) else none
    let afterExponent := match afterFraction with
      | e :: more =>
        if e == 'e' || e == 'E' then
          match more with
          | sign :: digits =>
            if sign == '+' || sign == '-' then (exponentDigits digits).getD afterFraction
            else (exponentDigits more).getD afterFraction
          | [] => afterFraction
        else afterFraction
      | [] => []
    if afterExponent.length == rest.length && maxIntegerDigits < whole.length then none
    else some afterExponent

/-- What follows a given word. -/
def afterWord? (word : String) (s : List Char) : Option (List Char) :=
  if word.toList.isPrefixOf s then some (s.drop word.length) else none

/-- What is there, or the error that it is missing. -/
def expect {α : Type} (found : Option α) : Except JsonError α := found.elim (.error .malformed) .ok

/-- A value that is neither a list nor an object. -/
def scalar? (s : List Char) : Option (JsonValue × List Char) :=
  match s with
  | '"' :: rest => (textCodes? (rest.length + 1) rest).map fun (codes, rest) =>
    (ofCodes codes, rest)
  | '-' :: rest => ((afterWord? "Infinity" rest).or (number? rest)).map (other, ·)
  | _ =>
    match afterWord? "null" s with
    | some rest => some (null, rest)
    | none =>
      ((["true", "false", "NaN", "Infinity"].findSome? (afterWord? · s)).or (number? s)).map
        (other, ·)

mutual

/-- A value at the start of a text, with at most `depth` lists and objects in one another. Every
step reads a character, so the length of the text bounds the steps. -/
def value (depth : Nat) : (steps : Nat) → List Char → Except JsonError (JsonValue × List Char)
  | 0, _ => .error .malformed
  | steps + 1, s =>
    match s, depth with
    | '[' :: _, 0 | '\x7b' :: _, 0 => .error .tooDeep
    | '[' :: rest, depth + 1 =>
      match skipSpace rest with
      | ']' :: rest => .ok (list [], rest)
      | rest => (items depth steps rest).map fun (items, rest) => (list items, rest)
    | '\x7b' :: rest, depth + 1 =>
      match skipSpace rest with
      | '\x7d' :: rest => .ok (other, rest)
      | rest => (members depth steps rest).map (other, ·)
    | s, _ => expect (scalar? s)

/-- The values of a list up to its closing bracket. -/
def items (depth : Nat) : (steps : Nat) → List Char → Except JsonError (List JsonValue × List Char)
  | 0, _ => .error .malformed
  | steps + 1, s => do
    let (item, rest) ← value depth steps s
    match skipSpace rest with
    | ',' :: rest =>
      (items depth steps (skipSpace rest)).map fun (items, rest) => (item :: items, rest)
    | ']' :: rest => .ok ([item], rest)
    | _ => .error .malformed

/-- The members of an object up to its closing brace. -/
def members (depth : Nat) : (steps : Nat) → List Char → Except JsonError (List Char)
  | 0, _ => .error .malformed
  | steps + 1, s =>
    match s with
    | '"' :: rest => do
      let (_, rest) ← expect (textCodes? (rest.length + 1) rest)
      match skipSpace rest with
      | ':' :: rest => do
        let (_, rest) ← value depth steps (skipSpace rest)
        match skipSpace rest with
        | ',' :: rest => members depth steps (skipSpace rest)
        | '\x7d' :: rest => .ok rest
        | _ => .error .malformed
      | _ => .error .malformed
    | _ => .error .malformed

end

/-- The value that a whole text writes. -/
def ofText (s : String) : Except JsonError JsonValue := do
  let chars := s.toList
  let (value, rest) ← value maxDepth (2 * chars.length + 2) (skipSpace chars)
  if (skipSpace rest).isEmpty then .ok value else .error .malformed

/-- The texts of a list that holds nothing else. -/
def texts? : JsonValue → Option (List String)
  | list items => items.mapM fun
    | text content => some content
    | _ => none
  | _ => none

end JsonValue

end SchemaStructs.Config
