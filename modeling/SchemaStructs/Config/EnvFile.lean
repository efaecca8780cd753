import SchemaStructs.Entries
import SchemaStructs.Text.Character

/-! # Files of environment variables

A line `NAME=value` gives a variable. Values may be quoted and may refer to other variables, as in
`${NAME}` and `${NAME:-default}`. A line that cannot be read is skipped. -/

namespace SchemaStructs.Config.EnvFile

open Text

/-- A blank that ends no line. -/
def isInlineBlank (c : Char) : Bool := isBlank c && c != '\n'

def skipInline (s : List Char) : List Char := s.dropWhile isInlineBlank

/-- All line ends written as line feeds. -/
def normalizeLineEnds : List Char → List Char
  | [] => []
  | '\r' :: rest =>
    match rest with
    | '\n' :: _ => normalizeLineEnds rest
    | _ => '\n' :: normalizeLineEnds rest
  | c :: rest => c :: normalizeLineEnds rest

/-- The word `export` and blanks before a name are skipped. -/
def skipExport (s : List Char) : List Char :=
  let word := "export".toList
  if word.isPrefixOf s && (s.drop word.length).head?.any isInlineBlank then
    skipInline (s.drop word.length)
  else s

/-- A name, or nothing before a comment. -/
def key? (s : List Char) : Option (Option (List Char) × List Char) :=
  match s with
  | '#' :: _ => some (none, s)
  | '\'' :: rest =>
    match rest.span (· != '\'') with
    | ([], _) => none
    | (key, _ :: rest) => some (some key, rest)
    | _ => none
  | _ =>
    match s.span fun c => c != '=' && c != '#' && !isBlank c with
    | ([], _) => none
    | (key, rest) => some (some key, rest)

/-- The text up to the closing quote. A backslash belongs to the character after it, so a quote
after an odd number of backslashes closes nothing. -/
def untilQuote (quote : Char) : List Char → Option (List Char × List Char)
  | [] => none
  | c :: rest =>
    if c == quote then some ([], rest)
    else if c == '\\' then
      match rest with
      | [] => none
      | d :: more => (untilQuote quote more).map fun (s, after) => (c :: d :: s, after)
    else (untilQuote quote rest).map fun (s, after) => (c :: s, after)

/-- Replaces a backslash and one of the given characters by what it stands for. -/
def unescape (escapes : List (Char × Char)) : List Char → List Char
  | [] => []
  | c :: rest =>
    match rest with
    | d :: more =>
      match c == '\\', escapes.lookup d with
      | true, some e => e :: unescape escapes more
      | _, _ => c :: unescape escapes (d :: more)
    | [] => [c]

def singleQuoteEscapes : List (Char × Char) := [('\\', '\\'), ('\'', '\'')]

def doubleQuoteEscapes : List (Char × Char) := [
  ('\\', '\\'), ('\'', '\''), ('"', '"'), ('a', '\x07'), ('b', '\x08'), ('f', '\x0c'), ('n', '\n'),
  ('r', '\r'), ('t', '\t'), ('v', '\x0b')]

def quotedValue? (quote : Char) (escapes : List (Char × Char)) (s : List Char) :
    Option (List Char × List Char) :=
  (untilQuote quote s).map fun (value, rest) => (unescape escapes value, rest)

/-- Cuts a comment off, together with the blanks before it. -/
def cutComment : List Char → List Char
  | [] => []
  | c :: rest =>
    if isBlank c && (rest.dropWhile isBlank).head? == some '#' then [] else c :: cutComment rest

def trimEnd (s : List Char) : List Char := (s.reverse.dropWhile isBlank).reverse

/-- The value after an equals sign and the rest of the text. Blanks before a value are skipped; a
comment may follow them at once, and then the value is empty. -/
def value? (s : List Char) : Option (List Char × List Char) :=
  match skipInline s with
  | '\'' :: rest => quotedValue? '\'' singleQuoteEscapes rest
  | '"' :: rest => quotedValue? '"' doubleQuoteEscapes rest
  | _ =>
    let (line, rest) := s.span (· != '\n')
    some (trimEnd (skipInline (cutComment line)), rest)

/-- The rest of a line: blanks and a comment. -/
def endOfLine? (s : List Char) : Option (List Char) :=
  let afterComment := match skipInline s with
    | '#' :: rest => rest.dropWhile (· != '\n')
    | _ => s
  match skipInline afterComment with
  | [] => some []
  | '\n' :: rest => some rest
  | _ => none

def skipLine (s : List Char) : List Char := (s.dropWhile (· != '\n')).drop 1

/-- A name, with a value if an equals sign follows it. -/
abbrev Binding := List Char × Option (List Char)

/-- Reads one line. The result is the binding, if any, and the rest of the text. -/
def binding (s : List Char) : Option Binding × List Char :=
  match key? (skipExport s) with
  | none => (none, skipLine (skipExport s))
  | some (key, rest) =>
    match skipInline rest with
    | '=' :: rest =>
      match value? rest with
      | none => (none, skipLine rest)
      | some (value, rest) =>
        match endOfLine? rest with
        | none => (none, skipLine rest)
        | some after => (key.map (·, some value), after)
    | rest =>
      match endOfLine? rest with
      | none => (none, skipLine rest)
      | some after => (key.map (·, none), after)

/-- All bindings of a text. Every line has a character, so the length of the text bounds the
lines. -/
def bindings : Nat → List Char → List Binding
  | 0, _ => []
  | steps + 1, s =>
    match s.dropWhile isBlank with
    | [] => []
    | s =>
      let (first, rest) := binding s
      first.toList ++ bindings steps rest

/-- Values of variables; a name without value has none. -/
abbrev Variables := Entries String (Option String)

/-- The name in a reference and its default, after the opening brace. -/
def reference? (s : List Char) : Option (List Char × List Char × List Char) :=
  match s.span fun c => c != '\x7d' && c != ':' with
  | (name, '\x7d' :: rest) => some (name, [], rest)
  | (name, ':' :: '-' :: rest) =>
    match rest.span (· != '\x7d') with
    | (default, _ :: rest) => some (name, default, rest)
    | _ => none
  | _ => none

/-- Replaces references by the values of variables. -/
def interpolate (lookup : String → Option (Option String)) : Nat → List Char → List Char
  | 0, s => s
  | steps + 1, s =>
    match s with
    | [] => []
    | c :: rest =>
      let referenced := match c, rest with
        | '$', '\x7b' :: more => reference? more
        | _, _ => none
      match referenced with
      | some (name, default, rest) =>
        let value := match lookup (.ofList name) with
          | some value => (value.getD "").toList
          | none => default
        value ++ interpolate lookup steps rest
      | none => c :: interpolate lookup steps rest

/-- A mark of the byte order before the text is no part of it. -/
def skipByteOrderMark : List Char → List Char
  | '\ufeff' :: rest => rest
  | s => s

/-- The variables of a file, given those of the environment. References see the variables of the
lines above before those of the environment. -/
def read (environment : Entries String String) (text : String) : Variables :=
  let chars := normalizeLineEnds (skipByteOrderMark text.toList)
  (bindings (chars.length + 1) chars).foldl (fun (known : Variables) (key, value) =>
    let lookup (name : String) : Option (Option String) :=
      (known.get? name).or ((environment.get? name).map some)
    known.put (.ofList key)
      (value.map fun v => .ofList (interpolate lookup (v.length + 1) v))) []

end SchemaStructs.Config.EnvFile
