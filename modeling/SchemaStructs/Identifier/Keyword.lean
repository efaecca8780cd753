/-! # Reserved words of Rust -/

namespace SchemaStructs.Identifier

def strictKeywords : List String := [
  "as", "break", "const", "continue", "crate", "else", "enum", "extern", "false", "fn", "for", "if",
  "impl", "in", "let", "loop", "match", "mod", "move", "mut", "pub", "ref", "return", "self",
  "Self", "static", "struct", "super", "trait", "true", "type", "unsafe", "use", "where", "while",
  "async", "await", "dyn"]

/-- Words without a use yet that cannot be identifiers either. -/
def reservedKeywords : List String := [
  "abstract", "become", "box", "do", "final", "macro", "override", "priv", "typeof", "unsized",
  "virtual", "yield", "try", "gen"]

/-- Keywords that have no raw form `r#…`. -/
def nonRawKeywords : List String := ["self", "Self", "super", "crate"]

def isKeyword (identifier : String) : Bool :=
  strictKeywords.contains identifier || reservedKeywords.contains identifier

def isNonRawKeyword (identifier : String) : Bool := nonRawKeywords.contains identifier

/-- An identifier without the mark of its raw form. -/
def bare (identifier : String) : String :=
  match identifier.toList with
  | 'r' :: '#' :: rest => .ofList rest
  | _ => identifier

end SchemaStructs.Identifier
