/-! # String literals of Rust -/

namespace SchemaStructs.Rust

def escapeChar (c : Char) : List Char :=
  match c with
  | '\\' => ['\\', '\\']
  | '"' => ['\\', '"']
  | '\n' => ['\\', 'n']
  | '\r' => ['\\', 'r']
  | '\t' => ['\\', 't']
  | _ => [c]

/-- The text in double quotes. -/
def stringLiteral (text : String) : String :=
  .ofList ('"' :: text.toList.flatMap escapeChar ++ ['"'])

end SchemaStructs.Rust
