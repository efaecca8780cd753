import SchemaStructs.Text.Case

/-! # Casing of words -/

namespace SchemaStructs.Identifier

open Text

/-- The first character in upper case, the others in lower case. -/
def capitalize : List Char → List Char
  | [] => []
  | c :: rest => upperOf c ++ lower rest

def pascalCase (words : List String) : String :=
  .ofList (words.flatMap fun w => capitalize w.toList)

def snakeCase (words : List String) : String :=
  "_".intercalate (words.map lowercase)

end SchemaStructs.Identifier
