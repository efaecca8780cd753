import SchemaStructs.Identifier.Casing
import SchemaStructs.Identifier.Keyword
import SchemaStructs.Identifier.Singular
import SchemaStructs.Identifier.Words

/-! # Rust identifiers for catalog names -/

namespace SchemaStructs.Identifier

/-- No identifier starts with a digit. -/
def afterDigit (identifier : String) : String :=
  if identifier.toList.head?.any Text.isDigit then "_" ++ identifier else identifier

/-- Keywords without a raw form, and keywords where none is wanted, end in an underscore. -/
def avoidKeyword (identifier : String) : String :=
  if isKeyword identifier then identifier ++ "_" else identifier

/-- A type, struct or variant for a name with these words; a name without words is called
`fallback`. -/
def ofTypeWords (fallback : String) (words : List String) : String :=
  avoidKeyword (if words.isEmpty then fallback else afterDigit (pascalCase words))

def singularLast : List String → List String
  | [] => []
  | [word] => [singularize (Text.lowercase word)]
  | word :: rest => word :: singularLast rest

/-- The struct of a table. -/
def tableName (singular : Bool) (raw : String) : String :=
  ofTypeWords "Table" (if singular then singularLast (splitWords raw) else splitWords raw)

/-- The enum or record of a catalog type. -/
def typeName (raw : String) : String := ofTypeWords "Type" (splitWords raw)

/-- The enum variant of a label. -/
def variantName (label : String) : String := ofTypeWords "Empty" (splitWords label)

/-- The field of a column or of a composite attribute. -/
def columnName (raw : String) : String :=
  let words := splitWords raw
  let identifier := if words.isEmpty then "field" else afterDigit (snakeCase words)
  if isNonRawKeyword identifier then identifier ++ "_"
  else if isKeyword identifier then "r#" ++ identifier
  else identifier

/-- The module of a struct. -/
def moduleName (struct : String) : String :=
  let words := splitWords (bare struct)
  avoidKeyword (if words.isEmpty then "module" else afterDigit (snakeCase words))

end SchemaStructs.Identifier
