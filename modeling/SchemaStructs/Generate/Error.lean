import SchemaStructs.Identifier.Assignment
import SchemaStructs.Mapping.TypeMapping

/-! # Errors of generation -/

namespace SchemaStructs.Generate

open Catalog

inductive GenerationError where
  | collision (collision : Identifier.Collision)
  | mapping (error : Mapping.MappingError)
  /-- a foreign key with fewer referenced columns than columns -/
  | unpairedColumn (constraint column : String)
  /-- a name without identifier -/
  | unassigned (source : String)
  /-- a type without declaration or owner -/
  | undeclared (name : QualifiedName)
deriving DecidableEq, Repr

namespace GenerationError

def message : GenerationError → String
  | collision c => c.message
  | mapping e => e.message
  | unpairedColumn constraint column =>
    s!"foreign key '{constraint}' has no referenced column for '{column}'"
  | unassigned source => s!"'{source}' has no identifier"
  | undeclared name => s!"'{name.text}' has no declaration"

end GenerationError

/-- A step that may find two names for one identifier. -/
def assign (scope : String) (pairs : List Identifier.Named)
    (mode : Identifier.CaseMode := .sensitive) : Except GenerationError (Entries String String) :=
  (Identifier.assign scope mode pairs).mapError .collision

def identifierOf (identifiers : Entries String String) (source : String) :
    Except GenerationError String :=
  match identifiers.get? source with
  | some identifier => .ok identifier
  | none => .error (.unassigned source)

end SchemaStructs.Generate
