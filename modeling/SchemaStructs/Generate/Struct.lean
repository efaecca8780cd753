import SchemaStructs.Catalog.Table
import SchemaStructs.Rust.TypeExpr

/-! # Structs of tables -/

namespace SchemaStructs.Generate

open Catalog Rust

/-- What the catalog says of a column beside its type. -/
structure FieldFacts where
  primaryKey : Bool := false
  identity : Bool := false
  generated : Bool := false
  hasDefault : Bool := false
  unique : Bool := false
deriving DecidableEq, Repr

structure Field where
  name : String
  column : String
  type : TypeExpr
  facts : FieldFacts := {}
  references : Option String := none
  sqlType : Option String := none
deriving Repr

/-- A struct with the module that holds it and the declarations that its fields need. -/
structure Struct where
  name : String
  moduleName : String
  table : QualifiedName
  fields : List Field
  declarations : List QualifiedName := []
  kind : String := "table"
deriving Repr

namespace Field

/-- Notes for the documentation of a field. -/
def notes (f : Field) : List String :=
  (if f.facts.primaryKey then ["Primary key"] else []) ++
  (if f.facts.identity then ["Identity column"] else []) ++
  (if f.facts.generated then ["Generated column"] else []) ++
  (if f.facts.unique then ["Unique"] else []) ++
  ((f.references.filter (· != "")).toList.map fun r => s!"References `{r}`") ++
  ((f.sqlType.filter (· != "")).toList.map fun t => s!"SQL type: `{t}`")

end Field

namespace Struct

def field? (s : Struct) (column : String) : Option Field :=
  s.fields.find? (·.column == column)

end Struct

namespace FieldFacts

def ofColumn (column : Column) : FieldFacts :=
  ⟨column.isPrimaryKey, column.isIdentity, column.isGenerated, column.hasDefault, column.isUnique⟩

end FieldFacts

/-- The scalar inside arrays and domains if it has modifiers. -/
def parameterisedScalar? : TypeRef → Option Scalar
  | .array element _ => parameterisedScalar? element
  | .domain _ underlying _ => parameterisedScalar? underlying
  | .scalar s =>
    if s.precision.isSome || s.scale.isSome || s.length.isSome then some s else none
  | _ => none

/-- The SQL spelling of a scalar with modifiers. A length that is not known is written `None`. -/
def describeScalar (s : Scalar) : String :=
  match s.precision, s.scale with
  | some p, some q => s!"{s.kind}({p},{q})"
  | some p, none => s!"{s.kind}({p})"
  | none, _ =>
    let length := (s.length.map toString).getD "None"
    s!"{s.kind}({length})"

/-- The SQL type noted for a column whose scalar has modifiers. -/
def sqlType? (column : Column) : Option String :=
  (parameterisedScalar? column.type).map fun s =>
    if column.formattedType == "" then describeScalar s else column.formattedType

end SchemaStructs.Generate
