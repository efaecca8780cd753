import SchemaStructs.Catalog.Registry
import SchemaStructs.Identifier.Naming
import SchemaStructs.Mapping.Declaration
import SchemaStructs.Mapping.Scalar

/-! # Rust types of catalog types

Enums and composites become declarations of their own. What they are is looked up in the registry by
name, so that every mention of a type means the same definition. -/

namespace SchemaStructs.Mapping

open Catalog Rust

/-- The type, the declarations it needs in the order of names, and what fell back to text. -/
structure Mapped where
  type : TypeExpr
  declarations : List Declaration := []
  unsupported : List Unrecognized := []
deriving Repr

inductive MappingError where
  /-- a value that is no catalog type, by the sort of value it is -/
  | notAType (sort : String)
  /-- a composite whose registered definition leads back to it -/
  | endless
deriving DecidableEq, Repr

namespace MappingError

def message : MappingError → String
  | .notAType sort => s!"Cannot map {sort}: not a catalog type reference"
  | .endless => "a composite type contains itself"

end MappingError

namespace Mapped

/-- A type without counterpart is read as text. -/
def fallback (type : Unrecognized) : Mapped :=
  { type := .primitive "String", unsupported := [type] }

def mapType (f : TypeExpr → TypeExpr) (m : Mapped) : Mapped := { m with type := f m.type }

def nullable (isNullable : Bool) (m : Mapped) : Mapped :=
  if isNullable then m.mapType .option else m

def declared (d : Declaration) (needed : List Declaration) : Mapped :=
  { type := { name := d.identifier, declaration := some d.name }
    declarations := Declaration.union needed [d] }

end Mapped

variable (registry : Registry)

def mapEnum (name : QualifiedName) : Mapped :=
  match registry.get? name with
  | some (.enum _ labels) => .declared ⟨name, Identifier.typeName name.name, .enum labels⟩ []
  | _ => .fallback ⟨name.text, "enum not found in catalog"⟩

/-- Maps a type, given how composites are mapped. -/
def mapWith (composite : QualifiedName → Except MappingError Mapped) :
    TypeRef → Except MappingError Mapped
  | .scalar s =>
    .ok <| match scalarType? s with
      | some type => { type }
      | none => .fallback ⟨s.kind, "no Rust mapping for this type"⟩
  | .array element dimension =>
    (mapWith composite element).map (·.mapType (.vec · dimension))
  | .enum name _ => .ok (mapEnum registry name)
  | .composite name _ => composite name
  | .range subtype _ =>
    (mapWith composite subtype).map
      (·.mapType fun t => .external "sqlx::postgres::types::PgRange" [t])
  | .domain _ underlying _ => mapWith composite underlying
  | .unrecognized type => .ok (.fallback type)
  | .foreign sort => .error (.notAType sort)

/-- A field takes no null if its attribute or the domain of its type does not. -/
def fieldIsNullable (field : Attribute TypeRef) : Bool :=
  !(field.notNull || field.type.isNotNullDomain)

/-- The record of a composite, given the mapped types of its fields. -/
def declareComposite (name : QualifiedName) (source : List (Attribute TypeRef))
    (mapped : List (String × Mapped)) : Mapped :=
  let needed := mapped.foldl (fun ds m => Declaration.union ds m.2.declarations) []
  .declared
    { name
      identifier := Identifier.typeName name.name
      body := .composite source (mapped.map fun m => (m.1, m.2.type)) (needed.map (·.name))
        (mapped.flatMap fun m => m.2.unsupported.map (m.1, ·)) }
    needed

/-- Maps a composite by name. Each step goes into one more definition, so a mapping that ends needs
no more steps than there are definitions. -/
def mapComposite : Nat → QualifiedName → Except MappingError Mapped
  | 0, _ => .error .endless
  | steps + 1, name =>
    match registry.get? name with
    | some (.composite _ fields) => do
      let mapped ← fields.mapM fun field => do
        let m ← mapWith registry (mapComposite steps) field.type
        pure (field.name, m.nullable (fieldIsNullable field))
      pure (declareComposite name fields mapped)
    | _ => .ok (.fallback ⟨name.text, "composite type not found in catalog"⟩)

def mapType (type : TypeRef) : Except MappingError Mapped :=
  mapWith registry (mapComposite registry (registry.size + 1)) type

/-- The type of a value that may be null. -/
def mapNullable (type : TypeRef) (isNullable : Bool) : Except MappingError Mapped :=
  (·.nullable isNullable) <$> mapType registry type

end SchemaStructs.Mapping
