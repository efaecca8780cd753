import SchemaStructs.Catalog.TypeRef
import SchemaStructs.Rust.TypeExpr

/-! # Declarations of user-defined types -/

namespace SchemaStructs.Mapping

open Catalog Rust

/-- A field of a generated record: the attribute and its type. -/
abbrev RecordField := String × TypeExpr

inductive DeclarationBody where
  | enum (labels : List String)
  /-- `source` is the definition in the catalog, `unsupported` the attributes that fell back to
  text, and `dependencies` the declarations that the fields need, in order. -/
  | composite (source : List (Attribute TypeRef)) (fields : List RecordField)
      (dependencies : List QualifiedName) (unsupported : List (String × Unrecognized))
deriving Repr

/-- An enum or record that some field needs. -/
structure Declaration where
  name : QualifiedName
  identifier : String
  body : DeclarationBody
deriving Repr

namespace Declaration

def fields (d : Declaration) : List RecordField :=
  match d.body with
  | .enum _ => []
  | .composite _ fields _ _ => fields

def dependencies (d : Declaration) : List QualifiedName :=
  match d.body with
  | .enum _ => []
  | .composite _ _ dependencies _ => dependencies

def unsupported (d : Declaration) : List (String × Unrecognized) :=
  match d.body with
  | .enum _ => []
  | .composite _ _ _ unsupported => unsupported

/-- The definition in the catalog. -/
def source (d : Declaration) : TypeRef :=
  match d.body with
  | .enum labels => .enum d.name labels
  | .composite source _ _ _ => .composite d.name source

/-- Adds a declaration to a list in the order of names that holds each name once. -/
def insert (d : Declaration) : List Declaration → List Declaration
  | [] => [d]
  | e :: rest =>
    if d.name = e.name then e :: rest
    else if QualifiedName.le d.name e.name then d :: e :: rest
    else e :: insert d rest

def union (ds es : List Declaration) : List Declaration := es.foldr insert ds

end Declaration

end SchemaStructs.Mapping
