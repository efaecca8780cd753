import SchemaStructs.Catalog.QualifiedName
import SchemaStructs.Identifier.Keyword
import SchemaStructs.Rust.StringLiteral

/-! # Framework profiles

A framework decides on the derives and attributes of generated code. -/

namespace SchemaStructs.Generate

open Catalog Rust

/-- `plain` code belongs to no framework. -/
inductive Framework where
  | plain
  | sqlx
deriving DecidableEq, Repr

namespace Framework

def name : Framework → String
  | plain => "none"
  | sqlx => "sqlx"

def all : List Framework := [plain, sqlx]

def ofName? (text : String) : Option Framework := all.find? (·.name == text)

@[simp] theorem ofName?_name (f : Framework) : ofName? f.name = some f := by
  cases f <;> decide

def structDerives : Framework → List String
  | plain => ["Debug", "Clone"]
  | sqlx => ["Debug", "Clone", "sqlx::FromRow"]

def compositeDerives : Framework → List String
  | plain => ["Debug", "Clone"]
  | sqlx => ["Debug", "Clone", "sqlx::Type"]

def enumDerives : Framework → List String
  | plain => ["Debug", "Clone", "Copy", "PartialEq", "Eq", "Hash"]
  | sqlx => ["Debug", "Clone", "Copy", "PartialEq", "Eq", "Hash", "sqlx::Type"]

/-- The name by which the database knows a type; the schema `public` is not written. -/
def databaseName (name : QualifiedName) : String :=
  if name.schema == "public" then name.name else name.text

/-- Attributes of a generated enum or record. -/
def typeAttributes : Framework → QualifiedName → List String
  | plain, _ => []
  | sqlx, name => [s!"#[sqlx(type_name = {stringLiteral (databaseName name)})]"]

def rename (text : String) : String := s!"#[sqlx(rename = {stringLiteral text})]"

/-- Attributes of an enum variant. -/
def variantAttributes : Framework → String → List String
  | plain, _ => []
  | sqlx, label => [rename label]

/-- Attributes of a field of a table. A field whose identifier is the name of its column needs
none. -/
def fieldAttributes : Framework → (column identifier : String) → List String
  | plain, _, _ => []
  | sqlx, column, identifier =>
    if Identifier.bare identifier == column then [] else [rename column]

end Framework

end SchemaStructs.Generate
