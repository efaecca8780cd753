import SchemaStructs.Generate.Error
import SchemaStructs.Generate.Framework
import SchemaStructs.Generate.Struct
import SchemaStructs.Text.Case

/-! # Source text of structs and declarations -/

namespace SchemaStructs.Generate

open Catalog Rust Mapping

def indent : String := "    "

def commaSeparated (names : List String) : String := ", ".intercalate names

def deriveLine (derives : List String) : String := s!"#[derive({commaSeparated derives})]"

def fieldLine (identifier : String) (type : TypeExpr) : String :=
  s!"{indent}pub {identifier}: {type.render},"

def textOfLines (lines : List String) : String := "\n".intercalate lines ++ "\n"

/-- Lines of a block with an empty line after them, if there are any. -/
def paragraph (lines : List String) : List String := if lines.isEmpty then [] else lines ++ [""]

namespace Field

def lines (framework : Framework) (f : Field) : List String :=
  f.notes.map (fun note => s!"{indent}/// {note}") ++
  (framework.fieldAttributes f.column f.name).map (indent ++ ·) ++
  [fieldLine f.name f.type]

end Field

namespace Struct

def lines (framework : Framework) (s : Struct) : List String :=
  [s!"/// {Text.capitalized s.kind} `{s.table.text}`",
    deriveLine framework.structDerives,
    s!"pub struct {s.name} \x7b"] ++
  s.fields.flatMap (Field.lines framework) ++ ["\x7d"]

end Struct

/-- The lines of a variant. -/
def variantLines (framework : Framework) (label identifier : String) : List String :=
  (framework.variantAttributes label).map (indent ++ ·) ++ [s!"{indent}{identifier},"]

def enumLines (framework : Framework) (name : QualifiedName) (identifier : String)
    (labels : List String) : Except GenerationError (List String) := do
  let variants ← assign s!"{identifier} variant"
    (labels.map fun label => (label, Identifier.variantName label))
  let body ← labels.mapM fun label => do
    pure (variantLines framework label (← identifierOf variants label))
  pure ([s!"/// Enum `{name.text}`", deriveLine framework.enumDerives] ++
    framework.typeAttributes name ++ [s!"pub enum {identifier} \x7b"] ++ body.flatten ++ ["\x7d"])

def compositeLines (framework : Framework) (name : QualifiedName) (identifier : String)
    (fields : List RecordField) : Except GenerationError (List String) := do
  let identifiers ← assign s!"{identifier} field"
    (fields.map fun field => (field.1, Identifier.columnName field.1))
  let body ← fields.mapM fun field => do
    pure (fieldLine (← identifierOf identifiers field.1) field.2)
  pure ([s!"/// Composite type `{name.text}`", deriveLine framework.compositeDerives] ++
    framework.typeAttributes name ++ [s!"pub struct {identifier} \x7b"] ++ body ++ ["\x7d"])

def declarationLines (framework : Framework) (d : Declaration) :
    Except GenerationError (List String) :=
  match d.body with
  | .enum labels => enumLines framework d.name d.identifier labels
  | .composite _ fields _ _ => compositeLines framework d.name d.identifier fields

/-- Paths used by the fields of a struct and of the declarations beside it. -/
def crateImports (s : Struct) (owned : List Declaration) : List String :=
  sortedSet .text <|
    s.fields.flatMap (·.type.paths) ++
    owned.flatMap fun d => d.fields.flatMap (·.2.paths)

/-- A declaration in the module of another table, and its identifier. -/
abbrev SiblingImport := String × String

def siblingImports (imported : List SiblingImport) : List String :=
  sortedSet .text (imported.map fun i => s!"use super::{i.1}::{i.2};")

def generatedMark : String := "// Generated with autostruct"

/-- The module of a table: imports from crates, imports from other tables, declarations that this
table owns, and the struct. -/
def tableFile (framework : Framework) (s : Struct) (owned : List Declaration)
    (imported : List SiblingImport) : Except GenerationError String := do
  let declarations ← owned.mapM (declarationLines framework)
  pure <| textOfLines <|
    ["#![allow(dead_code)]", generatedMark, ""] ++
    paragraph (groupImports (crateImports s owned)) ++
    paragraph (siblingImports imported) ++
    declarations.flatMap (· ++ [""]) ++
    s.lines framework

/-- A line that exports names of a module. -/
def exportLine (moduleName : String) (names : List String) : String :=
  match names with
  | [name] => s!"pub use {moduleName}::{name};"
  | _ => s!"pub use {moduleName}::\x7b{commaSeparated names}\x7d;"

/-- The names that a module exports: its struct and the declarations it owns. -/
def exports (owned : Entries String (List Declaration)) (s : Struct) : List String :=
  sortOn .text id
    (s.name :: ((owned.get? s.moduleName).getD []).map (·.identifier))

/-- The index of all modules. -/
def indexFile (structs : List Struct) (owned : Entries String (List Declaration)) : String :=
  let modules := sortOn .text Struct.moduleName structs
  textOfLines <|
    [generatedMark, ""] ++
    paragraph (modules.map fun s => s!"pub mod {s.moduleName};") ++
    modules.map fun s => exportLine s.moduleName (exports owned s)

end SchemaStructs.Generate
