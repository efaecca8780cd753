import SchemaStructs.Generate.DependencyOrder
import SchemaStructs.Generate.Source
import SchemaStructs.Log

/-! # Plan of generation

The plan fixes the struct of every included table and, for every declaration that some struct needs,
the module that owns it. -/

namespace SchemaStructs.Generate

open Catalog Rust Mapping

/-- A type that fell back to text. -/
structure Warning where
  location : String
  rawType : String
  reason : String
deriving DecidableEq, Repr

namespace Warning

def message (w : Warning) : String :=
  s!"{w.location}: unsupported type '{w.rawType}' mapped to String ({w.reason})"

def ofType (owner member : String) (type : Unrecognized) : Warning :=
  ⟨owner ++ "." ++ member, type.rawName, type.reason⟩

end Warning

/-! ## Exclusion -/

/-- The entries of an exclusion list that name a table, with or without schema. -/
def exclusionsOf (excluded : List String) (table : QualifiedName) : List String :=
  [table.name, table.text].filter excluded.contains

def isExcluded (excluded : List String) (table : QualifiedName) : Bool :=
  !(exclusionsOf excluded table).isEmpty

/-- Tables that are not excluded, by qualified name. -/
def includedTables (tables : List Table) (excluded : List String) : List Table :=
  sortOn QualifiedName.le Table.name (tables.filter (!isExcluded excluded ·.name))

/-- Entries of an exclusion list that name no table. -/
def unmatchedExclusions (tables : List Table) (excluded : List String) : List String :=
  let matched := tables.flatMap fun t => exclusionsOf excluded t.name
  (sortedSet .text excluded).filter (!matched.contains ·)

def exclusionLog (tables : List Table) (excluded : List String) : List Record :=
  (tables.filter fun t => isExcluded excluded t.name).map
    (fun t => .debug s!"Excluding table {t.name.text}") ++
  (unmatchedExclusions tables excluded).map
    fun name => .warning s!"Excluded table '{name}' does not exist"

/-! ## Structs -/

/-- Declarations needed so far, in the order in which they were met, and warnings. -/
structure Draft where
  declarations : Entries QualifiedName Declaration := []
  warnings : List Warning := []

namespace Draft

def warn (draft : Draft) (warnings : List Warning) : Draft :=
  { draft with warnings := draft.warnings ++ warnings }

/-- A declaration warns when it is met for the first time. -/
def need (draft : Draft) (d : Declaration) : Draft :=
  if draft.declarations.has d.name then draft
  else
    { declarations := draft.declarations.put d.name d
      warnings := draft.warnings ++ d.unsupported.map fun u => .ofType d.name.name u.1 u.2 }

end Draft

/-- The note on the column that a column refers to. -/
def referenceNote? (table : Table) (column : String) : Except GenerationError (Option String) :=
  match table.foreignKeyFor? column with
  | none => .ok none
  | some key =>
    match key.referencedColumn? column with
    | some referenced => .ok (some (key.referencedTable.text ++ "." ++ referenced))
    | none => .error (.unpairedColumn key.name column)

/-- Key and identity columns take no null whatever the catalog says of them. -/
def fieldTakesNull (column : Column) : Bool :=
  column.nullable && !(column.isPrimaryKey || column.isIdentity)

/-- A field with the declarations it needs. -/
def buildField (registry : Registry) (table : Table) (draft : Draft) (column : Column) :
    Except GenerationError (Draft × Field × List QualifiedName) := do
  let mapped ← (mapNullable registry column.type (fieldTakesNull column)).mapError .mapping
  let warned := draft.warn (mapped.unsupported.map (.ofType table.name.name column.name))
  let references ← referenceNote? table column.name
  let field : Field := {
    name := Identifier.columnName column.name
    column := column.name
    type := mapped.type
    facts := .ofColumn column
    references
    sqlType := sqlType? column }
  pure (mapped.declarations.foldl Draft.need warned, field, mapped.declarations.map (·.name))

/-- The fields of a table with the declarations they need. -/
def buildFields (registry : Registry) (table : Table) (draft : Draft) :
    List Column → Except GenerationError (Draft × List Field × List QualifiedName)
  | [] => .ok (draft, [], [])
  | column :: rest => do
    let (draft, field, needed) ← buildField registry table draft column
    let (draft, fields, others) ← buildFields registry table draft rest
    pure (draft, field :: fields, needed ++ others)

def buildStruct (registry : Registry) (draft : Draft) (table : Table) (identifier : String) :
    Except GenerationError (Draft × Struct) := do
  let (draft, fields, needed) ← buildFields registry table draft table.columns
  let _ ← assign s!"{identifier} field" (fields.map fun f => (f.column, f.name))
  pure (draft, {
    name := identifier
    moduleName := Identifier.moduleName identifier
    table := table.name
    fields
    declarations := sortedSet QualifiedName.le needed
    kind := table.kind })

def buildStructs (registry : Registry) (identifiers : Entries String String) (draft : Draft) :
    List Table → Except GenerationError (Draft × List Struct)
  | [] => .ok (draft, [])
  | table :: rest => do
    let identifier ← identifierOf identifiers table.name.text
    let (draft, struct) ← buildStruct registry draft table identifier
    let (draft, structs) ← buildStructs registry identifiers draft rest
    pure (draft, struct :: structs)

/-! ## Ownership -/

/-- The module that owns each declaration, and the declarations of each module in the order in which
they are written. -/
structure Ownership where
  owners : Entries QualifiedName String := []
  owned : Entries String (List Declaration) := []

def declarationOf (declarations : Entries QualifiedName Declaration) (name : QualifiedName) :
    Except GenerationError Declaration :=
  match declarations.get? name with
  | some d => .ok d
  | none => .error (.undeclared name)

/-- A struct takes the declarations it needs that have no owner yet. -/
def Ownership.claim (declarations : Entries QualifiedName Declaration) (ownership : Ownership)
    (s : Struct) : Except GenerationError Ownership := do
  let new ← (s.declarations.filter (!ownership.owners.has ·)).mapM (declarationOf declarations)
  if new.isEmpty then pure ownership
  else pure {
    owners := new.foldl (fun owners d => owners.put d.name s.moduleName) ownership.owners
    owned := ownership.owned.put s.moduleName (dependencyOrder new) }

structure Plan where
  structs : List Struct
  declarations : Entries QualifiedName Declaration
  ownership : Ownership
  warnings : List Warning

namespace Plan

variable (plan : Plan)

def ownedBy (moduleName : String) : List Declaration :=
  (plan.ownership.owned.get? moduleName).getD []

def ownerOf (name : QualifiedName) : Except GenerationError String :=
  match plan.ownership.owners.get? name with
  | some moduleName => .ok moduleName
  | none => .error (.undeclared name)

/-- The declarations that a struct needs and another module owns. -/
def importedBy (s : Struct) : Except GenerationError (List SiblingImport) := do
  let imports ← s.declarations.mapM fun name => do
    let owner ← plan.ownerOf name
    if owner = s.moduleName then pure none
    else
      let d ← declarationOf plan.declarations name
      pure (some (owner, d.identifier))
  pure (imports.filterMap id)

/-- Names that a module refers to without import. -/
def preludeNames : List String := ["Option", "String", "Vec"]

/-- The names that meet in the module of a struct. Every declaration that the struct needs is either
written there or imported. -/
def namesIn (s : Struct) : Except GenerationError (List Identifier.Named) := do
  let types ← s.declarations.mapM fun name => do
    let d ← declarationOf plan.declarations name
    pure (s!"type {name.text}", d.identifier)
  pure <|
    preludeNames.map (fun name => (s!"prelude {name}", name)) ++
    (crateImports s (plan.ownedBy s.moduleName)).map
      (fun path => (s!"use {path}", lastSegment path)) ++
    types ++ [(s.table.text, s.name)]

/-- No two names of one module are the same. -/
def checkNames (s : Struct) : Except GenerationError Unit := do
  let _ ← assign s!"{s.moduleName}.rs" (← plan.namesIn s)

end Plan

def indexFileName : String := "mod.rs"

/-- The plan for the included tables of a snapshot. -/
def planOf (snapshot : Snapshot) (singular : Bool) (excluded : List String) :
    Except GenerationError Plan := do
  let tables := includedTables snapshot.tables excluded
  let identifiers ← assign "struct"
    (tables.map fun t => (t.name.text, Identifier.tableName singular t.name.name))
  let (draft, structs) ← buildStructs snapshot.types identifiers {} tables
  let _ ← assign "module"
    (structs.map (fun s => (s.table.text, s.moduleName)) ++ [(indexFileName, "mod")]) .insensitive
  let _ ← assign "type"
    (structs.map (fun s => (s.table.text, s.name)) ++
      draft.declarations.map fun e => (s!"type {e.1.text}", e.2.identifier))
  let ownership ← structs.foldlM (Ownership.claim draft.declarations) {}
  let plan : Plan := ⟨structs, draft.declarations, ownership, draft.warnings⟩
  structs.forM plan.checkNames
  pure plan

end SchemaStructs.Generate
