import SchemaStructs.Catalog.Registry

/-! # Tables -/

namespace SchemaStructs.Catalog

structure Column where
  name : String
  type : TypeRef
  nullable : Bool := true
  hasDefault : Bool := false
  ordinal : Int := 0
  isPrimaryKey : Bool := false
  isIdentity : Bool := false
  isGenerated : Bool := false
  isUnique : Bool := false
  formattedType : String := ""
deriving Repr

structure ForeignKey where
  name : String
  columns : List String
  referencedTable : QualifiedName
  referencedColumns : List String
deriving DecidableEq, Repr

/-- The column that a foreign key pairs with one of its own; `none` if the key has fewer referenced
columns than columns. -/
def ForeignKey.referencedColumn? (key : ForeignKey) (column : String) : Option String :=
  key.referencedColumns[key.columns.idxOf column]?

/-- A table or view with its columns in ordinal order. -/
structure Table where
  name : QualifiedName
  columns : List Column := []
  foreignKeys : List ForeignKey := []
  primaryKey : List String := []
  kind : String := "table"
deriving Repr

namespace Table

def column? (table : Table) (name : String) : Option Column :=
  table.columns.find? (·.name == name)

/-- The first foreign key that includes a column. -/
def foreignKeyFor? (table : Table) (column : String) : Option ForeignKey :=
  table.foreignKeys.find? (·.columns.contains column)

end Table

/-- Everything captured in one read of the catalog. -/
structure Snapshot where
  tables : List Table
  types : Registry
  serverVersion : Option String := none

namespace Snapshot

/-- A table by its name, with or without schema. -/
def table? (snapshot : Snapshot) (name : String) : Option Table :=
  snapshot.tables.find? fun t => t.name.name == name || t.name.text == name

end Snapshot

end SchemaStructs.Catalog
