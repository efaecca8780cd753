import SchemaStructs.Catalog.Table

/-! # Assembly of tables from rows -/

namespace SchemaStructs.Catalog

/-- The rows that describe tables. -/
structure TableRows where
  tables : List TableRow
  columns : List ColumnRow := []
  keys : List KeyRow := []
  foreignKeys : List ForeignKeyRow := []

/-- Relations by the letter of their kind. -/
def relationKind (letter : String) : String :=
  match letter with
  | "p" => "partitioned table"
  | "v" => "view"
  | "m" => "materialized view"
  | _ => "table"

namespace TableRows

variable (rows : TableRows)

def columnsOf (table : Oid) : List ColumnRow :=
  sortOn .integer (·.ordinal) (rows.columns.filter (·.table == table))

def primaryKeyOf (table : Oid) : List String :=
  (sortOn .integer (·.position)
    (rows.keys.filter fun k => k.kind == "p" && k.table == table)).map (·.column)

/-- Only a unique constraint on one column makes that column unique by itself. -/
def isUnique (table : Oid) (column : String) : Bool :=
  rows.keys.any fun k =>
    k.kind == "u" && k.columnCount == 1 && k.table == table && k.column == column

/-- The foreign-key constraints of a table, by name. -/
def foreignKeyNames (table : Oid) : List String :=
  sortedSet .text ((rows.foreignKeys.filter (·.table == table)).map (·.constraint))

/-- Columns are paired row by row in position order. -/
def foreignKey? (table : Oid) (constraint : String) : Option ForeignKey :=
  let pairs := sortOn .integer (·.position)
    (rows.foreignKeys.filter fun k => k.table == table && k.constraint == constraint)
  pairs.head?.map fun first =>
    ⟨constraint, pairs.map (·.column), ⟨first.referencedSchema, first.referencedTable⟩,
      pairs.map (·.referencedColumn)⟩

def foreignKeysOf (table : Oid) : List ForeignKey :=
  (rows.foreignKeyNames table).filterMap (rows.foreignKey? table)

/-- A column of a domain that is declared `NOT NULL` takes no null either. -/
def column (types : Registry) (row : ColumnRow) : Except ResolutionError Column := do
  let type ← types.resolve row.type row.modifier row.dimensions
  pure {
    name := row.name
    type
    nullable := !(row.notNull || type.isNotNullDomain)
    hasDefault := row.hasDefault
    ordinal := row.ordinal
    isPrimaryKey := (rows.primaryKeyOf row.table).contains row.name
    isIdentity := row.isIdentity
    isGenerated := row.isGenerated
    isUnique := rows.isUnique row.table row.name
    formattedType := row.formattedType }

def table (types : Registry) (row : TableRow) : Except ResolutionError Table := do
  let columns ← (rows.columnsOf row.oid).mapM (rows.column types)
  pure {
    name := ⟨row.schema, row.name⟩
    columns
    foreignKeys := rows.foreignKeysOf row.oid
    primaryKey := rows.primaryKeyOf row.oid
    kind := relationKind row.kind }

/-- One table for each row, by qualified name. -/
def assemble (types : Registry) : Except ResolutionError (List Table) :=
  sortOn QualifiedName.le Table.name <$> rows.tables.mapM (rows.table types)

end TableRows

end SchemaStructs.Catalog
