import SchemaStructs.Catalog.QualifiedName
import SchemaStructs.Numeric.Numeral

/-! # Rows of the metadata queries -/

namespace SchemaStructs.Catalog

/-- Object identifiers of types and tables. -/
abbrev Oid := Int

structure TypeRow where
  oid : Oid
  schema : String
  name : String
  /-- `b` base, `c` composite, `d` domain, `e` enum, `p` pseudo-type, `r` range, `m` multirange -/
  kind : String
  /-- `A` for arrays -/
  category : String
  /-- zero for a type without elements -/
  element : Oid := 0
  base : Oid := 0
  baseModifier : Int := -1
  notNull : Bool := false
  relation : Oid := 0
  relationKind : Option String := none
  rangeSubtype : Option Oid := none
deriving DecidableEq, Repr

structure LabelRow where
  type : Oid
  label : String
  sortOrder : Numeric.Numeral
deriving DecidableEq, Repr

/-- An attribute of a composite type that is no table row. -/
structure AttributeRow where
  owner : Oid
  name : String
  ordinal : Int
  type : Oid
  modifier : Int := -1
  dimensions : Int := 0
  notNull : Bool := false
deriving DecidableEq, Repr

structure TableRow where
  oid : Oid
  schema : String
  name : String
  kind : String := "r"
deriving DecidableEq, Repr

structure ColumnRow where
  table : Oid
  name : String
  ordinal : Int
  type : Oid
  modifier : Int := -1
  dimensions : Int := 0
  notNull : Bool := false
  hasDefault : Bool := false
  isIdentity : Bool := false
  isGenerated : Bool := false
  formattedType : String := ""
deriving DecidableEq, Repr

/-- A column of a primary key (`p`) or unique (`u`) constraint. -/
structure KeyRow where
  table : Oid
  constraint : String
  kind : String
  column : String
  position : Int
  columnCount : Int := 1
deriving DecidableEq, Repr

structure ForeignKeyRow where
  table : Oid
  constraint : String
  referencedSchema : String
  referencedTable : String
  column : String
  referencedColumn : String
  position : Int
deriving DecidableEq, Repr

namespace TypeRow

def qualifiedName (row : TypeRow) : QualifiedName := ⟨row.schema, row.name⟩

/-- Enums, composites and domains are defined by users. -/
def isUserDefined (row : TypeRow) : Bool :=
  row.kind == "e" || row.kind == "c" || row.kind == "d"

/-- Every table and view has a composite type for its rows. -/
def isRelationRow (row : TypeRow) : Bool :=
  row.relationKind.any (· != "c")

/-- Row types of tables and views are not kept in the registry. -/
def isRegistered (row : TypeRow) : Bool :=
  row.isUserDefined && !(row.kind == "c" && row.isRelationRow)

/-- Domains over arrays share the category and the element of the array; only base types are
arrays. -/
def isArray (row : TypeRow) : Bool :=
  row.kind == "b" && row.category == "A" && row.element != 0

end TypeRow

end SchemaStructs.Catalog
