import SchemaStructs.Catalog.Assembly
import SchemaStructs.Server.Query

/-! # Servers

A server is known by what it answers. -/

namespace SchemaStructs.Server

open Catalog

/-- The rows that a server holds, its version, and the texts of the errors with which connecting or
a query fails. -/
structure Script where
  types : List TypeRow := []
  labels : List LabelRow := []
  attributes : List AttributeRow := []
  tables : List TableRow := []
  columns : List ColumnRow := []
  keys : List KeyRow := []
  foreignKeys : List ForeignKeyRow := []
  versionNumber : Option Int := some 160000
  version : Option String := none
  connectError : Option String := none
  failures : List (Query × String) := []

namespace Script

def failure? (server : Script) (query : Query) : Option String := server.failures.lookup query

def tablesIn (server : Script) (kinds schemas : List String) : List TableRow :=
  server.tables.filter fun t => kinds.contains t.kind && schemas.contains t.schema

def columnsOf (server : Script) (oids : List Oid) : List ColumnRow :=
  server.columns.filter fun c => oids.contains c.table

def keysOf (server : Script) (oids : List Oid) : List KeyRow :=
  server.keys.filter fun k => oids.contains k.table

def foreignKeysOf (server : Script) (oids : List Oid) : List ForeignKeyRow :=
  server.foreignKeys.filter fun k => oids.contains k.table

end Script

/-- What a reader does to a server. -/
inductive Event where
  | connect (url : String) (timeout : Int)
  | session (isolation : String) (readOnly : Bool)
  | query (query : Query) (parameters : Parameters)
  | rollback
  | close
deriving DecidableEq, Repr

end SchemaStructs.Server
