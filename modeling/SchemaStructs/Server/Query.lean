/-! # Metadata queries -/

namespace SchemaStructs.Server

inductive Query where
  | types
  | labels
  | attributes
  | tables
  | columns
  | keys
  | foreignKeys
  | serverVersion
deriving DecidableEq, Repr

namespace Query

def name : Query → String
  | types => "types"
  | labels => "labels"
  | attributes => "attributes"
  | tables => "tables"
  | columns => "columns"
  | keys => "keys"
  | foreignKeys => "foreign_keys"
  | serverVersion => "server_version"

def all : List Query :=
  [types, labels, attributes, tables, columns, keys, foreignKeys, serverVersion]

def ofName? (text : String) : Option Query := all.find? (·.name == text)

def typesSql : String := "
SELECT
    t.oid::bigint AS oid,
    n.nspname AS schema,
    t.typname AS name,
    t.typtype::text AS type_type,
    t.typcategory::text AS category,
    t.typelem::bigint AS element_oid,
    t.typbasetype::bigint AS base_oid,
    t.typtypmod AS base_typmod,
    t.typnotnull AS not_null,
    t.typrelid::bigint AS relation_oid,
    c.relkind::text AS relation_kind,
    r.rngsubtype::bigint AS range_subtype_oid
FROM pg_catalog.pg_type t
JOIN pg_catalog.pg_namespace n ON n.oid = t.typnamespace
LEFT JOIN pg_catalog.pg_class c ON c.oid = t.typrelid
LEFT JOIN pg_catalog.pg_range r ON r.rngtypid = t.oid
ORDER BY t.oid
"

def labelsSql : String := "
SELECT
    e.enumtypid::bigint AS type_oid,
    e.enumlabel AS label,
    e.enumsortorder::float8 AS sort_order
FROM pg_catalog.pg_enum e
ORDER BY e.enumtypid, e.enumsortorder
"

def attributesSql : String := "
SELECT
    t.oid::bigint AS type_oid,
    a.attname AS name,
    a.attnum AS ordinal,
    a.atttypid::bigint AS attribute_type_oid,
    a.atttypmod AS typmod,
    a.attndims AS ndims,
    a.attnotnull AS not_null
FROM pg_catalog.pg_type t
JOIN pg_catalog.pg_class c ON c.oid = t.typrelid
JOIN pg_catalog.pg_attribute a ON a.attrelid = c.oid
WHERE t.typtype = 'c'
  AND c.relkind = 'c'
  AND a.attnum > 0
  AND NOT a.attisdropped
ORDER BY t.oid, a.attnum
"

def tablesSql : String := "
SELECT
    c.oid::bigint AS oid,
    n.nspname AS schema,
    c.relname AS name,
    c.relkind::text AS kind
FROM pg_catalog.pg_class c
JOIN pg_catalog.pg_namespace n ON n.oid = c.relnamespace
WHERE c.relkind::text = ANY(%(kinds)s)
  AND NOT c.relispartition
  AND n.nspname = ANY(%(schemas)s)
ORDER BY n.nspname, c.relname
"

def columnsSql : String := "
SELECT
    a.attrelid::bigint AS table_oid,
    a.attname AS name,
    a.attnum AS ordinal,
    a.atttypid::bigint AS type_oid,
    a.atttypmod AS typmod,
    a.attndims AS ndims,
    a.attnotnull AS not_null,
    a.atthasdef AS has_default,
    a.attidentity <> '' AS is_identity,
    a.attgenerated <> '' AS is_generated,
    pg_catalog.format_type(a.atttypid, a.atttypmod) AS formatted_type
FROM pg_catalog.pg_attribute a
WHERE a.attrelid = ANY(%(table_oids)s::oid[])
  AND a.attnum > 0
  AND NOT a.attisdropped
ORDER BY a.attrelid, a.attnum
"

def keysSql : String := "
SELECT
    con.conrelid::bigint AS table_oid,
    con.conname AS constraint_name,
    con.contype::text AS constraint_type,
    a.attname AS column_name,
    k.position AS position,
    array_length(con.conkey, 1) AS column_count
FROM pg_catalog.pg_constraint con
CROSS JOIN LATERAL unnest(con.conkey) WITH ORDINALITY AS k(attnum, position)
JOIN pg_catalog.pg_attribute a ON a.attrelid = con.conrelid AND a.attnum = k.attnum
WHERE con.conrelid = ANY(%(table_oids)s::oid[])
  AND con.contype IN ('p', 'u')
ORDER BY con.conrelid, con.conname, k.position
"

def foreignKeysSql : String := "
SELECT
    con.conrelid::bigint AS table_oid,
    con.conname AS name,
    rn.nspname AS referenced_schema,
    rc.relname AS referenced_table,
    a.attname AS column_name,
    ra.attname AS referenced_column,
    k.position AS position
FROM pg_catalog.pg_constraint con
CROSS JOIN LATERAL unnest(con.conkey, con.confkey) WITH ORDINALITY AS k(attnum, ref_attnum, position)
JOIN pg_catalog.pg_class rc ON rc.oid = con.confrelid
JOIN pg_catalog.pg_namespace rn ON rn.oid = rc.relnamespace
JOIN pg_catalog.pg_attribute a ON a.attrelid = con.conrelid AND a.attnum = k.attnum
JOIN pg_catalog.pg_attribute ra ON ra.attrelid = con.confrelid AND ra.attnum = k.ref_attnum
WHERE con.conrelid = ANY(%(table_oids)s::oid[])
  AND con.contype = 'f'
ORDER BY con.conrelid, con.conname, k.position
"

/-- The statement that is sent to the server. -/
def sql : Query → String
  | types => typesSql
  | labels => labelsSql
  | attributes => attributesSql
  | tables => tablesSql
  | columns => columnsSql
  | keys => keysSql
  | foreignKeys => foreignKeysSql
  | serverVersion => "SHOW server_version"

@[simp] theorem ofName?_name (q : Query) : ofName? q.name = some q := by
  cases q <;> decide

end Query

/-- What a query is restricted to. -/
inductive Parameters where
  | none
  | relations (kinds schemas : List String)
  | tables (oids : List Int)
deriving DecidableEq, Repr

end SchemaStructs.Server
