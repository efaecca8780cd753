import SchemaStructs.Catalog.TypeRef
import SchemaStructs.Rust.TypeExpr
import SchemaStructs.Text.Case
import SchemaStructs.Text.Character

/-! # Rust types of scalars -/

namespace SchemaStructs.Mapping

open Rust TypeExpr

/-- Types that the PostgreSQL driver of sqlx defines. -/
def driverType (name : String) : TypeExpr := external ("sqlx::postgres::types::" ++ name)

def scalarTypes : List (String × TypeExpr) := [
  ("int2", primitive "i16"),
  ("int4", primitive "i32"),
  ("int8", primitive "i64"),
  ("char", primitive "i8"),
  ("float4", primitive "f32"),
  ("float8", primitive "f64"),
  ("numeric", external "rust_decimal::Decimal"),
  ("money", primitive "i64"),
  ("bool", primitive "bool"),
  ("text", primitive "String"),
  ("varchar", primitive "String"),
  ("bpchar", primitive "String"),
  ("name", primitive "String"),
  ("citext", primitive "String"),
  ("xml", primitive "String"),
  ("tsvector", primitive "String"),
  ("tsquery", primitive "String"),
  ("txid_snapshot", primitive "String"),
  ("pg_snapshot", primitive "String"),
  ("bytea", vec (primitive "u8") 1),
  ("date", external "chrono::NaiveDate"),
  ("time", external "chrono::NaiveTime"),
  ("timestamp", external "chrono::NaiveDateTime"),
  ("timestamptz", external "chrono::DateTime" [external "chrono::Utc"]),
  ("timetz", driverType "PgTimeTz"),
  ("interval", driverType "PgInterval"),
  ("uuid", external "uuid::Uuid"),
  ("oid", primitive "u32"),
  ("xid", primitive "u32"),
  ("cid", primitive "u32"),
  ("xid8", primitive "u64"),
  ("pg_lsn", primitive "u64"),
  ("json", external "serde_json::Value"),
  ("jsonb", external "serde_json::Value"),
  ("inet", external "ipnetwork::IpNetwork"),
  ("cidr", external "ipnetwork::IpNetwork"),
  ("macaddr", external "mac_address::MacAddress"),
  ("macaddr8", primitive "[u8; 8]"),
  ("bit", external "bit_vec::BitVec"),
  ("varbit", external "bit_vec::BitVec"),
  ("point", driverType "PgPoint"),
  ("line", driverType "PgLine"),
  ("lseg", driverType "PgLSeg"),
  ("box", driverType "PgBox"),
  ("path", driverType "PgPath"),
  ("polygon", driverType "PgPolygon"),
  ("circle", driverType "PgCircle"),
  ("ltree", driverType "PgLTree"),
  ("lquery", driverType "PgLQuery"),
  ("hstore", driverType "PgHstore"),
  ("void", primitive "()"),
  ("regclass", primitive "u32"),
  ("regcollation", primitive "u32"),
  ("regconfig", primitive "u32"),
  ("regdictionary", primitive "u32"),
  ("regnamespace", primitive "u32"),
  ("regoper", primitive "u32"),
  ("regoperator", primitive "u32"),
  ("regproc", primitive "u32"),
  ("regprocedure", primitive "u32"),
  ("regrole", primitive "u32"),
  ("regtype", primitive "u32")]

/-- Spellings of SQL beside the names of the catalog. -/
def scalarAliases : List (String × String) := [
  ("smallint", "int2"),
  ("smallserial", "int2"),
  ("serial2", "int2"),
  ("integer", "int4"),
  ("int", "int4"),
  ("serial", "int4"),
  ("serial4", "int4"),
  ("bigint", "int8"),
  ("bigserial", "int8"),
  ("serial8", "int8"),
  ("real", "float4"),
  ("double precision", "float8"),
  ("decimal", "numeric"),
  ("boolean", "bool"),
  ("character varying", "varchar"),
  ("character", "bpchar"),
  ("bit varying", "varbit"),
  ("timestamp without time zone", "timestamp"),
  ("timestamp with time zone", "timestamptz"),
  ("time without time zone", "time"),
  ("time with time zone", "timetz")]

/-- Words with one space between them. -/
def singleSpaced (text : String) : String :=
  " ".intercalate ((Text.runs Text.isBlank text.toList).map .ofList)

/-- The catalog's name of a scalar. In lower case `char` is the type of one byte; any other case is
the blank-padded type of SQL. -/
def canonicalKind (kind : String) : String :=
  let spaced := singleSpaced kind
  if spaced == "char" || spaced == "\"char\"" then "char"
  else
    let lower := Text.lowercase spaced
    if lower == "char" then "bpchar" else (scalarAliases.lookup lower).getD lower

/-- The modifiers of a scalar go to the outermost type. -/
def scalarType? (scalar : Catalog.Scalar) : Option TypeExpr :=
  (scalarTypes.lookup (canonicalKind scalar.kind)).map fun base =>
    { base with precision := scalar.precision, scale := scalar.scale, length := scalar.length }

end SchemaStructs.Mapping
