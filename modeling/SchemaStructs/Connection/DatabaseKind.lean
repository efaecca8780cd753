import SchemaStructs.Config.Error
import SchemaStructs.Connection.Masking

/-! # Kinds of databases -/

namespace SchemaStructs.Connection

open Config

inductive DatabaseKind where
  | postgres
deriving DecidableEq, Repr

namespace DatabaseKind

def name : DatabaseKind → String
  | postgres => "postgres"

def ofScheme? (scheme : List Char) : Option DatabaseKind :=
  if scheme == "postgres".toList || scheme == "postgresql".toList then some postgres else none

end DatabaseKind

/-- Why a connection string belongs to no database. -/
inductive ConnectionStringError where
  | configuration (error : ConfigurationError)
  | malformed (error : UrlError)
deriving DecidableEq, Repr

/-- The kind of database that the scheme of a connection string tells. -/
def inferDatabaseKind (url : Option String) : Except ConnectionStringError DatabaseKind :=
  match url with
  | none | some "" => .error (.configuration .missingUrl)
  | some url => do
    let parts ← (Url.ofText url.toList).mapError .malformed
    match DatabaseKind.ofScheme? parts.scheme with
    | some kind => pure kind
    | none =>
      let masked ← (maskPassword url).mapError .malformed
      let shown := if parts.scheme.isEmpty then url else .ofList parts.scheme
      throw (.configuration (.unsupportedScheme shown masked))

end SchemaStructs.Connection
