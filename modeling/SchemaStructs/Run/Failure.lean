import SchemaStructs.Files.Publication
import SchemaStructs.Generate.Error
import SchemaStructs.Markup.Nesting
import SchemaStructs.Server.Reader

/-! # Failures of a run -/

namespace SchemaStructs.Run

open Config Connection Files Generate Markup Server

/-- What a report tells beside its message. -/
inductive Detail where
  | text (value : String)
  | number (value : Int)
  | texts (values : List String)
deriving DecidableEq, Repr

/-- Kinds of failures that are reported to the user. -/
inductive ReportKind where
  | configuration
  | connection
  | introspection
  | nameCollision
  | catalogCycle
  | write
deriving DecidableEq, Repr

namespace ReportKind

def code : ReportKind → String
  | configuration => "CONFIGURATION_ERROR"
  | connection => "CONNECTION_FAILURE"
  | introspection => "INTROSPECTION_FAILURE"
  | nameCollision => "NAME_COLLISION"
  | catalogCycle => "CATALOG_CYCLE"
  | write => "WRITE_FAILURE"

end ReportKind

structure Report where
  kind : ReportKind
  message : String
  details : List (String × Detail) := []
deriving DecidableEq, Repr

namespace Report

/-- The code of a failure of no particular kind. -/
def generalCode : String := "AUTOSTRUCT_ERROR"

/-- An empty text tells nothing. -/
def optional (name : String) (value : Option String) : List (String × Detail) :=
  ((value.filter (· != "")).map fun v => (name, Detail.text v)).toList

def introspection (message : String) (query : Option String) : Report :=
  ⟨.introspection, message, optional "query" query⟩

def nameCollision (c : Identifier.Collision) : Report where
  kind := .nameCollision
  message := c.message
  details := [("identifier", .text c.identifier), ("sources", .texts [c.first, c.second]),
    ("scope", .text c.scope)]

def catalogCycle (path : List String) : Report where
  kind := .catalogCycle
  message := "Catalog type cycle detected: " ++ " -> ".intercalate path
  details := [("cycle", .texts path)]

def write (message : String) (path : Option String) : Report :=
  ⟨.write, message, optional "path" path⟩

def configuration (e : ConfigurationError) : Report :=
  ⟨.configuration, e.message, e.details.map fun d => (d.1, .text d.2)⟩

end Report

inductive Failure where
  | configuration (error : ConfigurationError)
  | malformedUrl (error : UrlError)
  | reader (error : ReaderError)
  | generation (error : GenerationError)
  | publication (error : PublicationError)
  | markup (error : MarkupError)
deriving DecidableEq, Repr

namespace Failure

def ofConnectionString : ConnectionStringError → Failure
  | .configuration e => configuration e
  | .malformed e => malformedUrl e

/-- The report of a failure that a user can act on. Other failures come from input that is not
checked. -/
def report? : Failure → Option Report
  | configuration e => some (.configuration e)
  | malformedUrl _ | markup _ => none
  | reader (.unreachable masked text timeout) =>
    some ⟨.connection, s!"Could not connect to {masked}: {text}",
      [("database_url", .text masked), ("timeout", .number timeout)]⟩
  | reader (.serverTooOld version) =>
    some ⟨.connection, s!"PostgreSQL 12 or newer is required (server reports {version})",
      [("server_version", .number version)]⟩
  | reader (.queryFailed query text) =>
    some (.introspection s!"Catalog query failed: {text}" (some query.sql))
  | reader (.resolution (.cycle path)) => some (.catalogCycle path)
  | reader _ => none
  | generation (.collision c) => some (.nameCollision c)
  | generation _ => none
  | publication (.nameTooLong _) | publication (.linkLoop _) | publication .nullCharacter
  | publication (.workingDirectoryGone _) => none
  | publication e@(.notReplaceable target) | publication e@(.noStaging target)
  | publication e@(.notWritten target) => some (.write e.message (some target.text))

/-- A line on a failure, reported or not. -/
def message (f : Failure) : String :=
  match f with
  | configuration e => e.message
  | malformedUrl e | reader (.malformedUrl e) => e.message
  | generation e => e.message
  | publication e => e.message
  | markup e => e.message
  | reader (.timeout e) => e.message
  | reader (.resolution .endless) => "an array or range type refers to itself"
  | reader _ => (f.report?.map (·.message)).getD ""

end Failure

end SchemaStructs.Run
