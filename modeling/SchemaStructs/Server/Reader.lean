import SchemaStructs.Catalog.Diagnostics
import SchemaStructs.Config.Duration
import SchemaStructs.Connection.DatabaseKind
import SchemaStructs.Server.Script

/-! # Reading a catalog

All metadata queries of one read run in one read-only transaction, so that they see one state of the
catalog. The transaction is rolled back whether the queries succeed or not. -/

namespace SchemaStructs.Server

open Catalog Config

inductive ReaderError where
  | unreachable (maskedUrl text : String) (timeout : Int)
  | serverTooOld (version : Int)
  | queryFailed (query : Query) (text : String)
  | malformedUrl (error : Connection.UrlError)
  | timeout (error : SecondsError)
  | resolution (error : ResolutionError)
deriving DecidableEq, Repr

/-- What to read, and from where. -/
structure Reader where
  url : String
  schemas : List String
  includeViews : Bool := false
  timeout : Seconds
deriving DecidableEq, Repr

/-- A connection that may be open, and what was done and logged so far. -/
structure Session where
  connected : Bool := false
  events : List Event := []
  log : List Record := []
deriving Repr

/-- A step keeps what was done also when it fails. -/
abbrev Step (α : Type) := ExceptT ReaderError (StateM Session) α

def systemSchemas : List String := ["pg_catalog", "information_schema", "pg_toast"]

/-- The schemas that are asked for; without any it is `public`. -/
def requestedSchemas (schemas : List String) : List String :=
  if schemas.isEmpty then ["public"] else schemas

/-- System schemas are never read. -/
def readableSchemas (schemas : List String) : List String :=
  (requestedSchemas schemas).filter (!systemSchemas.contains ·)

def ignoredSchemas (schemas : List String) : List String :=
  sortedSet .text ((requestedSchemas schemas).filter systemSchemas.contains)

def ignoredSchemasLog (schemas : List String) : List Record :=
  let ignored := ignoredSchemas schemas
  if ignored.isEmpty then []
  else [.warning ("Ignoring system schemas: " ++ ", ".intercalate ignored)]

/-- The oldest version whose catalog the queries fit. -/
def minimumVersion : Int := 120000

def trimmed (text : String) : String := .ofList (Text.trim text.toList)

namespace Reader

def make (url : String) (schemas : List String) (includeViews : Bool) (timeout : Seconds) :
    Reader :=
  ⟨url, readableSchemas schemas, includeViews, timeout⟩

/-- The kinds of relations that are read. -/
def relationKinds (reader : Reader) : List String :=
  if reader.includeViews then ["r", "p", "v", "m"] else ["r", "p"]

end Reader

namespace Step

def record (event : Event) : Step Unit :=
  modify fun s => { s with events := s.events ++ [event] }

def log (record : Record) : Step Unit :=
  modify fun s => { s with log := s.log ++ [record] }

def ofExcept (result : Except ReaderError α) : Step α := ExceptT.mk (pure result)

/-- Runs a step and then a second one, also when the first fails. -/
def andFinally (step : Step α) (last : Step Unit) : Step α := do
  let result ← (liftM (ExceptT.run step) : Step (Except ReaderError α))
  last
  ofExcept result

end Step

variable (server : Script) (reader : Reader)

def close : Step Unit := do
  if (← get).connected then
    Step.record .close
    modify fun s => { s with connected := false }

/-- Opens the connection if it is not open. -/
def connect : Step Unit := do
  if (← get).connected then return
  let masked ← Step.ofExcept ((Connection.maskPassword reader.url).mapError .malformedUrl)
  let timeout ← Step.ofExcept ((wholeSeconds reader.timeout).mapError .timeout)
  Step.log (.info s!"Connecting to {masked} (timeout {timeout}s)")
  Step.record (.connect reader.url timeout)
  match server.connectError with
  | some text => throw (.unreachable masked (trimmed text) timeout)
  | none => pure ()
  modify fun s => { s with connected := true }
  match server.versionNumber with
  | some version =>
    if version < minimumVersion then
      close
      throw (.serverTooOld version)
  | none => pure ()

/-- Sends a query; its answer is `rows` unless it fails. -/
def fetch (query : Query) (parameters : Parameters) (rows : α) : Step α := do
  connect server reader
  Step.record (.query query parameters)
  match server.failure? query with
  | some text => throw (.queryFailed query (trimmed text))
  | none => pure rows

def getTypes : Step (List TypeRow) := fetch server reader .types .none server.types

def getLabels : Step (List LabelRow) := fetch server reader .labels .none server.labels

def getAttributes : Step (List AttributeRow) :=
  fetch server reader .attributes .none server.attributes

def getTables : Step (List TableRow) :=
  fetch server reader .tables (.relations reader.relationKinds reader.schemas)
    (server.tablesIn reader.relationKinds reader.schemas)

def getColumns (oids : List Oid) : Step (List ColumnRow) :=
  fetch server reader .columns (.tables oids) (server.columnsOf oids)

def getKeys (oids : List Oid) : Step (List KeyRow) :=
  fetch server reader .keys (.tables oids) (server.keysOf oids)

def getForeignKeys (oids : List Oid) : Step (List ForeignKeyRow) :=
  fetch server reader .foreignKeys (.tables oids) (server.foreignKeysOf oids)

def getVersion : Step (Option String) :=
  fetch server reader .serverVersion .none server.version

/-- Runs a step in one read-only transaction. -/
def inTransaction (step : Step α) : Step α := do
  connect server reader
  Step.record (.session "REPEATABLE READ" true)
  step.andFinally (Step.record .rollback)

/-- The answers to all queries of one read. -/
structure Capture where
  types : TypeRows
  tables : TableRows
  version : Option String
  typeCount : Nat

/-- Asks for the columns and constraints of tables only if there are tables. -/
def capture : Step Capture := do
  let types ← getTypes server reader
  let labels ← getLabels server reader
  let attributes ← getAttributes server reader
  let tables ← getTables server reader
  let oids := tables.map (·.oid)
  let tableRows ← if oids.isEmpty then pure { tables }
    else do
      let columns ← getColumns server reader oids
      let keys ← getKeys server reader oids
      let foreignKeys ← getForeignKeys server reader oids
      pure { tables, columns, keys, foreignKeys }
  let version ← getVersion server reader
  pure ⟨.ofRows types labels attributes, tableRows, version, types.length⟩

namespace Capture

def snapshot (c : Capture) : Except ResolutionError Snapshot := do
  let types ← Registry.ofRows c.types
  let tables ← c.tables.assemble types
  pure ⟨tables, types, c.version⟩

def log (c : Capture) : List Record :=
  .debug s!"Captured {c.typeCount} types, {c.tables.tables.length} tables, {
    c.tables.columns.length} columns" ::
  registryLog c.types ++
    match Registry.ofRows c.types with
    | .ok _ => assemblyLog c.types c.tables
    | .error _ => []

end Capture

/-- Reads the catalog of the tables in the schemas of the reader. -/
def readCatalog : Step Snapshot := do
  connect server reader
  let captured ← inTransaction server reader (capture server reader)
  modify fun s => { s with log := s.log ++ captured.log }
  Step.ofExcept (captured.snapshot.mapError .resolution)

/-- Reads the catalog and closes the connection. -/
def readAndClose : Step Snapshot := (readCatalog server reader).andFinally close

end SchemaStructs.Server
