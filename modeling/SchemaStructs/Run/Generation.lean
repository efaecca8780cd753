import SchemaStructs.Config.RunOptions
import SchemaStructs.Generate.Artifacts
import SchemaStructs.Run.Failure

/-! # A run

A run reads the catalog, generates code and publishes it. Everything that can be checked before is
checked before the server is asked, and nothing is written unless all else has succeeded. -/

namespace SchemaStructs.Run

open Catalog Config Connection Files Generate Server

/-- The files, and what was logged, shown as progress and done to the server. -/
structure State where
  tree : FileTree := []
  log : List Record := []
  stages : List String := []
  events : List Event := []

/-- An action keeps what was done also when it fails. -/
abbrev Action (α : Type) := ExceptT Failure (StateM State) α

structure Summary where
  outputDir : Path
  files : List Path
  structs : List Struct
  warnings : List Warning
  serverVersion : Option String

namespace Action

def log (records : List Record) : Action Unit :=
  modify fun s => { s with log := s.log ++ records }

/-- Tells that a stage starts. -/
def stage (description : String) : Action Unit :=
  modify fun s => { s with
    log := s.log ++ [.debug description]
    stages := s.stages ++ [description] }

def ofExcept (failure : ε → Failure) (result : Except ε α) : Action α :=
  ExceptT.mk (pure (result.mapError failure))

/-- Runs a step of a reader in a session of its own. -/
def read (step : Step α) : Action α := do
  let (result, session) := (ExceptT.run step).run {}
  modify fun s => { s with log := s.log ++ session.log, events := s.events ++ session.events }
  ofExcept .reader result

/-- Publishes files from a working directory. -/
def publish (working : Path) (target : String) (files : FileSet) : Action (List Path) := do
  let before := (← get).tree
  let (tree, result) := Files.publish before working target files
  modify fun s => { s with tree }
  let written ← ofExcept .publication result
  let path ← ofExcept .publication (Publication.resolveTarget before working target)
  log [.info s!"Wrote {files.length} files to {path.text}"]
  pure written

end Action

/-- A reader for a connection string. -/
def createReader (url : Option String) (schemas : List String) (includeViews : Bool)
    (timeout : Seconds) : Except ConnectionStringError Reader := do
  match ← inferDatabaseKind url with
  | .postgres => pure (.make (url.getD "") schemas includeViews timeout)

/-- What a run is checked for before the server is asked. -/
def validate (options : RunOptions) : Except Failure (Framework × Seconds) := do
  let _ ← (inferDatabaseKind options.databaseUrl).mapError .ofConnectionString
  let framework ← match Framework.ofName? options.framework with
    | some framework => pure framework
    | none => throw (.configuration (.unknownFramework options.framework))
  let timeout ← options.timeout.seconds.mapError .configuration
  pure (framework, timeout)

/-- Reads the catalog that the options name. -/
def readCatalog (server : Script) (options : RunOptions) (timeout : Seconds) : Action Snapshot := do
  Action.stage "Reading catalog..."
  let reader ← Action.ofExcept .ofConnectionString
    (createReader options.databaseUrl options.schemas options.includeViews timeout)
  Action.log (ignoredSchemasLog options.schemas)
  let snapshot ← Action.read (readAndClose server reader)
  Action.log [.info
    s!"Captured {snapshot.tables.length} tables and {snapshot.types.size} user-defined types"]
  pure snapshot

/-- Generates the code for a snapshot. -/
def generateCode (snapshot : Snapshot) (options : Options) : Action Artifacts := do
  Action.stage "Generating code..."
  Action.log (generationLog snapshot options)
  let artifacts ← Action.ofExcept .generation (generate snapshot options)
  Action.log (artifacts.warnings.map fun w => .debug s!"Unsupported type: {w.message}")
  pure artifacts

def run (server : Script) (working : Path) (options : RunOptions) : Action Summary := do
  let (framework, timeout) ← ExceptT.mk (pure (validate options))
  let snapshot ← readCatalog server options timeout
  let artifacts ← generateCode snapshot ⟨options.singular, framework, options.excludeTables⟩
  Action.stage s!"Writing {artifacts.files.length} files..."
  let files ← Action.publish working options.outputDir artifacts.files
  let outputDir ← Action.ofExcept .publication
    (Publication.publishedTarget (← get).tree working options.outputDir)
  pure ⟨outputDir, files, artifacts.structs, artifacts.warnings, snapshot.serverVersion⟩

end SchemaStructs.Run
