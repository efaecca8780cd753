import SchemaStructs.CommandLine.Arguments
import SchemaStructs.CommandLine.Console
import SchemaStructs.Run.Generation

/-! # Commands -/

namespace SchemaStructs.CommandLine

open Config Connection Files Generate Server Run

def generateSpecs : List OptionSpec := [
  helpSpec,
  ⟨["--output", "-o"], "output", .value⟩,
  ⟨["--database-url", "-d"], "database_url", .value⟩,
  ⟨["--singular"], "singular", .flag⟩,
  ⟨["--plural"], "plural", .flag⟩,
  ⟨["--exclude", "-x"], "exclude", .value⟩,
  ⟨["--framework", "-f"], "framework", .value⟩,
  ⟨["--timeout", "-t"], "timeout", .value⟩,
  ⟨["--schema", "-s"], "schema", .value⟩,
  ⟨["--include-views"], "include_views", .flag⟩,
  ⟨["--no-include-views"], "no_include_views", .flag⟩,
  ⟨["--verbose", "-v"], "verbose", .flag⟩]

inductive Command where
  | help
  | showConfiguration
  | generate (overrides : Overrides) (verbose : Bool)
deriving DecidableEq, Repr

namespace Command

/-- A command takes no words beside its options. Help comes before any complaint about words. -/
def withOptions (specs : List OptionSpec) (words : List String) (command : Arguments → Command) :
    Except UsageError Command := do
  let args ← readWords specs true {} words
  if args.has "help" then pure help
  else if args.words.isEmpty then pure (command args)
  else throw ⟨⟩

def overrides (args : Arguments) : Overrides where
  databaseUrl := args.last? "database_url"
  outputDir := args.last? "output"
  singular := args.switch? "singular" "plural"
  framework := args.last? "framework"
  excludeTables := args.values "exclude"
  timeout := (args.last? "timeout").map .text
  schemas := args.values "schema"
  includeViews := args.switch? "include_views" "no_include_views"

/-- The command that a command line asks for. Words that begin with no command may ask for help,
even after two dashes. -/
def ofWords (words : List String) : Except UsageError Command := do
  let args ← readWords [helpSpec] false {} words
  if args.has "help" then pure help
  else match args.words with
    | "generate" :: rest =>
      withOptions generateSpecs rest fun args => generate (overrides args) (args.has "verbose")
    | "config" :: rest => withOptions [helpSpec] rest fun _ => showConfiguration
    | unknown => do
      if (← readWords [helpSpec] false {} unknown).has "help" then pure help else throw ⟨⟩

end Command

def yesNo (b : Bool) : String := if b then "Yes" else "No"

def commaSeparated (items : List String) : String := ", ".intercalate items

def orElse (text default : String) : String := if text.isEmpty then default else text

/-- Shows the settings, with the password of the connection string masked. -/
def showConfiguration (settings : Settings) : Outcome :=
  let title := Printed.text "[bold]Current Configuration[/bold]"
  match maskPassword (settings.databaseUrl.getD "") with
  | .error e => ⟨1, some (.malformedUrl e), [title]⟩
  | .ok masked =>
    let lines := [
      "Database URL: " ++ orElse masked "Not set",
      "Schemas: " ++ commaSeparated settings.schemas,
      "Include views: " ++ yesNo settings.includeViews,
      "Timeout: " ++ settings.timeout,
      "Output directory: " ++ settings.outputDir,
      "Singular names: " ++ yesNo settings.singular,
      "Framework: " ++ settings.framework,
      "Excluded tables: " ++ orElse (commaSeparated settings.excludeTables) "None"]
    ⟨0, none, title :: lines.map fun l => .text ("  " ++ l)⟩

def summaryTable (structs : List Struct) : Printed :=
  if structs.isEmpty then .text "[yellow]No tables found.[/yellow]"
  else .table "Generated Structs" ["Table", "Struct", "Module", "Fields"] <|
    structs.map fun s =>
      [s.table.text, s.name, s.moduleName ++ ".rs", toString s.fields.length]

/-- What is shown after a run that succeeded. -/
def showSummary (summary : Summary) : List Printed :=
  summaryTable summary.structs ::
    summary.warnings.map (fun w => .text s!"[yellow]Warning: {w.message}[/yellow]") ++
    [.panel "Done"
      (s!"[green]Generated {summary.structs.length} structs[/green]\n" ++
        s!"Output: {summary.outputDir.text}")]

/-- What is shown while a run goes on. Text is marked up. -/
def progressMarkup (description : String) : String := "[progress.description]" ++ description

/-- Shows the connection string before a run starts, with its password masked. -/
def announce (console : Console) (options : RunOptions) : Except Failure Unit := do
  let masked ← (maskPassword (options.databaseUrl.getD "")).mapError .malformedUrl
  (console.accept (.progress (progressMarkup s!"Connecting to {masked}..."))).mapError .markup

/-- The line on a failure that is reported. -/
def errorLine (report : Report) : Printed := .text s!"[red]Error: {report.message}[/red]"

/-- Runs with the given options and shows how it went. -/
def generate (console : Console) (server : Script) (working : Path) (options : RunOptions)
    (state : Run.State) : Outcome × Run.State :=
  match announce console options with
  | .error failure => (⟨1, some failure, []⟩, state)
  | .ok () =>
    match (ExceptT.run (run server working options)).run state with
    | (.ok summary, state) => (console.print ⟨0, none, showSummary summary⟩, state)
    | (.error failure, state) =>
      match failure.report? with
      | some report => (console.print ⟨1, none, [errorLine report]⟩, state)
      | none => (⟨1, some failure, []⟩, state)

/-- The records that are shown: all if the run is verbose, else warnings. -/
def shownLog (verbose : Bool) (log : List Record) : List Record :=
  if verbose then log else log.filter (·.level == .warning)

/-- Executes a command line. The state that results has the records that are shown. Without a
console, what is printed is only recorded. -/
def execute (settings : Settings) (server : Script) (working : Path) (words : List String)
    (state : Run.State) (console : Console := .recorder) : Outcome × Run.State :=
  match Command.ofWords words with
  | .error _ => (⟨2, none, []⟩, state)
  | .ok .help => (⟨0, none, []⟩, state)
  | .ok .showConfiguration => (console.print (showConfiguration settings), state)
  | .ok (.generate overrides verbose) =>
    let (outcome, after) := generate console server working (.ofSettings settings overrides) state
    (outcome, { after with log := shownLog verbose after.log })

end SchemaStructs.CommandLine
