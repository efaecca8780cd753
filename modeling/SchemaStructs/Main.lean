import SchemaStructs.CommandLine.Display

/-! # The program

The program reads settings from the environment and from a file of variables. It has no connection
to a server of its own, so that `generate` reports every server as unreachable. -/

namespace SchemaStructs.Program

open CommandLine Config

def settingNames : List String := [
  "DATABASE_URL", "TIMEOUT", "SCHEMAS", "INCLUDE_VIEWS", "OUTPUT_DIR", "SINGULAR", "FRAMEWORK",
  "EXCLUDE_TABLES"]

/-- The variables that settings are read from, in upper and in lower case. -/
def variableNames : List String :=
  ("DATABASE_URL" :: settingNames.map ("AUTOSTRUCT_" ++ ·)).flatMap fun name =>
    [name, name.toLower]

def readEnvironment : IO (Entries String String) :=
  variableNames.filterMapM fun name => do
    pure ((← IO.getEnv name).map (name, ·))

/-- The text of a file that can be read. -/
def readText? (path : String) : IO (Option String) := do
  try
    pure (some (← IO.FS.readFile path))
  catch _ => pure none

/-- The places of the file of variables: here, at home, and above the directory of the program. -/
def envFilePlaces : IO EnvFilePlaces := do
  let home := (← IO.getEnv "HOME").getD ""
  let program := Files.Path.components (toString (← IO.appPath))
  pure {
    working := ".env"
    user := home ++ "/.autostruct/.env"
    program := Files.Path.text (program.dropLast.dropLast ++ [".env"]) }

def readEnvFile : IO (Option String) := do
  let places ← envFilePlaces
  let texts ← [places.working, places.user, places.program].filterMapM fun path => do
    pure ((← readText? path).map (path, ·))
  pure ((places.find? fun path => (texts.lookup path).isSome).bind fun path => texts.lookup path)

/-- A server that cannot be reached. -/
def unreachable : Server.Script := { connectError := some "this program has no database driver" }

def showLines (lines : List String) : IO Unit := lines.forM IO.println

def reportLines (lines : List String) : IO Unit := lines.forM IO.eprintln

def execute (settings : Settings) (words : List String) : IO UInt32 := do
  let working := Files.Path.components (toString (← IO.currentDir))
  let (outcome, state) := CommandLine.execute settings unreachable working words {} .terminal
  reportLines (state.log.map (·.message))
  showLines (outcome.printed.flatMap Printed.lines)
  reportLines (outcome.unreported.map (·.message)).toList
  if outcome.status = 2 || outcome.printed.isEmpty && outcome.unreported.isNone then
    reportLines usageLines
  pure (.ofNat outcome.status)

end SchemaStructs.Program

def main (words : List String) : IO UInt32 := do
  match SchemaStructs.Config.Settings.load (← SchemaStructs.Program.readEnvironment)
      (← SchemaStructs.Program.readEnvFile) with
  | .ok settings => SchemaStructs.Program.execute settings words
  | .error e =>
    SchemaStructs.Program.reportLines [e.message]
    pure 1
