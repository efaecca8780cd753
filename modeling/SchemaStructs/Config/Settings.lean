import SchemaStructs.Config.EnvFile
import SchemaStructs.Config.JsonText
import SchemaStructs.Text.Case

/-! # Settings

Settings come from the environment and from a file of variables; the environment wins. Names of
variables are compared without case. -/

namespace SchemaStructs.Config

structure Settings where
  databaseUrl : Option String := none
  timeout : String := "3s"
  schemas : List String := ["public"]
  includeViews : Bool := false
  outputDir : String := "./output"
  singular : Bool := false
  framework : String := "none"
  excludeTables : List String := []
deriving DecidableEq, Repr

inductive SettingsError where
  /-- a list that is not written in JSON, or too deep -/
  | unreadableList (error : JsonError)
  /-- settings with a value of the wrong form, in order -/
  | invalid (fields : List String)
deriving DecidableEq, Repr

def SettingsError.message : SettingsError → String
  | .unreadableList .malformed => "a setting that is a list is not written in JSON"
  | .unreadableList .tooDeep => "a setting has too many lists in one another"
  | .invalid fields => "settings with a value of the wrong form: " ++ ", ".intercalate fields

/-- Variables by name in lower case. -/
def foldNames (given : EnvFile.Variables) : EnvFile.Variables :=
  .ofPairs (given.map fun (name, value) => (Text.lowercase name, value))

/-- The settings that one source gives, before lists and truth values are checked. -/
structure SettingsSource where
  databaseUrl : Option String
  timeout : Option String
  schemas : Option JsonValue
  includeViews : Option String
  outputDir : Option String
  singular : Option String
  framework : Option String
  excludeTables : Option JsonValue

namespace SettingsSource

/-- A list in JSON; `null` leaves the setting open. -/
def list? (value : Option String) : Except SettingsError (Option JsonValue) :=
  match value with
  | none => .ok none
  | some text =>
    match JsonValue.ofText text with
    | .error e => .error (.unreadableList e)
    | .ok .null => .ok none
    | .ok value => .ok (some value)

/-- Reads the variables of one source. The plain name of the connection string comes before the
prefixed one. -/
def ofVariables (given : EnvFile.Variables) : Except SettingsError SettingsSource := do
  let folded := foldNames given
  let named (name : String) : Option String := (folded.get? name).join
  let setting (name : String) : Option String := named ("autostruct_" ++ name)
  let schemas ← list? (setting "schemas")
  let excludeTables ← list? (setting "exclude_tables")
  pure {
    databaseUrl := (named "database_url").or (setting "database_url")
    timeout := setting "timeout"
    schemas
    includeViews := setting "include_views"
    outputDir := setting "output_dir"
    singular := setting "singular"
    framework := setting "framework"
    excludeTables }

/-- The settings of two sources; the first wins. -/
def or (first second : SettingsSource) : SettingsSource where
  databaseUrl := first.databaseUrl.or second.databaseUrl
  timeout := first.timeout.or second.timeout
  schemas := first.schemas.or second.schemas
  includeViews := first.includeViews.or second.includeViews
  outputDir := first.outputDir.or second.outputDir
  singular := first.singular.or second.singular
  framework := first.framework.or second.framework
  excludeTables := first.excludeTables.or second.excludeTables

end SettingsSource

/-- A truth value in one of its usual spellings, in any case. -/
def truthValue? (text : String) : Option Bool :=
  let spelled := .ofList (text.toList.map Char.toLower)
  if ["1", "t", "true", "on", "y", "yes"].contains spelled then some true
  else if ["0", "f", "false", "off", "n", "no"].contains spelled then some false
  else none

/-- A setting that was given has to be valid; one that was not has its default. -/
def checked {α β : Type} (valid? : α → Option β) (default : β) (given : Option α) : Option β :=
  match given with
  | some value => valid? value
  | none => some default

namespace Settings

def ofSource (source : SettingsSource) : Except SettingsError Settings :=
  let schemas := checked JsonValue.texts? ["public"] source.schemas
  let includeViews := checked truthValue? false source.includeViews
  let singular := checked truthValue? false source.singular
  let excludeTables := checked JsonValue.texts? [] source.excludeTables
  match schemas, includeViews, singular, excludeTables with
  | some schemas, some includeViews, some singular, some excludeTables =>
    .ok {
      databaseUrl := source.databaseUrl
      timeout := source.timeout.getD "3s"
      schemas
      includeViews
      outputDir := source.outputDir.getD "./output"
      singular
      framework := source.framework.getD "none"
      excludeTables }
  | _, _, _, _ =>
    .error <| .invalid <|
      (if excludeTables.isNone then ["exclude_tables"] else []) ++
      (if includeViews.isNone then ["include_views"] else []) ++
      (if schemas.isNone then ["schemas"] else []) ++
      (if singular.isNone then ["singular"] else [])

/-- Settings from the environment and, if there is one, the text of a file of variables. -/
def load (environment : Entries String String) (file : Option String) :
    Except SettingsError Settings := do
  let fromEnvironment ← SettingsSource.ofVariables
    (environment.map fun (name, value) => (name, some value))
  let source ← match file with
    | some text => do
      pure (fromEnvironment.or (← SettingsSource.ofVariables (EnvFile.read environment text)))
    | none => pure fromEnvironment
  ofSource source

end Settings

/-- The places of a file of variables, in the order in which they are looked at. -/
structure EnvFilePlaces where
  working : String
  user : String
  program : String

/-- The first place that has a file. -/
def EnvFilePlaces.find? (places : EnvFilePlaces) (present : String → Bool) : Option String :=
  [places.working, places.user, places.program].find? present

end SchemaStructs.Config
