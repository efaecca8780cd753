import SchemaStructs.Config.Duration
import SchemaStructs.Config.Settings

/-! # Options of a run -/

namespace SchemaStructs.Config

/-- A timeout as text or as a number of seconds. -/
inductive Timeout where
  | text (duration : String)
  | number (seconds : Seconds)
deriving DecidableEq, Repr

namespace Timeout

def seconds : Timeout → Except ConfigurationError Seconds
  | text duration => (parseDuration duration).map Numeric.Binary64.extended
  | number seconds => .ok seconds

end Timeout

structure RunOptions where
  databaseUrl : Option String := none
  outputDir : String := "./output"
  singular : Bool := false
  framework : String := "none"
  excludeTables : List String := []
  timeout : Timeout := .text "3s"
  schemas : List String := ["public"]
  includeViews : Bool := false
deriving DecidableEq, Repr

/-- Options given for one run; an absent one and an empty list leave the setting as it is. -/
structure Overrides where
  databaseUrl : Option String := none
  outputDir : Option String := none
  singular : Option Bool := none
  framework : Option String := none
  excludeTables : List String := []
  timeout : Option Timeout := none
  schemas : List String := []
  includeViews : Option Bool := none
deriving DecidableEq, Repr

def listOr (given default : List String) : List String := if given.isEmpty then default else given

def RunOptions.ofSettings (settings : Settings) (overrides : Overrides) : RunOptions where
  databaseUrl := overrides.databaseUrl.or settings.databaseUrl
  outputDir := overrides.outputDir.getD settings.outputDir
  singular := overrides.singular.getD settings.singular
  framework := overrides.framework.getD settings.framework
  excludeTables := listOr overrides.excludeTables settings.excludeTables
  timeout := overrides.timeout.getD (.text settings.timeout)
  schemas := listOr overrides.schemas settings.schemas
  includeViews := overrides.includeViews.getD settings.includeViews

end SchemaStructs.Config
