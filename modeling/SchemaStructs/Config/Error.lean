/-! # Configuration errors -/

namespace SchemaStructs.Config

inductive ConfigurationError where
  | missingUrl
  /-- the scheme, or the whole connection string if it has none, and the masked string -/
  | unsupportedScheme (shown masked : String)
  | unknownFramework (name : String)
  | malformedDuration (text : String)
  | durationNotPositive (text : String)
deriving DecidableEq, Repr

namespace ConfigurationError

def message : ConfigurationError → String
  | missingUrl => "No database URL given. Use --database-url or set DATABASE_URL"
  | unsupportedScheme shown _ =>
    s!"Unsupported database URL scheme '{shown}'. Expected one of: postgres, postgresql"
  | unknownFramework name => s!"Unknown framework '{name}'. Choose one of: none, sqlx"
  | malformedDuration text =>
    s!"Invalid duration '{text}'. Use a number with an optional unit (ms, s, m, h), e.g. 3s"
  | durationNotPositive text => s!"Duration must be positive, got '{text}'"

/-- The texts that caused the error, by name. -/
def details : ConfigurationError → List (String × String)
  | missingUrl => []
  | unsupportedScheme _ masked => [("database_url", masked)]
  | unknownFramework name => [("framework", name)]
  | malformedDuration text | durationNotPositive text => [("value", text)]

end ConfigurationError

end SchemaStructs.Config
