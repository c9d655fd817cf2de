import SyntaxPaths.Failure

/-!
# What can be wrong with a configuration
-/

namespace SyntaxPaths

/-- The causes for which a configuration is refused. -/
inductive ConfigError where
  /-- A file cannot be read. -/
  | fileNotFound (path : String)
  /-- A text is not a configuration, or a configuration cannot be written as a
  text. -/
  | malformed (path message : String)
  /-- A setting is out of range. -/
  | validationFailed (field message : String)
  /-- A text does not stand for a value of the setting. -/
  | invalidValue (field message : String)
  deriving DecidableEq, Repr

namespace ConfigError

/-- The cause in one sentence. -/
def message : ConfigError → String
  | .fileNotFound path => "Config file not found: " ++ path
  | .malformed path message => "Config parse error in " ++ path ++ ": " ++ message
  | .validationFailed field message => "Config validation failed for " ++ field ++ ": " ++ message
  | .invalidValue field message => "Invalid config value for " ++ field ++ ": " ++ message

instance : Failure ConfigError where
  message := message
  code := fun _ => .config

end ConfigError

end SyntaxPaths
