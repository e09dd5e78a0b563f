import Intercept.IoFault

/-!
# Failures of the settings

The settings are read from a file, changed by the environment, and checked.
-/

namespace Intercept.Failure

/-- A failure of loading or writing the settings. -/
inductive Settings where
  | notFound (path : String)
  /-- The text is not one of settings; what is said is where it came from and what is wrong. -/
  | parse (text : String)
  | invalid (rule : String)
  | environment (setting reason : String)
  | io (fault : IoFault)
deriving DecidableEq

namespace Settings

def sort : Settings → String
  | .notFound _ => "file_not_found"
  | .parse _ => "parse"
  | .invalid _ => "validation"
  | .environment _ _ => "env"
  | .io _ => "io"

def text : Settings → String
  | .notFound path => "Configuration file not found: " ++ path
  | .parse text => "Failed to parse configuration: " ++ text
  | .invalid rule => "Configuration validation failed: " ++ rule
  | .environment setting reason => "Environment variable error: " ++ setting ++ ": " ++ reason
  | .io fault => "I/O error reading configuration: " ++ fault.text

end Settings

end Intercept.Failure
