import RadioFrontEnd.Config.Validation
import RadioFrontEnd.Errno
import RadioFrontEnd.Yaml.Decoder

/-!
# Failures of configurations

A configuration file can be missing, unreadable, no configuration document, or a document of a
configuration that is of no use.
-/

namespace RadioFrontEnd

/-- The sorts of configuration failures. -/
inductive ConfigFault where
  /-- There is no such file. -/
  | notFound
  /-- The file could not be read or written. -/
  | read
  /-- The file is no configuration document. -/
  | parse
  /-- The configuration is of no use. -/
  | validation
  deriving DecidableEq, Repr

/-- The wording of a failure of some sort, given what there is to say. -/
def ConfigFault.describe (fault : ConfigFault) (detail : String) : String :=
  match fault with
  | notFound => s!"config not found: {detail}"
  | read => s!"failed to read config: {detail}"
  | parse => s!"failed to parse config: {detail}"
  | validation => s!"invalid config: {detail}"

/-- A failure of a configuration. -/
inductive ConfigError where
  /-- The file that the environment names is not there. -/
  | notFound (path : String)
  /-- A file could not be read or written. -/
  | file (path : String) (cause : FileError)
  /-- A file is no configuration document. -/
  | document (cause : Yaml.DecodeError)
  /-- A configuration is of no use. -/
  | invalid (violation : Violation)
  deriving DecidableEq

namespace ConfigError

/-- The environment variable that names a configuration file. -/
def variableName : String := "SATURN_CONFIG"

/-- The sort of a failure. -/
def fault : ConfigError → ConfigFault
  | notFound _ => .notFound
  | file _ _ => .read
  | document _ => .parse
  | invalid _ => .validation

/-- What there is to say about a failure. -/
def detail : ConfigError → String
  | notFound path => s!"{path} ({variableName})"
  | file path cause => s!"{path}: {cause.message}"
  | document cause => cause.message
  | invalid violation => violation.message

/-- The wording of a failure. -/
def message (e : ConfigError) : String := e.fault.describe e.detail

/-- The wording without a place in a document. -/
def summary : ConfigError → String
  | document cause => ConfigFault.parse.describe cause.summary
  | e => e.message

end ConfigError
end RadioFrontEnd
