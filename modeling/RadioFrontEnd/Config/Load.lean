import RadioFrontEnd.Action
import RadioFrontEnd.Config.Error
import RadioFrontEnd.Config.Schema
import RadioFrontEnd.Files

/-!
# Loading and saving configurations

A configuration is loaded from one file.  The environment may name it, and then it has to be there.
Otherwise the search path is tried in order, and the first file that is there decides, whatever is in
it; if none is there, the configuration is the standard one.  Nothing is returned that is of no use.
-/

namespace RadioFrontEnd

/-- What the environment says about configurations. -/
structure Environment where
  /-- The path of a configuration file. -/
  config : Option String := none
  /-- The home directory of the user; empty if there is none. -/
  home : String
  /-- The directory for the configurations of the user, which counts if it is absolute. -/
  configHome : Option String := none
  deriving DecidableEq, Repr

namespace Environment

/-- A path within a directory. -/
def join (directory name : String) : String :=
  if directory.endsWith "/" then directory ++ name else directory ++ "/" ++ name

/-- The directory for the configurations of the user. -/
def configDirectory? (env : Environment) : Option String :=
  if env.home = "" then none
  else (env.configHome.filter (·.startsWith "/")).getD (join env.home ".config")

/-- The paths that are tried when the environment names no file. -/
def searchPath (env : Environment) : List String :=
  ["./saturn.yaml"] ++
    (env.configDirectory?.map fun d => join (join d "saturn") "config.yaml").toList ++
    ["/etc/saturn/config.yaml"]

end Environment

namespace Config

/-- The configuration in a document text, if it is of use. -/
def ofValidText (text : String) : Except ConfigError Config := do
  let c ← (ofText text).mapError .document
  c.validate.mapError .invalid
  return c

/-- The configuration in a file, if it is of use. -/
def fromFile (files : Files) (path : String) : Except ConfigError Config := do
  ofValidText (← (files.readText path).mapError (.file path))

/-- Load the configuration in a file, and report it. -/
def loadFrom (path : String) : Action Files (Except ConfigError Config) := do
  let result := fromFile (← Action.get) path
  if result.isOk then
    .report .debug s!"loaded configuration from {path}"
  return result

/-- Load the configuration that the environment leads to. -/
def load (env : Environment) : Action Files (Except ConfigError Config) := do
  let files ← Action.get
  match env.config with
  | some path =>
    if files.isPresent path then loadFrom path else return .error (.notFound path)
  | none =>
    match env.searchPath.find? files.isPresent with
    | some path => loadFrom path
    | none => return .ok {}

/-- Save a configuration as a document, in place of what a file holds. -/
def save (c : Config) (path : String) : Action Files (Except ConfigError Unit) := do
  match (← Action.get).writeText path c.toText with
  | .ok files => .set files; return .ok ()
  | .error cause => return .error (.file path cause)

end Config
end RadioFrontEnd
