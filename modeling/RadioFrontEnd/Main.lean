import RadioFrontEnd.Probe.Run

/-!
# The probe as a program

What is left to do for the operating system: read the environment, the configuration files and the
device nodes, run the probe on them, print what it prints, and write back the nodes it changed.  A
node is read and written as a whole, so it has to be a regular file.
-/

namespace RadioFrontEnd.Probe

/-- The file at a path of the operating system, if there is one. -/
def fileAt? (path : String) : IO (Option File) := do
  try
    return some { kind := .regular (.ofBytes (← IO.FS.readBinFile path)) }
  catch e =>
    match e with
    | .permissionDenied _ _ _ => return some { kind := .regular (.zeros 0), denied := true }
    | .inappropriateType _ _ _ => return some { kind := .directory }
    | _ => return none

/-- Take the files at some paths from the operating system. -/
def takeFiles : Files → List String → IO Files
  | files, [] => return files
  | files, path :: paths => do
    match ← fileAt? path with
    | some file => takeFiles (files.install path file) paths
    | none => takeFiles files paths

/-- The content of a regular file. -/
def content? (files : Files) (path : String) : Option Memory :=
  match (files.locate path).toOption.bind files.get? with
  | some ⟨.regular content, _⟩ => some content
  | _ => none

/-- Give the files at some paths back to the operating system, if they changed. -/
def giveBack (before after : Files) : List String → IO Unit
  | [] => return ()
  | path :: paths => do
    match content? after path with
    | some content =>
      if content? before path ≠ some content then
        IO.FS.writeBinFile path content.toBytes
    | none => pure ()
    giveBack before after paths

/-- What the environment of the process says about configurations. -/
def processEnvironment : IO Environment := do
  return {
    config := ← IO.getEnv ConfigError.variableName
    home := (← IO.getEnv "HOME").getD ""
    configHome := ← IO.getEnv "XDG_CONFIG_HOME" }

/-- The paths at which the configuration may be. -/
def configPaths (env : Environment) (invocation : Invocation) : List String :=
  match invocation.config.or env.config with
  | some path => [path]
  | none => env.searchPath

/-- The paths of the nodes that a command may open. -/
def nodePaths (env : Environment) (invocation : Invocation) (files : Files) : List String :=
  match ((loadConfig env invocation.config).run files).result with
  | .ok (.ok config) =>
    config.device.user :: config.device.toCard.toList ++ config.device.toHost.toList
  | _ => []

/-- Run the probe on the files of the operating system. -/
def runOnSystem (arguments : List String) : IO Exit := do
  let env ← processEnvironment
  let empty := Files.fresh "here"
  match Invocation.ofArguments arguments with
  | .error halt => return halt.exit
  | .ok invocation =>
    let configured ← takeFiles empty (configPaths env invocation)
    let nodes := nodePaths env invocation configured
    let before ← takeFiles configured (standardNode :: nodes)
    let (exit, after) := run env arguments before
    giveBack before after nodes
    return exit

end RadioFrontEnd.Probe

/-- The probe. -/
def main (arguments : List String) : IO UInt32 := do
  let exit ← RadioFrontEnd.Probe.runOnSystem arguments
  IO.print exit.output
  match exit.report with
  | some report => IO.eprintln report
  | none => pure ()
  return exit.code.toUInt32
