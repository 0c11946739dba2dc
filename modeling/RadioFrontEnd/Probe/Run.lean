import RadioFrontEnd.DmaBuffer
import RadioFrontEnd.Host
import RadioFrontEnd.Probe.CommandLine
import RadioFrontEnd.Probe.Report
import RadioFrontEnd.Probe.Terminal
import RadioFrontEnd.Session

/-!
# The probe

The probe answers a command line: it loads the configuration, opens a front end, does what it is
asked to do and prints what it finds.  `Probe.run` is the whole program as a function of the
environment, the arguments and the files; it gives what is printed, the report of a failure, the exit
code, and the files as they are left.

A command that only decodes a frame header still loads the configuration first, and fails with it.
-/

namespace RadioFrontEnd.Probe

/-- Why a command failed. -/
inductive Failure where
  /-- The configuration could not be loaded. -/
  | config (doing : String) (cause : ConfigError)
  /-- The front end could not be opened. -/
  | opening (path : String) (cause : FrontEndError)
  /-- The front end failed. -/
  | frontEnd (cause : FrontEndError)
  deriving DecidableEq

namespace Failure

/-- What failed. -/
def message : Failure → String
  | config doing _ => doing
  | opening path _ => s!"opening {path} (use --simulate to run without a board)"
  | frontEnd cause => cause.message

/-- What lies behind the failure, outermost first. -/
def causes : Failure → List String
  | config _ cause => [cause.message]
  | opening _ cause => cause.message :: cause.causes
  | frontEnd cause => cause.causes

/-- The report of the failure. -/
def report (f : Failure) : String := failureReport f.message f.causes

end Failure

/-! ## Commands -/

/-- Open the front end that a command line asks for. -/
def openDevice (config : Config) (simulate : Bool) : Action Files (Except Failure Device) := do
  if simulate then return .ok (.simulated (.fresh config.registers))
  else return (← Device.attach config.device).mapError (.opening config.device.user)

/-- Open the front end and do something with it. -/
def withDevice (config : Config) (simulate : Bool)
    (a : Action (Terminal Host) (Except Failure Unit)) :
    Action (Terminal Files) (Except Failure Unit) := do
  match ← Terminal.within (openDevice config simulate) with
  | .error f => return .error f
  | .ok device => a |> Terminal.through (⟨·, device⟩) fun h _ => h.files

/-- Open the front end, bring it up and do something with the session. -/
def withSession (config : Config) (simulate : Bool)
    (a : Session → Action (Terminal Host) Unit) :
    Action (Terminal Files) (Except Failure Unit) :=
  withDevice config simulate do
    match ← Terminal.within (Session.start config) with
    | .error e => return .error (.frontEnd e)
    | .ok session =>
      a session
      return .ok ()

/-- Show the firmware identity. -/
def showIdentity (config : Config) : Action (Terminal Host) (Except Failure Unit) := do
  let fw ← Terminal.within (Firmware.read config.registers)
  let verdict := if config.firmware.supports fw then "supported" else "UNSUPPORTED"
  Terminal.printAll [
    s!"Software ID        : {fw.idText}",
    s!"Firmware version   : {fw.version}",
    s!"Major version      : {fw.major}",
    s!"Status             : {verdict}"]
  return .ok ()

/-- The node that tells whether there is a card at all. -/
def standardNode : String := ({} : NodePaths).user

/-- Show the accepted firmware, and the firmware identity if there is a card. -/
def showVersion (config : Config) (simulate : Bool) :
    Action (Terminal Files) (Except Failure Unit) := do
  Terminal.print s!"Supported firmware : {config.firmware.text}"
  let files := (← Action.get).inner
  if !simulate && !files.isPresent standardNode then
    Terminal.print "Device             : not present"
    return .ok ()
  else withDevice config simulate (showIdentity config)

/-- Read and show the channels. -/
def showChannels (monitor : Fifo.Monitor) : List Channel → Action (Terminal Host) Unit
  | [] => return ()
  | c :: cs => do
    let status ← Terminal.within (monitor.readStatus c)
    Terminal.print (statusRow c (monitor.depths.get c) status)
    showChannels monitor cs

/-- Show how full the FIFOs are. -/
def showStatus (session : Session) : Action (Terminal Host) Unit := do
  Terminal.print s!"Firmware {session.firmware.text}"
  Terminal.print statusHead
  showChannels session.monitor Channel.all

/-- Tell the hardware the depths of the FIFOs. -/
def configure (interrupt : Bool) (session : Session) : Action (Terminal Host) Unit := do
  Terminal.within (session.monitor.configureAll interrupt)
  Terminal.printAll (Channel.all.map fun c =>
    configuredRow interrupt c (session.monitor.depths.get c))

/-- Reset the FIFO of a channel. -/
def reset (c : Channel) (session : Session) : Action (Terminal Host) Unit := do
  Terminal.within (session.monitor.resetChannel c)
  Terminal.print s!"{c.name} FIFO reset"

/-- Dump a block.  Nothing is printed unless all of it was read. -/
def dump (offset : UInt32) (length : Nat) : Action (Terminal Host) (Except Failure Unit) := do
  match DmaBuffer.new length with
  | .error e => return .error (.frontEnd (.allocation e.message))
  | .ok buffer =>
    match ← Terminal.within (buffer.readFrom offset) with
    | (_, .error e) => return .error (.frontEnd e)
    | (buffer, .ok ()) =>
      Terminal.printAll (dumpLines offset.toNat buffer.bytes.toBytes.toList)
      return .ok ()

/-- Do what a command asks for. -/
def perform (config : Config) (simulate : Bool) :
    Command → Action (Terminal Files) (Except Failure Unit)
  | .version => showVersion config simulate
  | .status => withSession config simulate showStatus
  | .configure interrupt => withSession config simulate (configure interrupt)
  | .reset c => withSession config simulate (reset c)
  | .decode header => do
    Terminal.printAll (headerLines header)
    return .ok ()
  | .dump offset length =>
    withDevice config simulate (dump (offset.getD config.registers.streamBase) length)

/-- Load the configuration that a command line asks for. -/
def loadConfig (env : Environment) : Option String → Action Files (Except Failure Config)
  | some path => return (← Config.loadFrom path).mapError (.config s!"loading {path}")
  | none => return (← Config.load env).mapError (.config "loading configuration")

/-- Load the configuration and do what the command asks for. -/
def obey (env : Environment) (invocation : Invocation) :
    Action (Terminal Files) (Except Failure Unit) := do
  match ← Terminal.within (loadConfig env invocation.config) with
  | .error f => return .error f
  | .ok config => perform config invocation.simulate invocation.command

/-! ## The program -/

/-- How a run of the probe ends. -/
structure Exit where
  /-- The exit code. -/
  code : UInt8
  /-- What is printed. -/
  output : String
  /-- The report of what went wrong. -/
  report : Option String
  deriving DecidableEq, Repr

/-- What the probe says about its version. -/
def versionText : String := "saturn-probe 0.1.0\n"

/-- What the probe is for. -/
def aboutText : String := "Saturn XDMA diagnostics"

/-- How to use the probe. -/
def helpText : String :=
  aboutText ++ "\n\nUsage: saturn-probe [OPTIONS] <COMMAND>\n"

/-- The end of a run whose arguments lead to no command. -/
def Halt.exit : Halt → Exit
  | version => ⟨0, versionText, none⟩
  | help => ⟨0, helpText, none⟩
  | empty => ⟨2, "", some aboutText⟩
  | wrong e => ⟨2, "", some s!"error: {e.message}"⟩

/-- The end of a run of a command. -/
def exitOf (outcome : Outcome (Terminal Files) (Except Failure Unit)) : Exit :=
  let output := outcome.state.text
  match outcome.result with
  | .ok (.ok ()) => ⟨0, output, none⟩
  | .ok (.error f) => ⟨1, output, some f.report⟩
  | .error _ => ⟨101, output, none⟩

/-- Run the probe. -/
def run (env : Environment) (arguments : List String) (files : Files) : Exit × Files :=
  match Invocation.ofArguments arguments with
  | .error halt => (halt.exit, files)
  | .ok invocation =>
    let outcome := (obey env invocation).run (.blank files)
    (exitOf outcome, outcome.state.inner)

end RadioFrontEnd.Probe
