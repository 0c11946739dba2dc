import RadioFrontEnd.Config.Load
import RadioFrontEnd.Fifo.Monitor
import RadioFrontEnd.Transport

/-!
# Sessions

Bringing a front end up takes two steps: read the version register, then make the FIFO monitor with
the depth table for that version.  That is the only register access of a start.  Firmware outside
the accepted range stops the start if the configuration is strict, and is reported otherwise.

A session can also start from a configuration file, which then names the device nodes.  Loading comes
first, then the nodes are opened, then the firmware is read; the first step that fails ends it.
-/

namespace RadioFrontEnd

/-- The firmware must lie in the accepted range. -/
def FirmwareRange.check (range : FirmwareRange) (fw : Firmware) : Except FrontEndError Unit :=
  if range.supports fw then .ok () else .error (.unsupportedFirmware fw range)

/-- A front end that was brought up. -/
structure Session where
  /-- The firmware that was found. -/
  firmware : Firmware
  /-- The monitor for that firmware. -/
  monitor : Fifo.Monitor
  deriving DecidableEq

/-- Why a session did not start from a configuration file. -/
inductive StartupError where
  /-- The configuration could not be loaded. -/
  | config (cause : ConfigError)
  /-- The front end could not be brought up. -/
  | frontEnd (cause : FrontEndError)
  deriving DecidableEq

/-- The wording of a startup failure. -/
def StartupError.message : StartupError → String
  | config cause => cause.message
  | frontEnd cause => cause.message

namespace Session

/-- Make the session for a firmware that was read. -/
def ofFirmware {σ : Type} (config : Config) (firmware : Firmware) : Action σ Session := do
  return ⟨firmware, config.registers, ← Fifo.Depths.resolve firmware⟩

/-- Bring up an open front end. -/
def start {σ : Type} [FrontEnd σ] (config : Config) : Action σ (Except FrontEndError Session) := do
  let firmware ← Firmware.read config.registers
  .report .info s!"Saturn firmware {firmware.text}"
  match config.firmware.check firmware with
  | .ok () => return .ok (← ofFirmware config firmware)
  | .error e =>
    if config.strictFirmware then
      .report .error e.message
      return .error e
    else
      .report .warn e.message
      return .ok (← ofFirmware config firmware)

/-- Open the device nodes of a configuration and bring the front end up. -/
def openNodes (config : Config) : Action Files (Except FrontEndError (Transport × Session)) := do
  match ← Transport.openNodes config.device with
  | .error e => return .error e
  | .ok transport =>
    let session ← (start config).on (Attached.mk transport) (fun a _ => a.system)
    return session.map (transport, ·)

/-- Load a configuration file, open the device nodes it names and bring the front end up. -/
def fromConfigFile (path : String) : Action Files (Except StartupError (Transport × Session)) := do
  match ← Config.loadFrom path with
  | .error e => return .error (.config e)
  | .ok config => return (← openNodes config).mapError .frontEnd

end Session
end RadioFrontEnd
