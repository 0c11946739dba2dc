import RadioFrontEnd.Proofs.Access
import RadioFrontEnd.Proofs.Fifo.Monitor
import RadioFrontEnd.Session

/-!
# Operations

All that a host can do with a front end, from single accesses up to a start: an `Operation` is one
of these, and a run is a list of them.  `Operation.perform` does it on any device, given how that
device is closed, and the `Response` is what the host gets for it.

The monitors are part of the operations and not of the device, so one run may use several of them,
with different register maps and depth tables.
-/

namespace RadioFrontEnd

/-- Something that a host does with a front end. -/
inductive Operation where
  /-- Make an access. -/
  | access (a : Access)
  /-- Read the firmware identity. -/
  | firmware (map : RegisterMap)
  /-- Make a monitor with the depth table for the firmware. -/
  | makeMonitor (map : RegisterMap)
  /-- Make a call of a monitor. -/
  | call (m : Fifo.Monitor) (k : Fifo.Monitor.Call)
  /-- Start a session. -/
  | start (config : Config)
  /-- Close the front end. -/
  | close

/-- What a host gets for an operation. -/
inductive Response where
  /-- The reply to an access. -/
  | reply (r : Reply)
  /-- The firmware identity. -/
  | firmware (identity : Firmware)
  /-- A monitor. -/
  | monitor (m : Fifo.Monitor)
  /-- What a call gives: a reading, if the call is for one. -/
  | reading (status : Option Fifo.Status)
  /-- The session, or why it did not start. -/
  | session (outcome : Except FrontEndError Session)
  /-- Nothing. -/
  | done

/-- Do something with a front end that is closed in the given way. -/
def Operation.perform {σ : Type} [FrontEnd σ] (shut : Action σ Unit) :
    Operation → Action σ Response
  | access a => .reply <$> a.perform
  | firmware map => .firmware <$> Firmware.read map
  | makeMonitor map => .monitor <$> Fifo.Monitor.forDevice map
  | call m k => .reading <$> m.perform k
  | start config => .session <$> Session.start config
  | close => (fun _ => .done) <$> shut

end RadioFrontEnd
