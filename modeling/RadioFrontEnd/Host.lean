import RadioFrontEnd.Simulator
import RadioFrontEnd.Transport

/-!
# Hosts

A host has files and a front end, which is either simulated or attached through device nodes among
those files.  Whatever drives a front end drives a host's: the simulated one leaves the files alone,
and the attached one works on them.

`Device.connect` takes the device nodes if they can all be opened and a simulated front end otherwise,
so it always ends with an open front end.
-/

namespace RadioFrontEnd

/-- A front end of either sort. -/
inductive Device where
  /-- A simulated front end. -/
  | simulated (s : Simulator)
  /-- A card on its nodes. -/
  | attached (t : Transport)
  deriving DecidableEq

/-- A front end and the files of the system it belongs to. -/
structure Host where
  /-- The files. -/
  files : Files
  /-- The front end. -/
  device : Device
  deriving DecidableEq

namespace Host

variable {α : Type}

/-- Do something with the files. -/
def onFiles (a : Action Files α) : Action Host α :=
  a.on (·.files) fun files h => { h with files }

/-- Do something with the front end, of whichever sort it is. -/
def onDevice (ifSimulated : Action Simulator α) (ifAttached : Action (Attached Files) α) :
    Action Host α := fun h =>
  match h.device with
  | .simulated s => ifSimulated.on (fun _ => s) (fun s h => { h with device := .simulated s }) h
  | .attached t =>
    ifAttached.on (fun h => ⟨t, h.files⟩)
      (fun a _ => { files := a.system, device := .attached a.transport }) h

/-- Is the front end open? -/
def isOpen (h : Host) : Bool :=
  match h.device with
  | .simulated s => s.isOpen
  | .attached t => t.user.isSome

instance : FrontEnd Host where
  readRegister address :=
    onDevice (FrontEnd.readRegister address) (FrontEnd.readRegister address)
  writeRegister address value :=
    onDevice (FrontEnd.writeRegister address value) (FrontEnd.writeRegister address value)
  writeBlock data offset :=
    onDevice (FrontEnd.writeBlock data offset) (FrontEnd.writeBlock data offset)
  readBlock length offset :=
    onDevice (FrontEnd.readBlock length offset) (FrontEnd.readBlock length offset)
  isOpen := isOpen

/-- Close the front end. -/
def close : Action Host Unit := onDevice (.modify Simulator.close) Attached.close

end Host

namespace Device

/-- The card on its nodes, if they can be opened. -/
def attach (paths : NodePaths) : Action Files (Except FrontEndError Device) := do
  return (← Transport.openNodes paths).map .attached

/-- The card on its nodes, or else a simulated front end. -/
def connect (paths : NodePaths) : Action Files Device := do
  match ← attach paths with
  | .ok device => return device
  | .error e =>
    .report .warn s!"{e.message}; using simulated XDMA device"
    return .simulated (.fresh {})

end Device
end RadioFrontEnd
