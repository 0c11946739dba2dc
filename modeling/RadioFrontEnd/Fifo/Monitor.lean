import RadioFrontEnd.Fifo.Depths
import RadioFrontEnd.Fifo.Status
import RadioFrontEnd.FrontEnd
import RadioFrontEnd.RegisterMap

/-!
# The FIFO monitor

The monitor is what a host drives the stream FIFOs with: it tells the hardware how deep each FIFO
is, reads how full it is, and resets it.  A monitor is a register map and a depth table; the table
is fixed when the monitor is made, and later changes of the version register do not reach it.

The channels share one reset register, and a FIFO is reset by a rising edge of its bit.  So a reset
reads the register, writes it with the bit low and then with the bit high, and leaves the other bits
as they were read.
-/

namespace RadioFrontEnd

/-- Read and decode the version register. -/
def Firmware.read {σ : Type} [FrontEnd σ] (map : RegisterMap) : Action σ Firmware := do
  return .decode (← FrontEnd.readRegister map.version)

namespace Fifo

/-- The depth table for a firmware, with a report of what was chosen. -/
def Depths.resolve {σ : Type} (fw : Firmware) : Action σ Depths := do
  if 9 < fw.version then
    if fw.version ≤ 12 then
      .report .info "loading new FIFO sizes for updated firmware <= 12"
    else
      .report .info "loading new FIFO sizes for updated firmware V13+"
  .report .debug "FIFO depth table resolved"
  return .ofVersion fw.version

/-- The depth table for the firmware that a device reports. -/
def Depths.forDevice {σ : Type} [FrontEnd σ] (map : RegisterMap) : Action σ Depths := do
  Depths.resolve (← Firmware.read map)

/-- What a host drives the stream FIFOs with. -/
structure Monitor where
  /-- Where the registers are. -/
  map : RegisterMap
  /-- How deep the FIFOs are. -/
  depths : Depths
  deriving DecidableEq

namespace Monitor

variable {σ : Type} [FrontEnd σ]

/-- The monitor for a device, with the depth table for the firmware that it reports. -/
def forDevice (map : RegisterMap) : Action σ Monitor := do
  return ⟨map, ← Depths.forDevice map⟩

/-- The bit of a configuration register that asks for an interrupt. -/
def interruptBit : UInt32 := 0x80000000

/-- The word that configures a channel: its depth, and whether to interrupt. -/
def configWord (m : Monitor) (c : Channel) (interrupt : Bool) : UInt32 :=
  if interrupt then m.depths.get c ||| interruptBit else m.depths.get c

/-- Tell the hardware the depth of a channel. -/
def configureChannel (m : Monitor) (c : Channel) (interrupt : Bool) : Action σ Unit := do
  let value := m.configWord c interrupt
  .report .debug s!"configure FIFO monitor {c.name}: 0x{Numeral.hexPadded 8 value.toNat}"
  let address ← .ofExcept (m.map.config c)
  FrontEnd.writeRegister address value

/-- Read how full a channel is.  The flags of the reading are cleared in the hardware. -/
def readStatus (m : Monitor) (c : Channel) : Action σ Status := do
  let address ← .ofExcept (m.map.status c)
  let status := Status.decode (← FrontEnd.readRegister address) c (m.depths.get c)
  if status.overflowed then
    .report .trace s!"{c.name} FIFO overflow, {status.occupied} occupied"
  if status.underflowed then
    .report .trace s!"{c.name} FIFO underflow"
  return status

/-- Reset the FIFO of a channel: its bit low, then high. -/
def resetChannel (m : Monitor) (c : Channel) : Action σ Unit := do
  let mask ← .ofExcept (m.map.resetMask c)
  let cleared := (← FrontEnd.readRegister m.map.reset) &&& ~~~mask
  FrontEnd.writeRegister m.map.reset cleared
  FrontEnd.writeRegister m.map.reset (cleared ||| mask)
  .report .debug s!"reset {c.name} FIFO"

/-- Do something for every channel in order. -/
def forEach (f : Channel → Action σ Unit) : List Channel → Action σ Unit
  | [] => return ()
  | c :: cs => do
    f c
    forEach f cs

/-- Tell the hardware the depth of every channel. -/
def configureAll (m : Monitor) (interrupt : Bool) : Action σ Unit :=
  forEach (m.configureChannel · interrupt) Channel.all

/-- Reset the FIFO of every channel. -/
def resetAll (m : Monitor) : Action σ Unit :=
  forEach m.resetChannel Channel.all

end Monitor
end Fifo
end RadioFrontEnd
