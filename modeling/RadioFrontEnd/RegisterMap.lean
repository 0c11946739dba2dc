import RadioFrontEnd.Channel
import RadioFrontEnd.Word

/-!
# The register map

Where the registers of a front end are.  A board may move any of them, so every address is a field
with a standard value.  The FIFO monitor has one status register per channel, four bytes apart from
`monitorBase` on, and one configuration register per channel, `configOffset` above the status
register.  All channels share one reset register; each has its own bit there.

The addresses of a channel are computed (`status`, `config`, `resetMask`), and a map with odd
numbers in it may have none: then they are a `Fault`.
-/

namespace RadioFrontEnd

/-- Addresses and reset bits of a front end. -/
structure RegisterMap where
  /-- Board identity and firmware version. -/
  version : UInt32 := 0xC000
  /-- First status register of the FIFO monitor. -/
  monitorBase : UInt32 := 0x9000
  /-- Distance from a status register to the configuration register of the same channel. -/
  configOffset : UInt32 := 0x10
  /-- The reset register that the channels share. -/
  reset : UInt32 := 0xA028
  /-- Reset bit of the receiver stream. -/
  rxResetBit : UInt32 := 3
  /-- Reset bit of the transmitter stream. -/
  txResetBit : UInt32 := 2
  /-- Reset bit of the microphone stream. -/
  micResetBit : UInt32 := 0
  /-- Reset bit of the speaker stream. -/
  spkResetBit : UInt32 := 1
  /-- Start of the window for bulk transfers. -/
  streamBase : UInt32 := 0x10000
  deriving DecidableEq, Repr

namespace RegisterMap

/-- The status register of a channel. -/
def status (map : RegisterMap) (c : Channel) : Except Fault UInt32 :=
  Word.add map.monitorBase (4 * c.index)

/-- The configuration register of a channel. -/
def config (map : RegisterMap) (c : Channel) : Except Fault UInt32 := do
  Word.add (← map.status c) map.configOffset

/-- The bit of a channel in the reset register. -/
def resetBit (map : RegisterMap) : Channel → UInt32
  | .rx => map.rxResetBit
  | .tx => map.txResetBit
  | .mic => map.micResetBit
  | .spk => map.spkResetBit

/-- The mask of a channel in the reset register. -/
def resetMask (map : RegisterMap) (c : Channel) : Except Fault UInt32 :=
  Word.bit (map.resetBit c)

/-- Is the address a status register?  The channels are tried in order, and the first address that
does not exist is a fault unless an earlier channel already matched. -/
def isStatus (map : RegisterMap) (address : UInt32) : Except Fault Bool :=
  Channel.all.anyM fun c => return (← map.status c) == address

end RegisterMap
end RadioFrontEnd
