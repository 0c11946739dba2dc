import RadioFrontEnd.Config.Basic
import RadioFrontEnd.Numeral

/-!
# Valid configurations

A configuration can be written down and still be of no use.  `Config.validate` tries the rules in a
fixed order and gives the first that is broken:

1. there is a path for the register node;
2. the reset bits lie within the reset register, and no two channels share one;
3. the version register, the FIFO monitor and the reset register lie on word boundaries, and so does
   the distance between status and configuration registers;
4. the accepted firmware is not an empty range.

The channels are tried in register order, with a mask of the bits that are taken; a bit outside the
register is told about before a shared one.
-/

namespace RadioFrontEnd

/-- What is wrong with a configuration. -/
inductive Violation where
  /-- There is no path for the register node. -/
  | noUserNode
  /-- A reset bit lies outside the reset register. -/
  | bitOutside (bit : UInt32) (channel : Channel)
  /-- A reset bit belongs to an earlier channel too. -/
  | bitShared (bit : UInt32) (channel : Channel)
  /-- An address lies off the word boundaries. -/
  | unaligned (register : String) (address : UInt32)
  /-- No firmware is accepted. -/
  | noFirmware (range : FirmwareRange)
  deriving DecidableEq, Repr

namespace Violation

/-- The wording of a violation. -/
def message : Violation → String
  | noUserNode => "device.user_device must not be empty"
  | bitOutside bit channel =>
    s!"reset bit {bit} for {channel.name} is outside the 32 bit register"
  | bitShared bit channel =>
    s!"reset bit {bit} for {channel.name} is shared with another channel"
  | unaligned register address =>
    s!"registers.{register} (0x{Numeral.hex address.toNat}) must be word aligned"
  | noFirmware range => s!"firmware range is empty ({range.text})"

end Violation

namespace Config

/-- There is a path for the register node. -/
def checkDevice (paths : NodePaths) : Except Violation Unit :=
  if paths.user = "" then .error .noUserNode else .ok ()

/-- The reset bits of some channels are in the register and neither shared nor taken. -/
def checkBits (map : RegisterMap) : (taken : UInt32) → List Channel → Except Violation Unit
  | _, [] => .ok ()
  | taken, c :: cs =>
    match map.resetMask c with
    | .error _ => .error (.bitOutside (map.resetBit c) c)
    | .ok mask =>
      if taken &&& mask ≠ 0 then .error (.bitShared (map.resetBit c) c)
      else checkBits map (taken ||| mask) cs

/-- The addresses that have to lie on word boundaries. -/
def alignedAddresses (map : RegisterMap) : List (String × UInt32) :=
  [("sw_version", map.version), ("fifo_monitor_base", map.monitorBase),
    ("fifo_config_offset", map.configOffset), ("fifo_reset", map.reset)]

/-- Some addresses lie on word boundaries. -/
def checkAddresses : List (String × UInt32) → Except Violation Unit
  | [] => .ok ()
  | (name, address) :: rest =>
    if address % 4 ≠ 0 then .error (.unaligned name address) else checkAddresses rest

/-- Some firmware is accepted. -/
def checkFirmware (range : FirmwareRange) : Except Violation Unit :=
  if range.isEmpty then .error (.noFirmware range) else .ok ()

/-- Is the configuration of use?  If not, the first broken rule. -/
def validate (c : Config) : Except Violation Unit := do
  checkDevice c.device
  checkBits c.registers 0 Channel.all
  checkAddresses (alignedAddresses c.registers)
  checkFirmware c.firmware

end Config
end RadioFrontEnd
