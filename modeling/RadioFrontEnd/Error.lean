import RadioFrontEnd.Errno
import RadioFrontEnd.Firmware

/-!
# Failures of a front end

Whatever can fail while a host drives a front end, with its wording.  Three questions about a
failure matter to callers: can the stream be brought back and the transfer tried again
(`isRecoverable`), does the caller lack a permission (`isPermission`), and which number did the
system give (`errno?`).
-/

namespace RadioFrontEnd

/-- The direction of a bulk transfer. -/
inductive Direction where
  /-- From the host to the card. -/
  | toCard
  /-- From the card to the host. -/
  | toHost
  deriving DecidableEq, Repr

/-- The verb for a transfer in this direction. -/
def Direction.verb : Direction → String
  | .toCard => "write"
  | .toHost => "read"

/-- Why a transfer did not complete. -/
inductive TransferFailure where
  /-- Only so many bytes were moved. -/
  | short (moved : Nat)
  /-- The system refused, with this number. -/
  | system (errno : Errno)
  deriving DecidableEq, Repr

namespace TransferFailure

/-- The wording of a transfer failure. -/
def message : TransferFailure → String
  | short moved => s!"short transfer of {moved} bytes"
  | system errno => errno.message

end TransferFailure

/-- A failure of a front end. -/
inductive FrontEndError where
  /-- A device node could not be opened. -/
  | unavailable (path : String) (cause : FileError)
  /-- A transfer was asked of a closed device. -/
  | notOpen
  /-- A bulk transfer did not complete. -/
  | transfer (direction : Direction) (length : Nat) (offset : UInt32) (cause : TransferFailure)
  /-- The firmware lies outside the accepted range. -/
  | unsupportedFirmware (firmware : Firmware) (range : FirmwareRange)
  /-- A text names no channel. -/
  | unknownChannel (name : String)
  /-- A transfer buffer could not be made. -/
  | allocation (reason : String)
  deriving DecidableEq, Repr

namespace FrontEndError

/-- The wording of a failure. -/
def message : FrontEndError → String
  | unavailable path cause => s!"XDMA device {path} unavailable: {cause.message}"
  | notOpen => "XDMA transport is not open"
  | transfer direction length offset cause =>
    s!"DMA {direction.verb} of 0x{Numeral.hex length} bytes at AXI offset " ++
      s!"0x{Numeral.hex offset.toNat} failed: {cause.message}"
  | unsupportedFirmware firmware range =>
    s!"firmware {firmware.text} is outside the supported range ({range.text})"
  | unknownChannel name => s!"unknown stream channel '{name}' (expected rx, tx, mic or spk)"
  | allocation reason => s!"DMA buffer allocation failed: {reason}"

/-- What lies behind a failure, outermost first.  A number from the system stands behind the
transfer failure that carries it, with the same wording. -/
def causes : FrontEndError → List String
  | unavailable _ cause => [cause.message]
  | transfer _ _ _ (.short moved) => [(TransferFailure.short moved).message]
  | transfer _ _ _ (.system errno) => [errno.message, errno.message]
  | notOpen | unsupportedFirmware _ _ | unknownChannel _ | allocation _ => []

/-- Can the stream be brought back and the transfer tried again? -/
def isRecoverable : FrontEndError → Bool
  | transfer _ _ _ (.short _) => true
  | transfer _ _ _ (.system errno) =>
    errno == .interrupted || errno == .tryAgain || errno == .ioFailure
  | unavailable _ _ | notOpen | unsupportedFirmware _ _ | unknownChannel _ | allocation _ => false

/-- Does the caller lack a permission on a device node? -/
def isPermission : FrontEndError → Bool
  | unavailable _ cause => cause.isPermission
  | notOpen | transfer _ _ _ _ | unsupportedFirmware _ _ | unknownChannel _ | allocation _ => false

/-- The number that the system gave for a failed transfer. -/
def errno? : FrontEndError → Option Errno
  | transfer _ _ _ (.system errno) => some errno
  | transfer _ _ _ (.short _) | unavailable _ _ | notOpen | unsupportedFirmware _ _
  | unknownChannel _ | allocation _ => none

end FrontEndError
end RadioFrontEnd
