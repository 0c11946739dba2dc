import RadioFrontEnd.Numeral

/-!
# Firmware identity

A board tells who it is in one word.  From the low end: four bits without meaning, sixteen bits of
version, five bits of board identity, seven bits of major version.  `Firmware.decode` cuts the word
into these fields.  `FirmwareRange` says which firmware a host accepts.
-/

namespace RadioFrontEnd

/-- Identity and version of the firmware of a board. -/
structure Firmware where
  /-- Identity of the board, five bits wide. -/
  softwareId : UInt8
  /-- Version, sixteen bits wide. -/
  version : UInt16
  /-- Major version, seven bits wide. -/
  major : UInt8
  deriving DecidableEq, Repr

namespace Firmware

/-- The fields of a version word. -/
def decode (word : UInt32) : Firmware where
  softwareId := ((word >>> 20) &&& 0x1F).toUInt8
  version := ((word >>> 4) &&& 0xFFFF).toUInt16
  major := ((word >>> 25) &&& 0x7F).toUInt8

/-- The board identity in hexadecimal. -/
def idText (fw : Firmware) : String :=
  "0x" ++ Numeral.hexPadded 2 fw.softwareId.toNat

/-- Versions and identity in one line. -/
def text (fw : Firmware) : String :=
  s!"v{fw.major}.{fw.version} (id {fw.idText})"

end Firmware

/-- The firmware that a host accepts: a range of versions and a range of major versions, both with
their ends. -/
structure FirmwareRange where
  /-- Oldest accepted version. -/
  versionMin : UInt16 := 8
  /-- Newest accepted version. -/
  versionMax : UInt16 := 21
  /-- Oldest accepted major version. -/
  majorMin : UInt8 := 1
  /-- Newest accepted major version. -/
  majorMax : UInt8 := 2
  deriving DecidableEq, Repr

namespace FirmwareRange

/-- Does the firmware lie in both ranges? -/
def supports (range : FirmwareRange) (fw : Firmware) : Bool :=
  range.versionMin ≤ fw.version && fw.version ≤ range.versionMax &&
    range.majorMin ≤ fw.major && fw.major ≤ range.majorMax

/-- One of the two ranges holds nothing. -/
def isEmpty (range : FirmwareRange) : Bool :=
  range.versionMax < range.versionMin || range.majorMax < range.majorMin

/-- Both ranges in one line. -/
def text (range : FirmwareRange) : String :=
  s!"major {range.majorMin}:{range.majorMax}, minor {range.versionMin}:{range.versionMax}"

end FirmwareRange
end RadioFrontEnd
