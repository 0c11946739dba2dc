import RadioFrontEnd.Action
import RadioFrontEnd.Error

/-!
# What a front end offers

Every front end, real or simulated, offers the same five operations, and whatever drives one is
written against them.

Registers are polled often and are best effort: a read that fails gives zero, a write that fails is
dropped, and neither is a failure for the caller.  Bulk transfers carry the samples, so they report
every failure; a transfer that moved only a part is a failure too.  A failed read may still have
brought some bytes, and `BlockRead.arrived` holds them.
-/

namespace RadioFrontEnd

/-- What a bulk read gives. -/
structure BlockRead where
  /-- The bytes that arrived, which belong at the front of the reader's buffer. -/
  arrived : ByteArray
  /-- Whether that is all that was asked for. -/
  outcome : Except FrontEndError Unit

/-- A state that holds a front end. -/
class FrontEnd (σ : Type) where
  /-- Read a register; zero if that fails. -/
  readRegister (address : UInt32) : Action σ UInt32
  /-- Write a register; nothing if that fails. -/
  writeRegister (address value : UInt32) : Action σ Unit
  /-- Write a block to the card. -/
  writeBlock (data : ByteArray) (offset : UInt32) : Action σ (Except FrontEndError Unit)
  /-- Read a block of a given length from the card. -/
  readBlock (length : Nat) (offset : UInt32) : Action σ BlockRead
  /-- Is the front end open? -/
  isOpen (s : σ) : Bool

end RadioFrontEnd
