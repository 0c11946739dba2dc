import RadioFrontEnd.Fifo.Status
import RadioFrontEnd.FrontEnd
import RadioFrontEnd.Memory
import RadioFrontEnd.RegisterMap
import RadioFrontEnd.Table

/-!
# The simulated front end

A front end without a card.  It has what the rest of the library relies on:

* a register file in which a register that was never written reads as zero;
* status registers whose flags are cleared by every read, as the hardware does it;
* a window of one mebibyte for bulk transfers, which either fit as a whole or move nothing;
* a log of the register writes, oldest first.

The hardware side loads registers with `load` and `setStatus`, which leave no trace in the log and
work on a closed device too.  A read looks up whether its address is a status register *after* it
fetched the value and *before* it clears the flags, so a register map whose addresses do not exist
stops the read with nothing changed.
-/

namespace RadioFrontEnd

/-- A simulated front end. -/
structure Simulator where
  /-- The register map, which tells the status registers. -/
  map : RegisterMap
  /-- The register file. -/
  registers : Table UInt32 UInt32
  /-- Every register write as address and value, oldest first. -/
  writeLog : List (UInt32 × UInt32)
  /-- The window for bulk transfers. -/
  window : Memory
  /-- Is the device open? -/
  isOpen : Bool
  deriving DecidableEq

namespace Simulator

/-- The size of the window for bulk transfers. -/
def windowSize : Nat := 1 <<< 20

/-- A fresh simulated device: open, every register zero, the window zero, nothing logged. -/
def fresh (map : RegisterMap) : Simulator where
  map
  registers := .empty
  writeLog := []
  window := .zeros windowSize
  isOpen := true

/-- The content of a register, without the effect of a read. -/
def peek (s : Simulator) (address : UInt32) : UInt32 :=
  (s.registers.get? address).getD 0

/-- Load a register as the hardware does, unlogged. -/
def load (s : Simulator) (address value : UInt32) : Simulator :=
  { s with registers := s.registers.set address value }

/-- A fresh device with the standard register map whose version register holds a word. -/
def withFirmware (word : UInt32) : Simulator :=
  (fresh {}).load ({} : RegisterMap).version word

/-- The values written to an address, oldest first. -/
def writesTo (s : Simulator) (address : UInt32) : List UInt32 :=
  (s.writeLog.filter (·.1 == address)).map (·.2)

/-- Close the device. -/
def close (s : Simulator) : Simulator := { s with isOpen := false }

/-- Load the status register of a channel as the hardware does. -/
def setStatus (c : Channel) (raw : UInt32) : Action Simulator Unit := do
  let address ← .ofExcept ((← Action.get).map.status c)
  .modify (·.load address raw)

/-- Read a register.  The flags of a status register are gone afterwards. -/
def readRegister (address : UInt32) : Action Simulator UInt32 := do
  let s ← Action.get
  if s.isOpen then
    let value := s.peek address
    if ← .ofExcept (s.map.isStatus address) then
      .set (s.load address (value &&& ~~~Fifo.Status.flagBits))
    return value
  else
    return 0

/-- Write a register, and log the write. -/
def writeRegister (address value : UInt32) : Action Simulator Unit :=
  .modify fun s =>
    if s.isOpen then
      { s.load address value with writeLog := s.writeLog ++ [(address, value)] }
    else s

/-- Does a transfer lie in the window?  One that does not would move only the part that does. -/
def checkSpan (s : Simulator) (direction : Direction) (length : Nat) (offset : UInt32) :
    Except FrontEndError Unit :=
  let start := offset.toNat
  let stop := min (start + length) windowSize
  if !s.isOpen then .error .notOpen
  else if stop < start || stop - start < length then
    .error (.transfer direction length offset (.short (stop - start)))
  else .ok ()

/-- Write a block to the window, as a whole or not at all. -/
def writeBlock (data : ByteArray) (offset : UInt32) :
    Action Simulator (Except FrontEndError Unit) := do
  let s ← Action.get
  match s.checkSpan .toCard data.size offset with
  | .ok () =>
    .set { s with window := s.window.write offset.toNat data }
    return .ok ()
  | .error e => return .error e

/-- Read a block from the window, as a whole or not at all. -/
def readBlock (length : Nat) (offset : UInt32) : Action Simulator BlockRead := do
  let s ← Action.get
  match s.checkSpan .toHost length offset with
  | .ok () => return ⟨s.window.read offset.toNat length, .ok ()⟩
  | .error e => return ⟨.empty, .error e⟩

instance : FrontEnd Simulator where
  readRegister := readRegister
  writeRegister := writeRegister
  writeBlock := writeBlock
  readBlock := readBlock
  isOpen := isOpen

/-- A loaded register holds its value, and no other register changes. -/
theorem peek_load (s : Simulator) (a b v : UInt32) :
    (s.load a v).peek b = if a = b then v else s.peek b := by
  unfold peek load
  rw [Table.get?_set]
  split <;> rfl

end Simulator
end RadioFrontEnd
