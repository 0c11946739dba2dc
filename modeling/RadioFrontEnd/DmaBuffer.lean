import RadioFrontEnd.FrontEnd
import RadioFrontEnd.Memory

/-!
# Transfer buffers

A buffer for bulk transfers is a row of zeroed bytes that starts on a page.  Its size is fixed when
it is made; `DmaBuffer.new` says which sizes there are none of.  A buffer is filled from the card as
a whole, and any number of its first bytes can be sent.
-/

namespace RadioFrontEnd

/-- Why a transfer buffer could not be made. -/
inductive AllocationFailure where
  /-- A buffer has at least one byte. -/
  | zeroLength
  /-- No such size can be brought to a page boundary. -/
  | invalidLayout (size : Nat)
  /-- There is not that much memory. -/
  | outOfMemory (size : Nat)
  deriving DecidableEq, Repr

/-- The wording of an allocation failure. -/
def AllocationFailure.message : AllocationFailure → String
  | zeroLength => "zero-length buffer"
  | invalidLayout size =>
    s!"invalid layout for {size} bytes: invalid parameters to Layout::from_size_align"
  | outOfMemory size => s!"out of memory allocating {size} bytes"

/-- A buffer for bulk transfers. -/
structure DmaBuffer where
  /-- The bytes of the buffer. -/
  bytes : Memory
  deriving DecidableEq

namespace DmaBuffer

/-- The size of a page, on which every buffer starts. -/
def alignment : Nat := 4096

/-- The size of the address space of a process, which no buffer reaches. -/
def addressSpace : Nat := 1 <<< 47

/-- The size of a buffer for the sample streams. -/
def standardSize : Nat := 32768

/-- A zeroed buffer of a given size.  The largest size that can be brought to a page boundary stays
below `2 ^ 63`. -/
def new (size : Nat) : Except AllocationFailure DmaBuffer :=
  if size = 0 then .error .zeroLength
  else if (1 <<< 63) - alignment < size then .error (.invalidLayout size)
  else if addressSpace ≤ size then .error (.outOfMemory size)
  else .ok ⟨.zeros size⟩

/-- The number of bytes. -/
def size (b : DmaBuffer) : Nat := b.bytes.size

/-- Put bytes into the buffer, if they fit. -/
def set? (b : DmaBuffer) (offset : Nat) (data : ByteArray) : Option DmaBuffer :=
  if offset + data.size ≤ b.size then some ⟨b.bytes.write offset data⟩ else none

/-- The buffer in one line. -/
def text (b : DmaBuffer) : String :=
  "DmaBuffer \x7b " ++ s!"len: {b.size}, align: {alignment}" ++ " \x7d"

variable {σ : Type} [FrontEnd σ]

/-- Fill the buffer from the card.  Whatever arrives is in the buffer afterwards, also when it is
less than the whole. -/
def readFrom (b : DmaBuffer) (offset : UInt32) :
    Action σ (DmaBuffer × Except FrontEndError Unit) := do
  let r ← FrontEnd.readBlock b.size offset
  return (⟨b.bytes.write 0 r.arrived⟩, r.outcome)

/-- Send the first bytes of the buffer to the card.  More than the buffer holds is a short transfer,
and nothing is sent. -/
def writeTo (b : DmaBuffer) (length : Nat) (offset : UInt32) :
    Action σ (Except FrontEndError Unit) := do
  if b.size < length then
    return .error (.transfer .toCard length offset (.short b.size))
  else
    FrontEnd.writeBlock (b.bytes.read 0 length) offset

end DmaBuffer
end RadioFrontEnd
