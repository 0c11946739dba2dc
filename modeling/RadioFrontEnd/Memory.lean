/-!
# Byte memories

The window of a simulated device, the content of a file and a transfer buffer are all the same
thing: a row of bytes of some size, most of them zero, written in blocks.  A `Memory` keeps its size
and the blocks written to it, newest first, and nothing else.  The byte at a position is what the
newest block over that position holds, or zero.

This form costs nothing for the parts that were never written, so a file of four gigabytes with two
words in it is small, and it makes the law of a write immediate: `byte_write` says that a write
changes the bytes it covers and no others.
-/

namespace RadioFrontEnd

/-- A block of bytes written at an offset. -/
structure Patch where
  /-- Where the block starts. -/
  offset : Nat
  /-- The bytes of the block. -/
  data : ByteArray

namespace Patch

/-- Two blocks are equal if they start at one place and hold the same bytes. -/
instance : DecidableEq Patch
  | ⟨offset, ⟨bytes⟩⟩, ⟨offset', ⟨bytes'⟩⟩ =>
    decidable_of_decidable_of_iff (p := offset = offset' ∧ bytes = bytes') (by simp)

/-- The byte that the block holds for a position, if it covers the position. -/
def get? (p : Patch) (i : Nat) : Option UInt8 :=
  if h : p.offset ≤ i ∧ i - p.offset < p.data.size then some (p.data.get (i - p.offset) h.2)
  else none

end Patch

/-- A row of bytes: its size, and the blocks written to it, newest first. -/
structure Memory where
  /-- The number of bytes. -/
  size : Nat
  /-- The blocks written, newest first. -/
  patches : List Patch
  deriving DecidableEq

namespace Memory

/-- A memory of zeros. -/
def zeros (size : Nat) : Memory := ⟨size, []⟩

/-- The memory that holds the given bytes. -/
def ofBytes (data : ByteArray) : Memory := ⟨data.size, [⟨0, data⟩]⟩

/-- The byte at a position; past the end it is the zero that growing would bring. -/
def byte (m : Memory) (i : Nat) : UInt8 :=
  (m.patches.findSome? (·.get? i)).getD 0

/-- The number of bytes that a read of a given length finds from an offset on. -/
def readable (m : Memory) (offset length : Nat) : Nat :=
  min length (m.size - offset)

/-- The bytes from an offset on, as many as asked for and there. -/
def read (m : Memory) (offset length : Nat) : ByteArray :=
  ⟨Array.ofFn fun i : Fin (m.readable offset length) => m.byte (offset + i)⟩

/-- All the bytes. -/
def toBytes (m : Memory) : ByteArray := m.read 0 m.size

/-- Put a block at an offset.  A block that reaches past the end makes the memory longer, with zeros
in any gap; an empty block changes nothing. -/
def write (m : Memory) (offset : Nat) (data : ByteArray) : Memory :=
  if data.size = 0 then m
  else ⟨max m.size (offset + data.size), ⟨offset, data⟩ :: m.patches⟩

/-- Cut the memory to a size, or bring it there with zeros. -/
def resize (m : Memory) (size : Nat) : Memory :=
  ⟨size, [⟨0, m.read 0 size⟩]⟩

theorem size_read (m : Memory) (offset length : Nat) :
    (m.read offset length).size = m.readable offset length := by
  simp [read, ByteArray.size]

theorem get_read (m : Memory) (offset length i : Nat) (h : i < (m.read offset length).size) :
    (m.read offset length).get i h = m.byte (offset + i) := by
  exact Array.getElem_ofFn _

theorem size_write (m : Memory) (offset : Nat) (data : ByteArray) :
    (m.write offset data).size
      = if data.size = 0 then m.size else max m.size (offset + data.size) := by
  unfold write
  split <;> rfl

/-- A write changes exactly the bytes it covers. -/
theorem byte_write (m : Memory) (offset : Nat) (data : ByteArray) (i : Nat) :
    (m.write offset data).byte i
      = if h : offset ≤ i ∧ i - offset < data.size then data.get (i - offset) h.2
        else m.byte i := by
  by_cases hd : data.size = 0
  · rw [write, if_pos hd, dif_neg fun h => absurd h.2 (by omega)]
  · rw [write, if_neg hd]
    by_cases h : offset ≤ i ∧ i - offset < data.size
    · rw [dif_pos h, byte, List.findSome?_cons, Patch.get?, dif_pos h]
      rfl
    · rw [dif_neg h, byte, List.findSome?_cons, Patch.get?, dif_neg h]
      rfl

@[simp] theorem byte_zeros (size i : Nat) : (zeros size).byte i = 0 := rfl

end Memory
end RadioFrontEnd
