/-!
# Words as bytes

A register is a 32-bit word, a file is bytes.  The word is stored with its lowest byte first.
-/

namespace RadioFrontEnd.Word

/-- The four bytes of a word, lowest first. -/
def toBytes (w : UInt32) : ByteArray :=
  ⟨#[w.toUInt8, (w >>> 8).toUInt8, (w >>> 16).toUInt8, (w >>> 24).toUInt8]⟩

/-- The number that four bytes are, lowest first. -/
def natOfBytes (b₀ b₁ b₂ b₃ : UInt8) : Nat :=
  b₀.toNat + 256 * b₁.toNat + 65536 * b₂.toNat + 16777216 * b₃.toNat

/-- The word that four bytes are, lowest first; any other number of bytes is no word. -/
def ofBytes? (b : ByteArray) : Option UInt32 :=
  if h : b.size = 4 then
    some (.ofNat (natOfBytes (b.get 0 (by omega)) (b.get 1 (by omega)) (b.get 2 (by omega))
      (b.get 3 (by omega))))
  else none

/-- The bytes of a word add up to the word. -/
theorem natOfBytes_toUInt8 (w : UInt32) :
    natOfBytes w.toUInt8 (w >>> 8).toUInt8 (w >>> 16).toUInt8 (w >>> 24).toUInt8 = w.toNat := by
  have h := w.toNat_lt
  simp only [natOfBytes, UInt32.toNat_toUInt8, UInt32.toNat_shiftRight, UInt32.toNat_ofNat,
    Nat.shiftRight_eq_div_pow]
  simp only [Nat.reduceMod, Nat.reducePow] at *
  omega

end RadioFrontEnd.Word
