/-!
# Address and mask arithmetic in 32 bits

Register addresses and bit masks are 32-bit words.  A sum past the last address and a shift past
the last bit are no address and no mask: both are a `Fault`, which stops the operation that asked
for it.  Nothing here wraps.
-/

namespace RadioFrontEnd

/-- What stops an operation: the word it needs does not exist in 32 bits. -/
inductive Fault where
  /-- A sum of addresses passes the last one. -/
  | addOverflow
  /-- A bit position lies outside the word. -/
  | shiftOverflow
  deriving DecidableEq, Repr

namespace Fault

/-- The wording of a fault. -/
def message : Fault → String
  | addOverflow => "attempt to add with overflow"
  | shiftOverflow => "attempt to shift left with overflow"

end Fault

namespace Word

/-- The sum of two words, if it is a word. -/
def add (a b : UInt32) : Except Fault UInt32 :=
  if a.toNat + b.toNat < UInt32.size then .ok (a + b) else .error .addOverflow

/-- The word whose only set bit is the given one, if the word has such a bit. -/
def bit (position : UInt32) : Except Fault UInt32 :=
  if position < 32 then .ok (1 <<< position) else .error .shiftOverflow

/-- A sum exists exactly when the unbounded sum is below `2 ^ 32`, and then it is that sum. -/
theorem add_eq_ok_iff {a b c : UInt32} : add a b = .ok c ↔ a.toNat + b.toNat = c.toNat := by
  have hc := c.toNat_lt
  have hsize : UInt32.size = 2 ^ 32 := rfl
  unfold add
  split
  · next h =>
    constructor
    · intro e
      cases e
      rw [UInt32.toNat_add]
      omega
    · intro e
      congr 1
      apply UInt32.toNat_inj.mp
      rw [UInt32.toNat_add]
      omega
  · next h =>
    constructor
    · intro e
      cases e
    · intro e
      omega

/-- A mask exists exactly for the bit positions of a word. -/
theorem bit_eq_ok_iff {p m : UInt32} : bit p = .ok m ↔ p < 32 ∧ m = 1 <<< p := by
  unfold bit
  split
  · next h => simp [h, eq_comm]
  · next h => simp [h]

end Word
end RadioFrontEnd
