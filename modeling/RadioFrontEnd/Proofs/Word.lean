import Mathlib.Algebra.Group.Nat.Defs
import RadioFrontEnd.Word

/-!
# The bits of a word

Masks act on the bits of a word one by one, so a law about masks is a law about one bit.  `hasBit`
is a bit of a word, and each operation on words is told by what it does to `hasBit`; `ext_hasBit`
brings a law about bits back to words.
-/

namespace RadioFrontEnd.Word

/-- Is the bit set?  Past the last bit none is. -/
def hasBit (w : UInt32) (i : Nat) : Bool := w.toBitVec.getLsbD i

theorem ext_hasBit {v w : UInt32} (h : ∀ i, i < 32 → hasBit v i = hasBit w i) : v = w := by
  apply UInt32.toBitVec_inj.mp
  exact BitVec.eq_of_getLsbD_eq h

@[simp] theorem hasBit_zero (i : Nat) : hasBit 0 i = false := BitVec.getLsbD_zero

theorem hasBit_of_le {i : Nat} (h : 32 ≤ i) (w : UInt32) : hasBit w i = false :=
  BitVec.getLsbD_of_ge w.toBitVec i h

@[simp] theorem hasBit_and (v w : UInt32) (i : Nat) :
    hasBit (v &&& w) i = (hasBit v i && hasBit w i) := by
  rw [hasBit, UInt32.toBitVec_and, BitVec.getLsbD_and, hasBit, hasBit]

@[simp] theorem hasBit_or (v w : UInt32) (i : Nat) :
    hasBit (v ||| w) i = (hasBit v i || hasBit w i) := by
  rw [hasBit, UInt32.toBitVec_or, BitVec.getLsbD_or, hasBit, hasBit]

theorem hasBit_not {i : Nat} (h : i < 32) (w : UInt32) : hasBit (~~~w) i = !hasBit w i := by
  rw [hasBit, UInt32.toBitVec_not, BitVec.getLsbD_not, decide_eq_true h, Bool.true_and, hasBit]

/-- A mask has its own bit and no other. -/
theorem hasBit_one_shiftLeft {p : UInt32} (hp : p < 32) (i : Nat) :
    hasBit (1 <<< p) i = decide (p.toNat = i) := by
  have hlt : p.toNat < 32 := UInt32.lt_iff_toNat_lt.mp hp
  have hpow : 2 ^ p.toNat < 2 ^ 32 := Nat.pow_lt_pow_right (by decide) hlt
  have hmask : (1 <<< p : UInt32).toNat = 2 ^ p.toNat := by
    rw [UInt32.toNat_shiftLeft, Nat.mod_eq_of_lt hlt, UInt32.toNat_one, Nat.one_shiftLeft,
      Nat.mod_eq_of_lt hpow]
  show (1 <<< p : UInt32).toNat.testBit i = _
  rw [hmask, Nat.testBit_two_pow]

/-- A mask made up of two keeps what either of them keeps. -/
theorem and_or_distrib (w u v : UInt32) : w &&& (u ||| v) = w &&& u ||| w &&& v := by
  apply ext_hasBit
  intro i _
  rw [hasBit_and, hasBit_or, hasBit_or, hasBit_and, hasBit_and, Bool.and_or_distrib_left]

/-- To clear the bits of a mask and then to set them is to set them. -/
theorem clear_or (v mask : UInt32) : v &&& ~~~mask ||| mask = v ||| mask := by
  apply ext_hasBit
  intro i hi
  rw [hasBit_or, hasBit_or, hasBit_and, hasBit_not hi]
  cases hasBit v i <;> cases hasBit mask i <;> rfl

/-- To clear the bits of a mask keeps every other bit. -/
theorem hasBit_clear (v mask : UInt32) (i : Nat) :
    hasBit (v &&& ~~~mask) i = (hasBit v i && !hasBit mask i) := by
  by_cases hi : i < 32
  · rw [hasBit_and, hasBit_not hi]
  · rw [hasBit_of_le (Nat.le_of_not_lt hi), hasBit_of_le (Nat.le_of_not_lt hi), Bool.false_and]

/-- To clear the bits of a mask again changes nothing. -/
theorem clear_clear (v mask : UInt32) : v &&& ~~~mask &&& ~~~mask = v &&& ~~~mask := by
  rw [UInt32.and_assoc, UInt32.and_self]

/-- A word has a bit in common with a mask of one bit exactly if it has that bit. -/
theorem and_one_shiftLeft_bne_zero {p : UInt32} (hp : p < 32) (w : UInt32) :
    (w &&& 1 <<< p != 0) = hasBit w p.toNat := by
  have hmask (i : Nat) : hasBit (w &&& 1 <<< p) i = (hasBit w i && decide (p.toNat = i)) := by
    rw [hasBit_and, hasBit_one_shiftLeft hp]
  cases hw : hasBit w p.toNat with
  | true =>
    have hbit : hasBit (w &&& 1 <<< p) p.toNat = true := by simp [hmask, hw]
    rw [bne_iff_ne]
    rintro hzero
    rw [hzero, hasBit_zero] at hbit
    exact Bool.false_ne_true hbit
  | false =>
    have hzero : w &&& 1 <<< p = 0 := by
      apply ext_hasBit
      intro i _
      rw [hmask, hasBit_zero, Bool.and_eq_false_iff]
      by_cases hi : p.toNat = i
      · exact Or.inl (hi ▸ hw)
      · exact Or.inr (decide_eq_false hi)
    rw [hzero]
    rfl

/-- A bit taken from a word and put back to its place is the word with the mask of this bit. -/
theorem toUInt32_shiftLeft_hasBit {p : UInt32} (hp : p < 32) (w : UInt32) :
    (hasBit w p.toNat).toUInt32 <<< p = w &&& 1 <<< p := by
  cases hbit : hasBit w p.toNat with
  | false =>
    have hnone : (w &&& 1 <<< p != 0) = false := (and_one_shiftLeft_bne_zero hp w).trans hbit
    rw [bne_eq_false_iff_eq.mp hnone]
    exact UInt32.zero_shiftLeft
  | true =>
    apply ext_hasBit
    intro i _
    show hasBit (1 <<< p) i = hasBit (w &&& 1 <<< p) i
    rw [hasBit_and, hasBit_one_shiftLeft hp]
    by_cases hi : p.toNat = i
    · rw [← hi, hbit, Bool.true_and]
    · rw [decide_eq_false hi, Bool.and_false]

/-- A word has a bit from a place on exactly if it is that large. -/
theorem exists_hasBit_iff (w : UInt32) (place : Nat) :
    (∃ i, place ≤ i ∧ hasBit w i = true) ↔ 2 ^ place ≤ w.toNat := by
  constructor
  · rintro ⟨i, hi, hbit⟩
    calc 2 ^ place ≤ 2 ^ i := Nat.pow_le_pow_right Nat.two_pos hi
      _ ≤ w.toNat := Nat.ge_two_pow_of_testBit hbit
  · exact Nat.exists_ge_and_testBit_of_ge_two_pow

/-- Past its last place a word has no bit. -/
theorem lt_of_hasBit {w : UInt32} {i : Nat} (h : hasBit w i = true) : i < 32 := by
  refine Nat.lt_of_not_le fun hge => ?_
  rw [hasBit_of_le hge] at h
  exact Bool.false_ne_true h

end RadioFrontEnd.Word
