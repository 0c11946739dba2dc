import RadioFrontEnd.Fifo.Status
import RadioFrontEnd.Proofs.Word

/-!
# What a reading tells of a status word

A reading takes a status word apart into three flags and an occupancy, and says what the host can
use of the FIFO.  Nineteen bits of the word have a meaning.  This file says that a reading has all of
them and nothing else.

## Nothing else, and nothing less

`Status.word` puts the flags and the occupancy of a reading back to where they were in the word, and
this is the word without its meaningless bits (`word_decode`).  So words that are read alike agree on
the bits with a meaning.  The other half is that the meaningless bits are not looked at
(`decode_and_toldBits`).  Together they tell exactly which words are read alike
(`decode_eq_decode_iff`), for every channel and every depth: the depth is known to who reads, and what
is available follows from it and from the occupancy.

## Free space

The free space is a difference of two words, and the occupancy may be more than the depth: the field
has sixteen bits, whatever depth a FIFO has.  The difference stops at zero then (`toNat_free`).  All
sums here are sums of natural numbers, so nothing in them can wrap around.
-/

namespace RadioFrontEnd

open RadioFrontEnd.Word

namespace Fifo.Status

variable {raw raw' : UInt32} {c : Channel} {depth : UInt32}

/-! ## The parts of a reading -/

theorem overflowed_decode : (decode raw c depth).overflowed = hasBit raw 31 :=
  and_one_shiftLeft_bne_zero (p := 31) (by decide) raw

theorem overThreshold_decode : (decode raw c depth).overThreshold = hasBit raw 30 :=
  and_one_shiftLeft_bne_zero (p := 30) (by decide) raw

theorem underflowed_decode : (decode raw c depth).underflowed = hasBit raw 29 :=
  and_one_shiftLeft_bne_zero (p := 29) (by decide) raw

/-- A flag is raised exactly if the word is at least that of the lowest flag. -/
theorem hasError_decode_iff : (decode raw c depth).hasError = true ↔ 2 ^ 29 ≤ raw.toNat := by
  rw [hasError, overflowed_decode, overThreshold_decode, underflowed_decode, Bool.or_eq_true,
    Bool.or_eq_true, ← exists_hasBit_iff]
  constructor
  · rintro ((h | h) | h)
    · exact ⟨31, by decide, h⟩
    · exact ⟨30, by decide, h⟩
    · exact ⟨29, by decide, h⟩
  · rintro ⟨i, hi, h⟩
    have hlt := lt_of_hasBit h
    obtain rfl | rfl | rfl : i = 31 ∨ i = 30 ∨ i = 29 := by omega
    · exact .inl (.inl h)
    · exact .inl (.inr h)
    · exact .inr h

/-! ## What the host can use -/

/-- What is free is a difference that stops at zero. -/
theorem toNat_free (depth occupied : UInt32) :
    (free depth occupied).toNat = depth.toNat - occupied.toNat := by
  unfold free
  split
  · next h => exact UInt32.toNat_sub_of_le depth occupied h
  · next h =>
    rw [UInt32.le_iff_toNat_le] at h
    rw [UInt32.toNat_zero]
    omega

theorem free_le (depth occupied : UInt32) : free depth occupied ≤ depth := by
  rw [UInt32.le_iff_toNat_le, toNat_free]
  exact Nat.sub_le depth.toNat occupied.toNat

/-- What is free and what is filled make up the depth, or what is filled if that is more. -/
theorem toNat_free_add (depth occupied : UInt32) :
    (free depth occupied).toNat + occupied.toNat = max depth.toNat occupied.toNat := by
  rw [toNat_free]
  exact Nat.sub_add_eq_max _ _

theorem available_decode_of_isWrite (hwrite : c.isWrite = true) :
    (decode raw c depth).available = free depth (decode raw c depth).occupied :=
  if_pos hwrite

theorem available_decode_of_not_isWrite (hread : c.isWrite = false) :
    (decode raw c depth).available = (decode raw c depth).occupied :=
  if_neg (by rw [hread]; exact Bool.false_ne_true)

/-! ## Which words are read alike -/

/-- The flags and the occupancy of a reading, at their places in a status word. -/
def word (s : Status) : UInt32 :=
  s.overflowed.toUInt32 <<< 31 ||| s.overThreshold.toUInt32 <<< 30 |||
    s.underflowed.toUInt32 <<< 29 ||| s.occupied

/-- The bits of a status word that have a meaning. -/
def toldBits : UInt32 := flagBits ||| occupancyBits

/-- These are all but thirteen in the middle. -/
theorem hasBit_toldBits {i : Nat} (hi : i < 32) :
    hasBit toldBits i = !decide (16 ≤ i ∧ i ≤ 28) := by
  revert i
  decide

/-- **A reading put back is the word without its meaningless bits.**  Each part of it is the word with
a mask of its own, and the masks make up the whole one. -/
theorem word_decode : (decode raw c depth).word = raw &&& toldBits := by
  have hoverflow : (hasBit raw 31).toUInt32 <<< 31 = raw &&& overflowBit :=
    toUInt32_shiftLeft_hasBit (p := 31) (by decide) raw
  have hthreshold : (hasBit raw 30).toUInt32 <<< 30 = raw &&& thresholdBit :=
    toUInt32_shiftLeft_hasBit (p := 30) (by decide) raw
  have hunderflow : (hasBit raw 29).toUInt32 <<< 29 = raw &&& underflowBit :=
    toUInt32_shiftLeft_hasBit (p := 29) (by decide) raw
  calc (decode raw c depth).word
      = raw &&& overflowBit ||| raw &&& thresholdBit ||| raw &&& underflowBit |||
          raw &&& occupancyBits := by
        rw [word, overflowed_decode, overThreshold_decode, underflowed_decode, hoverflow, hthreshold,
          hunderflow]
        rfl
    _ = raw &&& toldBits := by
        rw [toldBits, flagBits, and_or_distrib, and_or_distrib, and_or_distrib]

/-- The meaningless bits are not looked at. -/
theorem decode_and_toldBits : decode (raw &&& toldBits) c depth = decode raw c depth := by
  have hpart {mask : UInt32} (hmask : toldBits &&& mask = mask) :
      raw &&& toldBits &&& mask = raw &&& mask := by
    rw [UInt32.and_assoc, hmask]
  unfold decode
  rw [hpart (by decide), hpart (by decide), hpart (by decide), hpart (by decide)]

theorem decode_eq_decode_iff :
    decode raw c depth = decode raw' c depth ↔ raw &&& toldBits = raw' &&& toldBits := by
  constructor
  · intro h
    rw [← word_decode, h, word_decode]
  · intro h
    rw [← decode_and_toldBits, h, decode_and_toldBits]

/-- Two words agree on the bits with a meaning exactly if all their differences lie between. -/
theorem and_toldBits_eq_iff :
    raw &&& toldBits = raw' &&& toldBits ↔
      ∀ i, hasBit raw i ≠ hasBit raw' i → 16 ≤ i ∧ i ≤ 28 := by
  constructor
  · intro h i hne
    have hlt : i < 32 := by
      refine Nat.lt_of_not_le fun hge => hne ?_
      rw [hasBit_of_le hge, hasBit_of_le hge]
    have hbit : hasBit (raw &&& toldBits) i = hasBit (raw' &&& toldBits) i := by rw [h]
    rw [hasBit_and, hasBit_and, hasBit_toldBits hlt] at hbit
    refine Decidable.not_not.mp fun hout => hne ?_
    rwa [decide_eq_false hout, Bool.not_false, Bool.and_true, Bool.and_true] at hbit
  · intro h
    apply ext_hasBit
    intro i hi
    rw [hasBit_and, hasBit_and, hasBit_toldBits hi]
    by_cases hin : 16 ≤ i ∧ i ≤ 28
    · rw [decide_eq_true hin, Bool.not_true, Bool.and_false, Bool.and_false]
    · rw [Decidable.not_not.mp fun hne => hin (h i hne)]

/-- **A reading has all bits with a meaning and no others, and its free space does not wrap.**  For
every status word, every channel and every depth:

* the flags and the occupancy, put back to their places, are the word without the bits 16 to 28;
* a flag is raised exactly if the word is `2 ^ 29` or more;
* of a stream to the card, no more than the depth is available, and what is available and what is
  filled make up the larger of the depth and what is filled;
* of a stream to the host, what is filled is available;
* another word is read alike exactly if it differs from this one in the bits 16 to 28 at most. -/
theorem reading_has_all_bits_with_a_meaning (raw : UInt32) (c : Channel) (depth : UInt32) :
    let s := decode raw c depth
    s.word = raw &&& 0xE000FFFF ∧
    (s.hasError = true ↔ 2 ^ 29 ≤ raw.toNat) ∧
    (c = .tx ∨ c = .spk → s.available ≤ depth ∧
      s.available.toNat + s.occupied.toNat = max depth.toNat s.occupied.toNat) ∧
    (c = .rx ∨ c = .mic → s.available = s.occupied) ∧
    ∀ raw', s = decode raw' c depth ↔ ∀ i, hasBit raw i ≠ hasBit raw' i → 16 ≤ i ∧ i ≤ 28 := by
  intro s
  have hmask : toldBits = 0xE000FFFF := by decide
  refine ⟨hmask ▸ word_decode, hasError_decode_iff, fun hc => ?_, fun hc => ?_, fun raw' => ?_⟩
  · have hwrite : c.isWrite = true := by rcases hc with rfl | rfl <;> rfl
    rw [available_decode_of_isWrite hwrite]
    exact ⟨free_le depth _, toNat_free_add depth _⟩
  · have hread : c.isWrite = false := by rcases hc with rfl | rfl <;> rfl
    exact available_decode_of_not_isWrite hread
  · exact decode_eq_decode_iff.trans and_toldBits_eq_iff

/-- All flags are raised, the occupancy is past the depth, and all bits between are set. -/
theorem reading_has_all_bits_with_a_meaning_past_the_depth :
    let s := decode 0xFFFF0500 .tx 1024
    s.word = 0xE0000500 ∧ s.hasError = true ∧
    s.available ≤ 1024 ∧ s.available.toNat + 1280 = max 1024 1280 ∧
    (decode 0xFFFF0500 .rx 1024).available = 1280 ∧ s = decode 0xE0000500 .tx 1024 := by
  intro s
  obtain ⟨hword, herror, hcard, -, halike⟩ := reading_has_all_bits_with_a_meaning 0xFFFF0500 .tx 1024
  obtain ⟨-, -, -, hhost, -⟩ := reading_has_all_bits_with_a_meaning 0xFFFF0500 .rx 1024
  obtain ⟨hle, hsum⟩ := hcard (.inl rfl)
  exact ⟨hword, herror.mpr (by decide), hle, hsum, hhost (.inl rfl),
    (halike 0xE0000500).mpr (and_toldBits_eq_iff.mp (by decide))⟩

end Fifo.Status
end RadioFrontEnd
