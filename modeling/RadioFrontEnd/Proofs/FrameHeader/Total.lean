import Mathlib.Algebra.BigOperators.Group.List.Basic
import RadioFrontEnd.Proofs.FrameHeader.Image
import RadioFrontEnd.Proofs.RegisterMap

/-!
# The samples of a frame

The total of a header is a 32-bit word, summed up from doubled table entries.  This file says that
nothing is lost on the way: the total is the sum of the counts as numbers.

`tallySlots` goes over the slots once and keeps a total from slot to slot, with every doubling and
every sum checked.  It never ends with a fault, and it gives what the decoder gives
(`tallySlots_eq_ok`); all that this needs is that the sum of the counts is small.

A pair carries up to 64 samples, so no bound of 32 for each slot holds of the counts one by one.  It
holds of their sum, since a pair takes two slots (`sum_counts_decodeSlots_le`).  The last slot has
no second slot to take.  There the bound rests on the length of a word: only two bits are left behind
the code of the last slot, and they are no code above 8 samples.
-/

namespace RadioFrontEnd

/-! ## The converters that carry samples -/

namespace SampleCounts

variable {s : SampleCounts}

theorem mem_active_iff {slot : Nat} {count : UInt32} :
    (slot, count) ∈ s.active ↔ s.get? slot = some count ∧ count ≠ 0 := by
  simp only [active, get?, List.mem_filter, List.mem_map, Prod.exists,
    List.mk_mem_zipIdx_iff_getElem?, Prod.mk.injEq, bne_iff_ne, and_congr_left_iff]
  intro _
  constructor
  · rintro ⟨x, i, hx, rfl, rfl⟩
    exact hx
  · exact fun h => ⟨count, slot, h, rfl, rfl⟩

/-- The slots of the converters go up. -/
theorem pairwise_active (s : SampleCounts) : (s.active.map Prod.fst).Pairwise (· < ·) := by
  rw [List.pairwise_map]
  apply List.Pairwise.filter
  rw [List.pairwise_map]
  have hslots : (s.counts.zipIdx.map Prod.snd).Pairwise (· < ·) := by
    rw [List.zipIdx_map_snd]
    exact List.pairwise_lt_range'
  exact List.pairwise_map.mp hslots

theorem map_snd_active (s : SampleCounts) :
    s.active.map Prod.snd = s.counts.filter (· != 0) := by
  have hcounts : (s.counts.zipIdx.map Prod.swap).map Prod.snd = s.counts := by
    rw [List.map_map]
    exact List.zipIdx_map_fst 0 s.counts
  calc s.active.map Prod.snd
      = ((s.counts.zipIdx.map Prod.swap).map Prod.snd).filter (· != 0) := by
        rw [List.filter_map]
        rfl
    _ = s.counts.filter (· != 0) := by rw [hcounts]

/-- Converters without samples add nothing. -/
theorem sum_active (s : SampleCounts) :
    (s.active.map fun p => p.2.toNat).sum = (s.counts.map UInt32.toNat).sum := by
  have hactive : s.active.map (fun p => p.2.toNat) =
      (s.counts.filter (· != 0)).map UInt32.toNat := by
    rw [← map_snd_active, List.map_map]
    rfl
  rw [hactive]
  induction s.counts with
  | nil => rfl
  | cons count counts ih =>
    rw [List.filter_cons, List.map_cons, List.sum_cons, ← ih]
    by_cases hzero : count = 0
    · rw [hzero, if_neg (by decide), UInt32.toNat_zero, Nat.zero_add]
    · rw [if_pos (bne_iff_ne.mpr hzero), List.map_cons, List.sum_cons]

/-- The total is the sum of the counts, up to whole turns of a word. -/
def Sums (s : SampleCounts) : Prop :=
  s.total.toNat = (s.counts.map UInt32.toNat).sum % UInt32.size

theorem sums_empty : empty.Sums := rfl

theorem Sums.cons (h : s.Sums) (count : UInt32) : (s.cons count).Sums := by
  rw [Sums, SampleCounts.cons, UInt32.toNat_add, h, List.map_cons, List.sum_cons]
  exact Nat.add_mod_mod _ _ _

end SampleCounts

namespace FrameHeader

/-! ## How much a slot can add -/

theorem toNat_samples_le (word : UInt32) : (samples word).toNat ≤ 32 := by
  have hall : ∀ x ∈ codeCounts, x.toNat ≤ 32 := List.forall_iff_forall_mem.mp (by decide)
  exact hall _ (getD_samplesOfCode_mem _)

/-- Doubling loses nothing. -/
theorem toNat_pairSamples (word : UInt32) :
    (pairSamples word).toNat = 2 * (samples word).toNat := by
  have hle := toNat_samples_le word
  have htwo : (2 : UInt32).toNat = 2 := rfl
  rw [pairSamples, UInt32.toNat_mul, htwo]
  exact Nat.mod_eq_of_lt (by omega)

/-- Two bits are no code of many samples. -/
theorem toNat_pairSamples_le_of_lt {word : UInt32} (h : word.toNat < 4) :
    (pairSamples word).toNat ≤ 8 := by
  have hall : ∀ c, c < 4 → (samplesOfCode.getD c 0).toNat ≤ 4 := by decide
  have hcode : (code word).toNat < 4 := by
    rw [toNat_code]
    omega
  have hle : (samples word).toNat ≤ 4 := hall _ hcode
  rw [toNat_pairSamples]
  omega

/-! ## The sum of the counts -/

/-- **The counts add up to at most 32 for each slot.**  The word has three bits for each slot that
is left, and two more. -/
theorem sum_counts_decodeSlots_le {n : Nat} {word : UInt32} (h : word.toNat < 4 * 8 ^ n) :
    ((decodeSlots n word).counts.map UInt32.toNat).sum ≤ 32 * n := by
  fun_induction decodeSlots n word with
  | case1 word => exact Nat.le_refl 0
  | case2 word hseven =>
    have hpair : (pairSamples (word >>> 3)).toNat ≤ 8 := by
      apply toNat_pairSamples_le_of_lt
      rw [toNat_shiftRight_three]
      omega
    simp only [SampleCounts.cons, SampleCounts.empty, List.map_cons, List.map_nil, List.sum_cons,
      List.sum_nil]
    omega
  | case3 word hne =>
    have hle := toNat_samples_le word
    simp only [SampleCounts.cons, SampleCounts.empty, List.map_cons, List.map_nil, List.sum_cons,
      List.sum_nil]
    omega
  | case4 n word hseven ih =>
    have hrest := ih (by
      rw [toNat_shiftRight_six]
      rw [Nat.pow_succ, Nat.pow_succ] at h
      omega)
    have hpair := toNat_pairSamples (word >>> 3)
    have hle := toNat_samples_le (word >>> 3)
    simp only [SampleCounts.cons, List.map_cons, List.sum_cons, UInt32.toNat_zero]
    omega
  | case5 n word hne ih =>
    have hrest := ih (by
      rw [toNat_shiftRight_three]
      rw [Nat.pow_succ] at h
      omega)
    have hle := toNat_samples_le word
    simp only [SampleCounts.cons, List.map_cons, List.sum_cons]
    omega

theorem sums_decodeSlots (n : Nat) (word : UInt32) : (decodeSlots n word).Sums := by
  fun_induction decodeSlots n word with
  | case1 word => exact SampleCounts.sums_empty
  | case2 word hseven => exact SampleCounts.sums_empty.cons _
  | case3 word hne => exact SampleCounts.sums_empty.cons _
  | case4 n word hseven ih => exact (ih.cons 0).cons _
  | case5 n word hne ih => exact ih.cons _

theorem sum_counts_decode_le (header : UInt32) :
    ((decode header).counts.map UInt32.toNat).sum ≤ 320 :=
  sum_counts_decodeSlots_le header.toNat_lt

theorem sum_counts_decode_lt (header : UInt32) :
    ((decode header).counts.map UInt32.toNat).sum < UInt32.size :=
  Nat.lt_of_le_of_lt (sum_counts_decode_le header) (by decide)

theorem toNat_total_decode (header : UInt32) :
    (decode header).total.toNat = ((decode header).counts.map UInt32.toNat).sum := by
  rw [decode, sums_decodeSlots]
  exact Nat.mod_eq_of_lt (sum_counts_decode_lt header)

/-! ## Summing up with checks -/

/-- The samples of an interleaved pair, with the doubling checked. -/
def tallyPair (word : UInt32) : Except Fault UInt32 := Word.add (samples word) (samples word)

/-- The counts of the next converters, with a total that goes from slot to slot and every sum
checked. -/
def tallySlots : Nat → UInt32 → UInt32 → Except Fault SampleCounts
  | 0, _, total => .ok ⟨[], total⟩
  | 1, word, total => do
    let count ← if code word = 7 then tallyPair (word >>> 3) else .ok (samples word)
    return ⟨[count], ← Word.add total count⟩
  | n + 2, word, total =>
    if code word = 7 then do
      let count ← tallyPair (word >>> 3)
      let rest ← tallySlots n (word >>> 6) (← Word.add total count)
      return ⟨count :: 0 :: rest.counts, rest.total⟩
    else do
      let rest ← tallySlots (n + 1) (word >>> 3) (← Word.add total (samples word))
      return ⟨samples word :: rest.counts, rest.total⟩

/-- The counts that a header announces, with every sum checked. -/
def tally (header : UInt32) : Except Fault SampleCounts := tallySlots converters header 0

theorem tallyPair_eq_ok (word : UInt32) : tallyPair word = .ok (pairSamples word) := by
  have hpair := toNat_pairSamples word
  exact Word.add_eq_ok_iff.mpr (by omega)

/-- **No check fails**, as long as the total so far and the counts to come make a word. -/
theorem tallySlots_eq_ok {n : Nat} {word total : UInt32}
    (h : total.toNat + ((decodeSlots n word).counts.map UInt32.toNat).sum < UInt32.size) :
    tallySlots n word total =
      .ok ⟨(decodeSlots n word).counts, total + (decodeSlots n word).total⟩ := by
  have hadd {a b : UInt32} (hab : a.toNat + b.toNat < UInt32.size) : Word.add a b = .ok (a + b) :=
    Word.add_eq_ok_add_iff.mpr hab
  have hsum {a b : UInt32} (hab : a.toNat + b.toNat < UInt32.size) :
      (a + b).toNat = a.toNat + b.toNat := (Word.add_eq_ok_iff.mp (hadd hab)).symm
  fun_induction decodeSlots n word generalizing total with
  | case1 word => rw [tallySlots, SampleCounts.empty, UInt32.add_zero]
  | case2 word hseven =>
    simp only [SampleCounts.cons, SampleCounts.empty, List.map_cons, List.map_nil, List.sum_cons,
      List.sum_nil, Nat.add_zero, UInt32.add_zero] at h ⊢
    simp only [tallySlots, if_pos hseven, tallyPair_eq_ok, bind, Except.bind, hadd h, pure,
      Except.pure]
  | case3 word hne =>
    simp only [SampleCounts.cons, SampleCounts.empty, List.map_cons, List.map_nil, List.sum_cons,
      List.sum_nil, Nat.add_zero, UInt32.add_zero] at h ⊢
    simp only [tallySlots, if_neg hne, bind, Except.bind, hadd h, pure, Except.pure]
  | case4 n word hseven ih =>
    simp only [SampleCounts.cons, List.map_cons, List.sum_cons, UInt32.toNat_zero,
      Nat.zero_add, UInt32.zero_add] at h ⊢
    have hpair : total.toNat + (pairSamples (word >>> 3)).toNat < UInt32.size := by omega
    have hrest := @ih (total + pairSamples (word >>> 3)) (by rw [hsum hpair]; omega)
    simp only [tallySlots, if_pos hseven, tallyPair_eq_ok, bind, Except.bind, hadd hpair, hrest,
      pure, Except.pure, UInt32.add_assoc]
  | case5 n word hne ih =>
    simp only [SampleCounts.cons, List.map_cons, List.sum_cons] at h ⊢
    have hcount : total.toNat + (samples word).toNat < UInt32.size := by omega
    have hrest := @ih (total + samples word) (by rw [hsum hcount]; omega)
    simp only [tallySlots, if_neg hne, bind, Except.bind, hadd hcount, hrest, pure, Except.pure,
      UInt32.add_assoc]

theorem tally_eq_ok (header : UInt32) : tally header = .ok (decode header) := by
  rw [tally, tallySlots_eq_ok, UInt32.zero_add]
  · rfl
  · rw [UInt32.toNat_zero, Nat.zero_add]
    exact sum_counts_decode_lt header

/-! ## The total of a frame -/

/-- An interleaved pair starts in the slot. -/
def StartsPair (header : UInt32) (slot : Nat) : Prop :=
  Even (escapesBefore header slot) ∧ field header slot = 7

instance (header : UInt32) (slot : Nat) : Decidable (StartsPair header slot) :=
  inferInstanceAs (Decidable (_ ∧ _))

/-- **The total of a frame.**  Summed up with every doubling and every sum checked, a header gives
what it gives without the checks.  Its total is the sum of its counts as numbers, and the sum of the
counts of the converters that carry samples.  It is at most 320, with pairs and without them.  The
converters that carry samples are those whose count is not zero, each once and in the order of the
slots. -/
theorem total_of_frame (header : UInt32) :
    tally header = .ok (decode header) ∧
    (decode header).total.toNat = ((decode header).counts.map UInt32.toNat).sum ∧
    (decode header).total.toNat = ((decode header).active.map fun p => p.2.toNat).sum ∧
    (decode header).total ≤ 320 ∧
    (∃ plain, (∀ slot, slot < converters → ¬ StartsPair plain slot) ∧ (decode plain).total = 320) ∧
    (∃ paired slot, slot < converters ∧ StartsPair paired slot ∧ (decode paired).total = 320) ∧
    (∀ slot count, (slot, count) ∈ (decode header).active ↔
      (decode header).get? slot = some count ∧ count ≠ 0) ∧
    ((decode header).active.map Prod.fst).Pairwise (· < ·) := by
  have htotal := toNat_total_decode header
  refine ⟨tally_eq_ok header, htotal, ?_, ?_, ?_, ?_, fun slot count => SampleCounts.mem_active_iff,
    SampleCounts.pairwise_active _⟩
  · rw [htotal, SampleCounts.sum_active]
  · rw [UInt32.le_iff_toNat_le, htotal]
    exact sum_counts_decode_le header
  · -- Every slot has code six.
    exact ⟨0x36DB6DB6, by decide, by decide⟩
  · -- Every other slot starts a pair of code six.
    exact ⟨0x37DF7DF7, 0, by decide, by decide, by decide⟩

end FrameHeader
end RadioFrontEnd
