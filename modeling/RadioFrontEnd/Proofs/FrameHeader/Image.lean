import Mathlib.Data.List.Basic
import Mathlib.Data.Nat.Digits.Defs
import RadioFrontEnd.Proofs.FrameHeader

/-!
# The counts that headers can announce

Not every ten numbers are the counts of a header.  A slot gets nothing, a power of two up to 32, or
64; and 64 is only had as a pair, which costs the slot behind it.  `exists_decode_counts_eq_iff`
says that nothing else is needed: all counts of this kind are announced by some header.

One half is read off the closed form, slot by slot.  For the other half a header has to be written.
`codesOf` gives the codes for some counts, by the same recursion by which the decoder reads them: a
64 and the nothing behind it are an escape and its code, and every other count is the code of its
place in the table.  No other code is an escape, so the decoder stops exactly where `codesOf` did,
and reads back what was written.
-/

namespace RadioFrontEnd.FrameHeader

/-- What a code can stand for. -/
def codeCounts : List UInt32 := [0, 1, 2, 4, 8, 16, 32]

/-- What a slot can get. -/
def possibleCounts : List UInt32 := codeCounts ++ [64]

/-! ## What the counts of a header are like -/

/-- Past its end the table is read as zero, so this holds of any number. -/
theorem getD_samplesOfCode_mem (c : Nat) : samplesOfCode.getD c 0 ∈ codeCounts := by
  have hall : ∀ c, c < samplesOfCode.length → samplesOfCode.getD c 0 ∈ codeCounts := by decide
  rcases Nat.lt_or_ge c samplesOfCode.length with hc | hc
  · exact hall c hc
  · rw [List.getD_eq_getElem?_getD, List.getElem?_eq_none hc]
    decide

theorem rate_mem_codeCounts (header : UInt32) (slot : Nat) : rate header slot ∈ codeCounts :=
  getD_samplesOfCode_mem _

theorem ne_of_mem_codeCounts : ∀ x ∈ codeCounts, x ≠ 64 := List.forall_iff_forall_mem.mp (by decide)

theorem slotSamples_mem_possibleCounts (header : UInt32) (slot : Nat) :
    slotSamples header slot ∈ possibleCounts := by
  have hpair : ∀ x ∈ codeCounts, 2 * x ∈ possibleCounts :=
    List.forall_iff_forall_mem.mp (by decide)
  unfold slotSamples
  split_ifs with hodd hseven
  · decide
  · exact hpair _ (rate_mem_codeCounts header (slot + 1))
  · exact List.mem_append_left _ (rate_mem_codeCounts header slot)

/-- Only an escape gets 64. -/
theorem escape_of_slotSamples_eq {header : UInt32} {slot : Nat}
    (h : slotSamples header slot = 64) :
    Even (escapesBefore header slot) ∧ field header slot = 7 := by
  unfold slotSamples at h
  split_ifs at h with hodd hseven
  · exact absurd h (by decide)
  · exact ⟨Nat.not_odd_iff_even.mp hodd, hseven⟩
  · exact absurd h (ne_of_mem_codeCounts _ (rate_mem_codeCounts header slot))

/-- An escape in the last slot has too few bits for its rate to get 64. -/
theorem slotSamples_last_ne (header : UInt32) : slotSamples header 9 ≠ 64 := by
  intro h
  obtain ⟨heven, hseven⟩ := escape_of_slotSamples_eq h
  have hfield : (field header 10).toNat < 4 := by
    have hlt := header.toNat_lt
    have htop : field header 10 = header >>> 30 := rfl
    rw [htop, UInt32.toNat_shiftRight, Nat.shiftRight_eq_div_pow]
    simp only [UInt32.reduceToNat, Nat.reduceMod, Nat.reducePow]
    omega
  have hrate : ∀ c, c < 4 → 2 * samplesOfCode.getD c 0 ≠ 64 := by decide
  rw [slotSamples_of_escape heven hseven] at h
  exact hrate _ hfield h

/-! ## Writing a header -/

/-- The code of a number of samples: its first place in the table. -/
def codeOf (count : UInt32) : Nat := samplesOfCode.idxOf count

/-- The codes for some counts, one for each slot. -/
def codesOf : List UInt32 → List Nat
  | [] => []
  | [x] => [codeOf x]
  | x :: y :: counts =>
    if x = 64 then 7 :: codeOf 32 :: codesOf counts else codeOf x :: codesOf (y :: counts)

/-- Counts that fit together: each can be had, and behind a 64 comes nothing. -/
structure FitTogether (counts : List UInt32) : Prop where
  /-- Every count can be had. -/
  mem : ∀ x ∈ counts, x ∈ possibleCounts
  /-- A 64 costs the slot behind it. -/
  partner : ∀ i : Nat, counts[i]? = some 64 → counts[i + 1]? = some 0

theorem FitTogether.tail {x : UInt32} {counts : List UInt32} (h : FitTogether (x :: counts)) :
    FitTogether counts :=
  ⟨fun y hy => h.mem y (List.mem_cons_of_mem x hy), fun i hi => h.partner (i + 1) hi⟩

theorem FitTogether.head_ne {x : UInt32} (h : FitTogether [x]) : x ≠ 64 := by
  rintro rfl
  have hnone : ([64] : List UInt32)[1]? = some 0 := h.partner 0 rfl
  cases hnone

theorem FitTogether.snd_eq {y : UInt32} {counts : List UInt32}
    (h : FitTogether (64 :: y :: counts)) : y = 0 :=
  Option.some.inj (h.partner 0 rfl)

theorem codeOf_lt {x : UInt32} (h : x ∈ possibleCounts) (hne : x ≠ 64) : codeOf x < 7 := by
  have hall : ∀ x ∈ possibleCounts, x ≠ 64 → codeOf x < 7 :=
    List.forall_iff_forall_mem.mp (by decide)
  exact hall x h hne

theorem getD_codeOf {x : UInt32} (h : x ∈ possibleCounts) (hne : x ≠ 64) :
    samplesOfCode.getD (codeOf x) 0 = x := by
  have hall : ∀ x ∈ possibleCounts, x ≠ 64 → samplesOfCode.getD (codeOf x) 0 = x :=
    List.forall_iff_forall_mem.mp (by decide)
  exact hall x h hne

theorem length_codesOf (counts : List UInt32) : (codesOf counts).length = counts.length := by
  fun_induction codesOf counts <;> simp_all

theorem FitTogether.lt_of_mem_codesOf {counts : List UInt32} (h : FitTogether counts) :
    ∀ c ∈ codesOf counts, c < 8 := by
  fun_induction codesOf counts with
  | case1 => exact List.forall_mem_nil _
  | case2 x =>
    have hx := codeOf_lt (h.mem x List.mem_cons_self) h.head_ne
    rw [List.forall_mem_singleton]
    omega
  | case3 y counts ih =>
    rw [List.forall_mem_cons, List.forall_mem_cons]
    exact ⟨by decide, by decide, ih h.tail.tail⟩
  | case4 x y counts hne ih =>
    have hx := codeOf_lt (h.mem x List.mem_cons_self) hne
    rw [List.forall_mem_cons]
    exact ⟨by omega, ih h.tail⟩

/-! ## Reading it back -/

/-- The word holds the codes, the first in its lowest bits, and nothing above them. -/
def Spells (word : UInt32) (codes : List Nat) : Prop := word.toNat = Nat.ofDigits 8 codes

section Spells

variable {word : UInt32} {c : Nat} {codes : List Nat}

theorem Spells.toNat_code (h : Spells word (c :: codes)) (hc : c < 8) : (code word).toNat = c := by
  rw [FrameHeader.toNat_code, h, Nat.ofDigits_cons]
  omega

theorem Spells.next (h : Spells word (c :: codes)) (hc : c < 8) : Spells (word >>> 3) codes := by
  rw [Spells, toNat_shiftRight_three, h, Nat.ofDigits_cons]
  omega

theorem Spells.next₂ {d : Nat} (h : Spells word (c :: d :: codes)) (hc : c < 8) (hd : d < 8) :
    Spells (word >>> 6) codes := by
  rw [Spells, toNat_shiftRight_six, h, Nat.ofDigits_cons, Nat.ofDigits_cons]
  omega

theorem Spells.samples_eq (h : Spells word (c :: codes)) (hc : c < 8) :
    samples word = samplesOfCode.getD c 0 := by
  rw [samples, h.toNat_code hc]

theorem Spells.code_ne (h : Spells word (c :: codes)) (hc : c < 7) : code word ≠ 7 := by
  intro hseven
  have hcode := h.toNat_code (by omega)
  rw [hseven] at hcode
  have : (7 : UInt32).toNat = 7 := rfl
  omega

theorem Spells.code_eq (h : Spells word (7 :: codes)) : code word = 7 :=
  UInt32.toNat_inj.mp (h.toNat_code (by decide))

end Spells

/-- **The decoder reads back what was written.**  The induction follows `codesOf`, and the decoder
takes the same steps: two slots at a 64, and one at any other count. -/
theorem FitTogether.counts_decodeSlots {counts : List UInt32} (h : FitTogether counts)
    {word : UInt32} (hword : Spells word (codesOf counts)) :
    (decodeSlots counts.length word).counts = counts := by
  fun_induction codesOf counts generalizing word with
  | case1 => rfl
  | case2 x =>
    have hmem := h.mem x List.mem_cons_self
    have hlt := codeOf_lt hmem h.head_ne
    rw [List.length_singleton, decodeSlots, if_neg (hword.code_ne hlt), SampleCounts.cons,
      hword.samples_eq (by omega), getD_codeOf hmem h.head_ne]
    rfl
  | case3 y counts ih =>
    have hpair : pairSamples (word >>> 3) = 64 := by
      rw [pairSamples, (hword.next (by decide)).samples_eq (by decide)]
      decide
    have hrest := ih h.tail.tail (hword.next₂ (by decide) (by decide))
    rw [List.length_cons, List.length_cons, decodeSlots, if_pos hword.code_eq, SampleCounts.cons,
      SampleCounts.cons, hrest, hpair, h.snd_eq]
  | case4 x y counts hne ih =>
    have hmem := h.mem x List.mem_cons_self
    have hlt := codeOf_lt hmem hne
    have hrest := ih h.tail (hword.next (by omega))
    rw [List.length_cons] at hrest
    rw [List.length_cons, List.length_cons, decodeSlots, if_neg (hword.code_ne hlt),
      SampleCounts.cons, hrest, hword.samples_eq (by omega), getD_codeOf hmem hne]

/-- The header with the codes for some counts. -/
def encode (counts : List UInt32) : UInt32 := .ofNat (Nat.ofDigits 8 (codesOf counts))

/-- Ten codes fit into a word. -/
theorem FitTogether.spells_encode {counts : List UInt32} (h : FitTogether counts)
    (hlength : counts.length = converters) : Spells (encode counts) (codesOf counts) := by
  have hlt := Nat.ofDigits_lt_base_pow_length (b := 8) (by decide) h.lt_of_mem_codesOf
  rw [length_codesOf, hlength] at hlt
  have hpow : 8 ^ converters < UInt32.size := by decide
  rw [Spells, encode, UInt32.toNat_ofNat']
  exact Nat.mod_eq_of_lt (Nat.lt_trans hlt hpow)

theorem FitTogether.counts_decode_encode {counts : List UInt32} (h : FitTogether counts)
    (hlength : counts.length = converters) : (decode (encode counts)).counts = counts := by
  rw [decode, ← hlength]
  exact h.counts_decodeSlots (h.spells_encode hlength)

/-! ## The counts of all headers -/

/-- **The counts that headers can announce.**  They are ten numbers, each of which a slot can get;
the last is not 64, and behind every other 64 comes nothing. -/
theorem exists_decode_counts_eq_iff (counts : List UInt32) :
    (∃ header, (decode header).counts = counts) ↔
      counts.length = converters ∧ (∀ x ∈ counts, x ∈ possibleCounts) ∧
        counts[9]? ≠ some 64 ∧
        ∀ i : Nat, i < 9 → counts[i]? = some 64 → counts[i + 1]? = some 0 := by
  constructor
  · rintro ⟨header, rfl⟩
    have hget {slot : Nat} (hslot : slot < converters) :
        (decode header).counts[slot]? = some (slotSamples header slot) := get?_decode hslot
    refine ⟨length_counts_decodeSlots converters header, ?_, ?_, ?_⟩
    · rw [counts_decode, List.forall_mem_map]
      exact fun slot _ => slotSamples_mem_possibleCounts header slot
    · rw [hget (by decide)]
      exact fun h => slotSamples_last_ne header (Option.some.inj h)
    · intro slot hslot h
      have hconv : converters = 10 := rfl
      rw [hget (by omega)] at h
      obtain ⟨heven, hseven⟩ := escape_of_slotSamples_eq (Option.some.inj h)
      rw [hget (by omega), slotSamples_succ_of_escape heven hseven]
  · rintro ⟨hlength, hmem, hlast, hpartner⟩
    have hfit : FitTogether counts := by
      refine ⟨hmem, fun i hi => ?_⟩
      have hlt : i < counts.length := (List.getElem?_eq_some_iff.mp hi).1
      have hne : i ≠ 9 := by
        rintro rfl
        exact hlast hi
      have hconv : converters = 10 := rfl
      exact hpartner i (by omega) hi
    exact ⟨encode counts, hfit.counts_decode_encode hlength⟩

end RadioFrontEnd.FrameHeader
