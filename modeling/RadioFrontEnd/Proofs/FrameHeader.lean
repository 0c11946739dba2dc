import Mathlib.Algebra.Ring.Parity
import RadioFrontEnd.FrameHeader

/-!
# Frame headers in closed form

`FrameHeader.decode` reads a header from the low end and shifts it by one or by two fields, so what
a field means depends on everything before it: it is a count, an escape, or the code of a pair.
This file says what every slot gets without running the decoder.

The key is the number of escapes directly before a slot.  Consecutive fields that hold seven pair
up from the first of them on: an escape, its code, an escape, its code.  So a slot is the second of
a pair exactly when the run of sevens that ends just before it is odd.

* `EscapeRun`: how long the run of sevens before a slot is, and `escapesBefore`, which computes it.
* `slotSamples`: what a slot gets, from the fields and that run alone.
* `counts_decodeSlots`: the invariant of the decoder.  It holds at every slot the decoder stops at,
  since it stops only at slots with an even run before them.
-/

namespace RadioFrontEnd.FrameHeader

/-! ## Fields of a header -/

/-- A field of a header: three bits for each converter, and behind the last of them the two bits
that are left. -/
def field (header : UInt32) (slot : Nat) : UInt32 :=
  if slot < converters then (header >>> (3 * slot).toUInt32) &&& 7 else header >>> 30

/-- The samples that a field stands for when it is read as a code. -/
def rate (header : UInt32) (slot : Nat) : UInt32 :=
  samplesOfCode.getD (field header slot).toNat 0

theorem toNat_code (word : UInt32) : (code word).toNat = word.toNat % 8 := by
  rw [code, UInt32.toNat_and]
  exact Nat.and_two_pow_sub_one_eq_mod word.toNat 3

theorem toNat_shiftRight_three (word : UInt32) : (word >>> 3).toNat = word.toNat / 8 := by
  rw [UInt32.toNat_shiftRight, Nat.shiftRight_eq_div_pow]
  rfl

theorem toNat_shiftRight_six (word : UInt32) : (word >>> 6).toNat = word.toNat / 64 := by
  rw [UInt32.toNat_shiftRight, Nat.shiftRight_eq_div_pow]
  rfl

/-- In numbers, a field is an octal digit of the header. -/
theorem toNat_field (header : UInt32) {slot : Nat} (h : slot ≤ converters) :
    (field header slot).toNat = header.toNat / 8 ^ slot % 8 := by
  have hlt := header.toNat_lt
  have hconv : converters = 10 := rfl
  unfold field
  split
  · next hslot =>
    have hshift : (3 * slot).toUInt32.toNat % 32 = 3 * slot := by
      rw [Nat.toUInt32_eq, UInt32.toNat_ofNat']
      omega
    rw [UInt32.toNat_and, UInt32.toNat_shiftRight, hshift, Nat.shiftRight_eq_div_pow, Nat.pow_mul]
    exact Nat.and_two_pow_sub_one_eq_mod (header.toNat / 8 ^ slot) 3
  · next hslot =>
    have hten : slot = 10 := by omega
    rw [hten, UInt32.toNat_shiftRight, Nat.shiftRight_eq_div_pow]
    simp only [UInt32.reduceToNat, Nat.reduceMod, Nat.reducePow]
    omega

/-! ## The word that the decoder holds -/

/-- The word is the header with the fields before a slot shifted out. -/
def StartsAt (word header : UInt32) (slot : Nat) : Prop :=
  word.toNat = header.toNat / 8 ^ slot

theorem startsAt_zero (header : UInt32) : StartsAt header header 0 := by
  rw [StartsAt, Nat.pow_zero, Nat.div_one]

theorem StartsAt.next {word header : UInt32} {slot : Nat} (h : StartsAt word header slot) :
    StartsAt (word >>> 3) header (slot + 1) := by
  rw [StartsAt] at h ⊢
  rw [toNat_shiftRight_three, h, Nat.div_div_eq_div_mul, Nat.pow_succ]

theorem StartsAt.next₂ {word header : UInt32} {slot : Nat} (h : StartsAt word header slot) :
    StartsAt (word >>> 6) header (slot + 2) := by
  rw [StartsAt] at h ⊢
  rw [toNat_shiftRight_six, h, Nat.div_div_eq_div_mul, Nat.pow_add]

/-- The lowest code of the word is the field of the slot. -/
theorem StartsAt.code_eq {word header : UInt32} {slot : Nat} (h : StartsAt word header slot)
    (hslot : slot ≤ converters) : code word = field header slot := by
  apply UInt32.toNat_inj.mp
  rw [toNat_code, toNat_field header hslot, h]

theorem StartsAt.samples_eq {word header : UInt32} {slot : Nat} (h : StartsAt word header slot)
    (hslot : slot ≤ converters) : samples word = rate header slot := by
  rw [samples, rate, h.code_eq hslot]

theorem StartsAt.pairSamples_eq {word header : UInt32} {slot : Nat} (h : StartsAt word header slot)
    (hslot : slot + 1 ≤ converters) : pairSamples (word >>> 3) = 2 * rate header (slot + 1) := by
  rw [pairSamples, h.next.samples_eq hslot]

/-! ## Runs of sevens -/

/-- Before a slot stand so many sevens in a row, and no more. -/
structure EscapeRun (header : UInt32) (slot run : Nat) : Prop where
  /-- The run lies before the slot. -/
  le : run ≤ slot
  /-- The run consists of sevens. -/
  seven : ∀ i, slot - run ≤ i → i < slot → field header i = 7
  /-- The run cannot be made longer. -/
  maximal : run < slot → field header (slot - run - 1) ≠ 7

/-- The number of sevens in a row directly before a slot. -/
def escapesBefore (header : UInt32) : Nat → Nat
  | 0 => 0
  | slot + 1 => if field header slot = 7 then escapesBefore header slot + 1 else 0

theorem escapesBefore_succ_of_seven {header : UInt32} {slot : Nat} (h : field header slot = 7) :
    escapesBefore header (slot + 1) = escapesBefore header slot + 1 := by
  rw [escapesBefore, if_pos h]

theorem escapesBefore_succ_of_ne {header : UInt32} {slot : Nat} (h : field header slot ≠ 7) :
    escapesBefore header (slot + 1) = 0 := by
  rw [escapesBefore, if_neg h]

/-- `escapesBefore` is the length of the maximal run. -/
theorem escapeRun_escapesBefore (header : UInt32) (slot : Nat) :
    EscapeRun header slot (escapesBefore header slot) := by
  induction slot with
  | zero => exact ⟨Nat.le_refl 0, fun i _ h => absurd h (Nat.not_lt_zero i),
      fun h => absurd h (Nat.not_lt_zero _)⟩
  | succ slot ih =>
    by_cases h : field header slot = 7
    · rw [escapesBefore_succ_of_seven h]
      have hle := ih.le
      refine ⟨by omega, fun i hi hlt => ?_, fun hlt => ?_⟩
      · rcases Nat.lt_succ_iff_lt_or_eq.mp hlt with hlt | rfl
        · exact ih.seven i (by omega) hlt
        · exact h
      · rw [Nat.add_sub_add_right]
        exact ih.maximal (by omega)
    · rw [escapesBefore_succ_of_ne h]
      exact ⟨Nat.zero_le _, fun i hi hlt => absurd hlt (by omega), fun _ => h⟩

/-- A run that cannot be made longer is at least as long as any other. -/
theorem EscapeRun.le_of_escapeRun {header : UInt32} {slot run run' : Nat}
    (h : EscapeRun header slot run) (h' : EscapeRun header slot run') : run' ≤ run := by
  by_contra hlt
  have hle := h'.le
  exact h.maximal (by omega) (h'.seven (slot - run - 1) (by omega) (by omega))

theorem EscapeRun.eq_escapesBefore {header : UInt32} {slot run : Nat}
    (h : EscapeRun header slot run) : run = escapesBefore header slot :=
  Nat.le_antisymm ((escapeRun_escapesBefore header slot).le_of_escapeRun h)
    (h.le_of_escapeRun (escapeRun_escapesBefore header slot))

/-- Behind a pair the run is even again, whatever the code of the pair is. -/
theorem even_escapesBefore_add_two {header : UInt32} {slot : Nat}
    (heven : Even (escapesBefore header slot)) (h : field header slot = 7) :
    Even (escapesBefore header (slot + 2)) := by
  by_cases hcode : field header (slot + 1) = 7
  · rw [escapesBefore_succ_of_seven hcode, escapesBefore_succ_of_seven h]
    exact heven.add even_two
  · rw [escapesBefore_succ_of_ne hcode]
    exact Even.zero

/-! ## What a slot gets -/

/-- The samples of a slot: none for the second of a pair, twice the rate of the next field for an
escape, and the rate of its own field otherwise. -/
def slotSamples (header : UInt32) (slot : Nat) : UInt32 :=
  if Odd (escapesBefore header slot) then 0
  else if field header slot = 7 then 2 * rate header (slot + 1)
  else rate header slot

theorem slotSamples_of_odd {header : UInt32} {slot : Nat}
    (h : Odd (escapesBefore header slot)) : slotSamples header slot = 0 := by
  rw [slotSamples, if_pos h]

theorem slotSamples_of_escape {header : UInt32} {slot : Nat}
    (heven : Even (escapesBefore header slot)) (h : field header slot = 7) :
    slotSamples header slot = 2 * rate header (slot + 1) := by
  rw [slotSamples, if_neg (Nat.not_odd_iff_even.mpr heven), if_pos h]

theorem slotSamples_of_count {header : UInt32} {slot : Nat}
    (heven : Even (escapesBefore header slot)) (h : field header slot ≠ 7) :
    slotSamples header slot = rate header slot := by
  rw [slotSamples, if_neg (Nat.not_odd_iff_even.mpr heven), if_neg h]

/-- The slot behind an escape is the second of a pair, and gets nothing. -/
theorem slotSamples_succ_of_escape {header : UInt32} {slot : Nat}
    (heven : Even (escapesBefore header slot)) (h : field header slot = 7) :
    slotSamples header (slot + 1) = 0 := by
  apply slotSamples_of_odd
  rw [escapesBefore_succ_of_seven h]
  exact heven.add_one

/-- **The invariant of the decoder.**  Where it stands at a slot, its word starts at the field of
that slot and the run of sevens before the slot is even; from there on it gives every slot what the
closed form says.  The run stays even because the decoder steps over a whole pair at once. -/
theorem counts_decodeSlots {header : UInt32} (n : Nat) (word : UInt32) (slot : Nat)
    (hn : slot + n = converters) (hword : StartsAt word header slot)
    (heven : Even (escapesBefore header slot)) :
    (decodeSlots n word).counts = (List.range' slot n).map (slotSamples header) := by
  have hcode := hword.code_eq (by omega)
  fun_induction decodeSlots n word generalizing slot with
  | case1 word => rfl
  | case2 word hseven =>
    rw [hcode] at hseven
    rw [SampleCounts.cons, SampleCounts.empty, List.range'_one, List.map_singleton,
      slotSamples_of_escape heven hseven, hword.pairSamples_eq (by omega)]
  | case3 word hne =>
    rw [hcode] at hne
    rw [SampleCounts.cons, SampleCounts.empty, List.range'_one, List.map_singleton,
      slotSamples_of_count heven hne, hword.samples_eq (by omega)]
  | case4 n word hseven ih =>
    rw [hcode] at hseven
    have hrest := ih (slot + 2) (by omega) hword.next₂ (even_escapesBefore_add_two heven hseven)
      (hword.next₂.code_eq (by omega))
    rw [SampleCounts.cons, SampleCounts.cons, hrest, List.range'_succ, List.range'_succ,
      List.map_cons, List.map_cons, slotSamples_of_escape heven hseven,
      slotSamples_succ_of_escape heven hseven, hword.pairSamples_eq (by omega)]
  | case5 n word hne ih =>
    rw [hcode] at hne
    have hzero : Even (escapesBefore header (slot + 1)) := by
      rw [escapesBefore_succ_of_ne hne]
      exact Even.zero
    have hrest := ih (slot + 1) (by omega) hword.next hzero (hword.next.code_eq (by omega))
    rw [List.range'_succ, List.map_cons, SampleCounts.cons, hrest,
      slotSamples_of_count heven hne, hword.samples_eq (by omega)]

theorem counts_decode (header : UInt32) :
    (decode header).counts = (List.range converters).map (slotSamples header) := by
  rw [List.range_eq_range']
  exact counts_decodeSlots converters header 0 rfl (startsAt_zero header) Even.zero

theorem get?_decode {header : UInt32} {slot : Nat} (h : slot < converters) :
    (decode header).get? slot = some (slotSamples header slot) := by
  rw [SampleCounts.get?, counts_decode, List.getElem?_map, List.getElem?_range h, Option.map_some]

/-! ## The closed form -/

/-- **A header in closed form.**  There are ten counts.  A slot with an odd run of sevens before it
gets nothing; with an even run it gets twice the rate of the next field if its own field is seven,
and the rate of its own field otherwise.  An escape in the last slot has only the two top bits for
its rate.  An escape whose rate is seven again gets nothing, its partner gets nothing, and the slot
behind the pair is read as if nothing stood before it. -/
theorem decode_closed_form (header : UInt32) :
    (decode header).counts.length = converters ∧
    (∀ slot run, slot < converters → EscapeRun header slot run →
      (decode header).get? slot =
        some (if Odd run then 0
          else if field header slot = 7 then 2 * rate header (slot + 1)
          else rate header slot)) ∧
    (∀ run, EscapeRun header 9 run → Even run → field header 9 = 7 →
      (decode header).get? 9 = some ((2 : UInt32) * samplesOfCode.getD (header >>> 30).toNat 0)) ∧
    (∀ slot run, slot + 1 < converters → EscapeRun header slot run → Even run →
      field header slot = 7 → field header (slot + 1) = 7 →
        (decode header).get? slot = some 0 ∧ (decode header).get? (slot + 1) = some 0 ∧
        (slot + 2 < converters → (decode header).get? (slot + 2) =
          some (if field header (slot + 2) = 7 then 2 * rate header (slot + 3)
            else rate header (slot + 2)))) := by
  refine ⟨length_counts_decodeSlots converters header, ?_, ?_, ?_⟩
  · intro slot run hslot hrun
    rw [get?_decode hslot, slotSamples, hrun.eq_escapesBefore]
  · intro run hrun heven hseven
    rw [hrun.eq_escapesBefore] at heven
    rw [get?_decode (by decide), slotSamples_of_escape heven hseven]
    rfl
  · intro slot run hslot hrun heven hseven hcode
    rw [hrun.eq_escapesBefore] at heven
    refine ⟨?_, ?_, fun htwo => ?_⟩
    · rw [get?_decode (by omega), slotSamples_of_escape heven hseven, rate, hcode]
      rfl
    · rw [get?_decode hslot, slotSamples_succ_of_escape heven hseven]
    · have hbehind := Nat.not_odd_iff_even.mpr (even_escapesBefore_add_two heven hseven)
      rw [get?_decode htwo, slotSamples, if_neg hbehind]

/-- Three sevens in a row, a code three behind them, and an escape in the last slot: the
third seven starts a pair of its own, and the last escape reads the top bits `10`. -/
theorem decode_closed_form_three_sevens :
    EscapeRun 0xB80007FF 3 3 ∧ EscapeRun 0xB80007FF 9 0 ∧
    (decode 0xB80007FF).get? 2 = some 8 ∧ (decode 0xB80007FF).get? 3 = some 0 ∧
    (decode 0xB80007FF).get? 9 = some 4 := by
  have hthree : EscapeRun 0xB80007FF 3 3 := escapeRun_escapesBefore 0xB80007FF 3
  have htwo : EscapeRun 0xB80007FF 2 2 := escapeRun_escapesBefore 0xB80007FF 2
  have hnine : EscapeRun 0xB80007FF 9 0 := escapeRun_escapesBefore 0xB80007FF 9
  obtain ⟨-, hslot, hlast, -⟩ := decode_closed_form 0xB80007FF
  refine ⟨hthree, hnine, ?_, ?_, ?_⟩
  · exact (hslot 2 2 (by decide) htwo).trans (by decide)
  · exact (hslot 3 3 (by decide) hthree).trans (by decide)
  · exact (hlast 0 hnine (by decide) (by decide)).trans (by decide)

end RadioFrontEnd.FrameHeader
