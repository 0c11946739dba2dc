import Mathlib.Algebra.Group.Nat.Defs
import RadioFrontEnd.Firmware
import RadioFrontEnd.Proofs.Word

/-!
# Version words

A version word holds its fields side by side, from the high end the major version, the identity of
the board, the version, and four bits without meaning.  `Firmware.decode` cuts the first three out,
with a shift, a mask and a narrower type for each.  `Firmware.pack` puts four fields into a word.  A
shift that is off by one, or a mask of another width, would show for some words only, so the two are
compared for all of them.

The fields are the digits of the word in a mixed radix: a version counts sixteens, an identity
counts steps of `2 ^ 20`, a major version steps of `2 ^ 25`.  This is what `toNat_pack` says of a
packed word, and what `toNat_version_decode` and its two neighbours say of the fields that are cut.
With it both directions are facts about digits: cutting a packed word gives the digits back if each
is below its radix (`decode_pack`), and the digits of a word make up the word (`pack_decode`).

No field looks at the lowest digit, and the others make up the quotient of the word by sixteen, so
two words have the same firmware exactly if they agree from bit four on (`decode_eq_iff`).  The
version fills its type, but the identity and the major version do not fill theirs: a firmware is that
of some word exactly if these two have room (`exists_decode_eq_iff`).  A range of major versions that
starts above the room accepts no word (`FirmwareRange.exists_contains_decode_iff`).
-/

namespace RadioFrontEnd

namespace Word

/-- A shift and a mask cut a digit out of a word. -/
theorem toNat_cut {w p mask : UInt32} {place width : Nat} (hp : p.toNat % 32 = place)
    (hmask : mask.toNat = 2 ^ width - 1) :
    ((w >>> p) &&& mask).toNat = w.toNat / 2 ^ place % 2 ^ width := by
  rw [UInt32.toNat_and, UInt32.toNat_shiftRight, hp, hmask, Nat.shiftRight_eq_div_pow]
  exact Nat.and_two_pow_sub_one_eq_mod (w.toNat / 2 ^ place) width

/-- A word that is shifted past another one is the higher digit of the two. -/
theorem toNat_shiftLeft_or {v w p : UInt32} {place : Nat} (hp : p.toNat % 32 = place)
    (hv : 2 ^ place * v.toNat < 2 ^ 32) (hw : w.toNat < 2 ^ place) :
    (v <<< p ||| w).toNat = 2 ^ place * v.toNat + w.toNat := by
  have hshift : (v <<< p).toNat = 2 ^ place * v.toNat := by
    rw [UInt32.toNat_shiftLeft, hp, Nat.shiftLeft_eq, Nat.mul_comm, Nat.mod_eq_of_lt hv]
  rw [UInt32.toNat_or, hshift, Nat.two_pow_add_eq_or_of_lt hw]

theorem toNat_and_le (w mask : UInt32) : (w &&& mask).toNat ≤ mask.toNat := by
  rw [UInt32.toNat_and]
  exact Nat.and_le_right

/-- A byte that is cut out of a word fits into a byte. -/
theorem toUInt32_toUInt8_and {w mask : UInt32} (hmask : mask.toNat < 2 ^ 8) :
    (w &&& mask).toUInt8.toUInt32 = w &&& mask := by
  have hle := toNat_and_le w mask
  apply UInt32.toNat_inj.mp
  rw [UInt8.toNat_toUInt32, UInt32.toNat_toUInt8, Nat.mod_eq_of_lt (by omega)]

theorem toUInt32_toUInt16_and {w mask : UInt32} (hmask : mask.toNat < 2 ^ 16) :
    (w &&& mask).toUInt16.toUInt32 = w &&& mask := by
  have hle := toNat_and_le w mask
  apply UInt32.toNat_inj.mp
  rw [UInt16.toNat_toUInt32, UInt32.toNat_toUInt16, Nat.mod_eq_of_lt (by omega)]

/-- Two words have one quotient by sixteen exactly if they agree from bit four on. -/
theorem div_sixteen_eq_iff {v w : UInt32} :
    v.toNat / 16 = w.toNat / 16 ↔ ∀ i < 32, 4 ≤ i → hasBit v i = hasBit w i := by
  have hquotient (u : UInt32) (i : Nat) : (u.toNat / 16).testBit i = hasBit u (i + 4) :=
    Nat.testBit_div_two_pow (n := 4) u.toNat i
  constructor
  · intro h i _ hfour
    have hbit := congrArg (Nat.testBit · (i - 4)) h
    simpa only [hquotient, Nat.sub_add_cancel hfour] using hbit
  · intro h
    apply Nat.eq_of_testBit_eq
    intro i
    rw [hquotient, hquotient]
    by_cases hi : i + 4 < 32
    · exact h (i + 4) hi (Nat.le_add_left 4 i)
    · rw [hasBit_of_le (Nat.le_of_not_lt hi), hasBit_of_le (Nat.le_of_not_lt hi)]

end Word

namespace Firmware

/-! ## Cutting -/

section Cut

variable (w : UInt32)

/-- No bit is lost where the identity is narrowed: widened again, it is what was cut. -/
theorem toUInt32_softwareId_decode : (decode w).softwareId.toUInt32 = (w >>> 20) &&& 0x1F :=
  Word.toUInt32_toUInt8_and (by decide)

theorem toUInt32_version_decode : (decode w).version.toUInt32 = (w >>> 4) &&& 0xFFFF :=
  Word.toUInt32_toUInt16_and (by decide)

theorem toUInt32_major_decode : (decode w).major.toUInt32 = (w >>> 25) &&& 0x7F :=
  Word.toUInt32_toUInt8_and (by decide)

theorem toNat_softwareId_decode : (decode w).softwareId.toNat = w.toNat / 2 ^ 20 % 2 ^ 5 := by
  rw [← UInt8.toNat_toUInt32, toUInt32_softwareId_decode]
  exact Word.toNat_cut rfl rfl

theorem toNat_version_decode : (decode w).version.toNat = w.toNat / 2 ^ 4 % 2 ^ 16 := by
  rw [← UInt16.toNat_toUInt32, toUInt32_version_decode]
  exact Word.toNat_cut rfl rfl

/-- The major version is the highest digit, so it is a quotient alone. -/
theorem toNat_major_decode : (decode w).major.toNat = w.toNat / 2 ^ 25 := by
  have hcut : ((w >>> 25) &&& 0x7F).toNat = w.toNat / 2 ^ 25 % 2 ^ 7 := Word.toNat_cut rfl rfl
  have hlt := w.toNat_lt
  rw [← UInt8.toNat_toUInt32, toUInt32_major_decode, hcut]
  omega

theorem softwareId_decode_lt : (decode w).softwareId.toNat < 32 := by
  rw [toNat_softwareId_decode]
  exact Nat.mod_lt _ (by decide)

theorem major_decode_lt : (decode w).major.toNat < 128 := by
  have hlt := w.toNat_lt
  rw [toNat_major_decode]
  omega

end Cut

/-- Two identities are equal if their fields are equal as numbers. -/
theorem ext_toNat {fw fw' : Firmware} (hid : fw.softwareId.toNat = fw'.softwareId.toNat)
    (hversion : fw.version.toNat = fw'.version.toNat) (hmajor : fw.major.toNat = fw'.major.toNat) :
    fw = fw' := by
  cases fw
  cases fw'
  congr
  · exact UInt8.toNat_inj.mp hid
  · exact UInt16.toNat_inj.mp hversion
  · exact UInt8.toNat_inj.mp hmajor

/-- Two words have the same firmware exactly if they agree from bit four on. -/
theorem decode_eq_iff (v w : UInt32) :
    decode v = decode w ↔ ∀ i < 32, 4 ≤ i → Word.hasBit v i = Word.hasBit w i := by
  rw [← Word.div_sixteen_eq_iff]
  -- the quotient by sixteen has the three fields as its digits
  have hdigits (u : UInt32) : u.toNat / 16 = 2 ^ 21 * (decode u).major.toNat +
      (2 ^ 16 * (decode u).softwareId.toNat + (decode u).version.toNat) := by
    rw [toNat_major_decode, toNat_softwareId_decode, toNat_version_decode]
    omega
  constructor
  · intro h
    rw [hdigits, hdigits, h]
  · intro h
    apply ext_toNat
    · rw [toNat_softwareId_decode, toNat_softwareId_decode]
      omega
    · rw [toNat_version_decode, toNat_version_decode]
      omega
    · rw [toNat_major_decode, toNat_major_decode]
      omega

/-! ## Packing -/

/-- The word with the given fields. -/
def pack (major softwareId version low : UInt32) : UInt32 :=
  major <<< 25 ||| softwareId <<< 20 ||| version <<< 4 ||| low

section Pack

variable {major softwareId version low : UInt32} (hmajor : major.toNat < 2 ^ 7)
  (hid : softwareId.toNat < 2 ^ 5) (hversion : version.toNat < 2 ^ 16) (hlow : low.toNat < 2 ^ 4)

include hmajor hid hversion hlow

/-- A packed word has its fields as digits, if each of them is one. -/
theorem toNat_pack :
    (pack major softwareId version low).toNat =
      2 ^ 25 * major.toNat + (2 ^ 20 * softwareId.toNat + (2 ^ 4 * version.toNat + low.toNat)) := by
  have hlast : (version <<< 4 ||| low).toNat = 2 ^ 4 * version.toNat + low.toNat :=
    Word.toNat_shiftLeft_or rfl (by omega) hlow
  have hrest : (softwareId <<< 20 ||| (version <<< 4 ||| low)).toNat =
      2 ^ 20 * softwareId.toNat + (2 ^ 4 * version.toNat + low.toNat) := by
    rw [← hlast]
    exact Word.toNat_shiftLeft_or rfl (by omega) (by omega)
  rw [pack, UInt32.or_assoc, UInt32.or_assoc, ← hrest]
  exact Word.toNat_shiftLeft_or rfl (by omega) (by omega)

/-- What is cut out of a packed word is what was packed. -/
theorem decode_pack :
    (decode (pack major softwareId version low)).major.toUInt32 = major ∧
    (decode (pack major softwareId version low)).softwareId.toUInt32 = softwareId ∧
    (decode (pack major softwareId version low)).version.toUInt32 = version := by
  have hword := toNat_pack hmajor hid hversion hlow
  refine ⟨UInt32.toNat_inj.mp ?_, UInt32.toNat_inj.mp ?_, UInt32.toNat_inj.mp ?_⟩
  · rw [UInt8.toNat_toUInt32, toNat_major_decode, hword]
    omega
  · rw [UInt8.toNat_toUInt32, toNat_softwareId_decode, hword]
    omega
  · rw [UInt16.toNat_toUInt32, toNat_version_decode, hword]
    omega

end Pack

/-- What is cut out of a word makes up the word, together with its lowest digit. -/
theorem pack_decode (w : UInt32) :
    pack (decode w).major.toUInt32 (decode w).softwareId.toUInt32 (decode w).version.toUInt32
      (w &&& 0xF) = w := by
  have hmajor : (decode w).major.toUInt32.toNat = w.toNat / 2 ^ 25 := toNat_major_decode w
  have hid : (decode w).softwareId.toUInt32.toNat = w.toNat / 2 ^ 20 % 2 ^ 5 :=
    toNat_softwareId_decode w
  have hversion : (decode w).version.toUInt32.toNat = w.toNat / 2 ^ 4 % 2 ^ 16 :=
    toNat_version_decode w
  have hlow : (w &&& 0xF).toNat = w.toNat % 2 ^ 4 := Nat.and_two_pow_sub_one_eq_mod w.toNat 4
  have hlt := w.toNat_lt
  apply UInt32.toNat_inj.mp
  rw [toNat_pack (by omega) (by omega) (by omega) (by omega), hid, hversion, hmajor, hlow]
  omega

/-- A firmware is that of some word exactly if its fields have room in one.  The version always
has. -/
theorem exists_decode_eq_iff (fw : Firmware) :
    (∃ w, decode w = fw) ↔ fw.major.toNat < 128 ∧ fw.softwareId.toNat < 32 := by
  constructor
  · rintro ⟨w, rfl⟩
    exact ⟨major_decode_lt w, softwareId_decode_lt w⟩
  · rintro ⟨hmajor, hid⟩
    obtain ⟨hmajor, hid, hversion⟩ := @decode_pack fw.major.toUInt32 fw.softwareId.toUInt32
      fw.version.toUInt32 0 hmajor hid fw.version.toNat_lt (by decide)
    exact ⟨_, ext_toNat (congrArg UInt32.toNat hid) (congrArg UInt32.toNat hversion)
      (congrArg UInt32.toNat hmajor)⟩

/-- **Packing and cutting are inverse.**  Fields that have room are cut out of the word that they are
packed into, as they were.  The fields that are cut out of any word have room, no bit is lost where
they are narrowed, and with the four lowest bits they make up the word again.  So two words have the
same firmware exactly if they agree from bit four on. -/
theorem version_word_is_its_fields {major softwareId version low : UInt32}
    (hmajor : major < 128) (hid : softwareId < 32) (hversion : version < 65536) (hlow : low < 16)
    (v w : UInt32) :
    ((decode (pack major softwareId version low)).major.toUInt32 = major ∧
      (decode (pack major softwareId version low)).softwareId.toUInt32 = softwareId ∧
      (decode (pack major softwareId version low)).version.toUInt32 = version) ∧
    ((decode w).major.toNat < 128 ∧ (decode w).softwareId.toNat < 32 ∧
      (decode w).version.toNat < 65536) ∧
    ((decode w).major.toUInt32 = (w >>> 25) &&& 0x7F ∧
      (decode w).softwareId.toUInt32 = (w >>> 20) &&& 0x1F ∧
      (decode w).version.toUInt32 = (w >>> 4) &&& 0xFFFF) ∧
    pack (decode w).major.toUInt32 (decode w).softwareId.toUInt32 (decode w).version.toUInt32
      (w &&& 0xF) = w ∧
    (decode v = decode w ↔ ∀ i < 32, 4 ≤ i → Word.hasBit v i = Word.hasBit w i) := by
  refine ⟨?_, ?_, ?_, pack_decode w, decode_eq_iff v w⟩
  · exact decode_pack (UInt32.lt_iff_toNat_lt.mp hmajor) (UInt32.lt_iff_toNat_lt.mp hid)
      (UInt32.lt_iff_toNat_lt.mp hversion) (UInt32.lt_iff_toNat_lt.mp hlow)
  · exact ⟨major_decode_lt w, softwareId_decode_lt w, (decode w).version.toNat_lt⟩
  · exact ⟨toUInt32_major_decode w, toUInt32_softwareId_decode w, toUInt32_version_decode w⟩

/-- Every field is as large as it can be, and so are the bits without meaning.  The highest of these
makes no difference, and the lowest bit of the version does. -/
theorem version_word_is_its_fields_when_all_are_full :
    (decode (pack 127 31 65535 15)).major.toUInt32 = 127 ∧
    (decode (pack 127 31 65535 15)).softwareId.toUInt32 = 31 ∧
    (decode (pack 127 31 65535 15)).version.toUInt32 = 65535 ∧
    decode 0xFFFFFFF7 = decode 0xFFFFFFFF ∧ decode 0xFFFFFFEF ≠ decode 0xFFFFFFFF := by
  have hfull := @version_word_is_its_fields 127 31 65535 15 (by decide) (by decide) (by decide)
    (by decide)
  obtain ⟨⟨hmajor, hid, hversion⟩, -⟩ := hfull 0 0
  refine ⟨hmajor, hid, hversion, ?_, ?_⟩
  · exact (hfull 0xFFFFFFF7 0xFFFFFFFF).2.2.2.2.mpr (by decide)
  · intro heq
    have hbits := (hfull 0xFFFFFFEF 0xFFFFFFFF).2.2.2.2.mp heq
    exact absurd (hbits 4 (by decide) (by decide)) (by decide)

end Firmware

/-! ## Ranges -/

/-- The firmware lies in both ranges, ends included. -/
structure FirmwareRange.Contains (range : FirmwareRange) (fw : Firmware) : Prop where
  versionMin_le : range.versionMin ≤ fw.version
  le_versionMax : fw.version ≤ range.versionMax
  majorMin_le : range.majorMin ≤ fw.major
  le_majorMax : fw.major ≤ range.majorMax

theorem FirmwareRange.supports_iff {range : FirmwareRange} {fw : Firmware} :
    range.supports fw = true ↔ range.Contains fw := by
  simp only [supports, Bool.and_eq_true, decide_eq_true_eq]
  constructor
  · rintro ⟨⟨⟨h₁, h₂⟩, h₃⟩, h₄⟩
    exact ⟨h₁, h₂, h₃, h₄⟩
  · rintro ⟨h₁, h₂, h₃, h₄⟩
    exact ⟨⟨⟨h₁, h₂⟩, h₃⟩, h₄⟩

/-- Some word has a firmware in both ranges exactly if each range is in order, and the least major
version has room in a word. -/
theorem FirmwareRange.exists_contains_decode_iff {range : FirmwareRange} :
    (∃ w, range.Contains (.decode w)) ↔
      range.versionMin ≤ range.versionMax ∧ range.majorMin ≤ range.majorMax ∧
        range.majorMin.toNat < 128 := by
  constructor
  · rintro ⟨w, h⟩
    have hroom := Nat.lt_of_le_of_lt (UInt8.le_iff_toNat_le.mp h.majorMin_le)
      (Firmware.major_decode_lt w)
    exact ⟨UInt16.le_trans h.versionMin_le h.le_versionMax,
      UInt8.le_trans h.majorMin_le h.le_majorMax, hroom⟩
  · rintro ⟨hversions, hmajors, hroom⟩
    have hid : (0 : UInt8).toNat < 32 := by decide
    obtain ⟨w, hw⟩ :=
      (Firmware.exists_decode_eq_iff ⟨0, range.versionMin, range.majorMin⟩).mpr ⟨hroom, hid⟩
    refine ⟨w, ?_⟩
    rw [hw]
    exact ⟨UInt16.le_refl _, hversions, UInt8.le_refl _, hmajors⟩

end RadioFrontEnd
