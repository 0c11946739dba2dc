import Mathlib
import RadioFrontEnd.Proofs.Fifo.Monitor
import RadioFrontEnd.Proofs.SingleNode
import RadioFrontEnd.Proofs.Word

/-!
# Resets on a file

All channels share one reset register, so a reset has to leave the bits of the others alone.  It
writes them back as it read them.  On a card whose node is a file this rests on the read, and a read
that does not find four bytes is no failure but a zero.

Where the file ends before the register, zero is what the file will have there once it is written.
Where it ends behind the register, the read finds the word.  In both cases the bit of the channel is
raised and no other bit of the file changes.  But where the file ends within the register, the bytes
that are there are read as zero too, and are lost: after the reset the file is as if it had ended
before the register.  `reset_raises_own_bit_of_file` says this for every file, and
`reset_clears_register_cut_short` is a file with one byte of the register.

The bits of a file are numbered through, the lowest bit of the first byte first.  A register stores
its lowest byte first, so its bits stand in a row too, from eight times its address on.
-/

namespace RadioFrontEnd

open RadioFrontEnd.Action

/-! ## The bits of a row of bytes -/

/-- A bit of a row of bytes, counted from the lowest bit of the first byte on.  Past the end no bit
is set. -/
def bitAt (bytes : List UInt8) (k : Nat) : Bool :=
  (bytes[k / 8]?.getD 0).toNat.testBit (k % 8)

theorem bitAt_of_le {bytes : List UInt8} {k : Nat} (h : 8 * bytes.length ≤ k) :
    bitAt bytes k = false := by
  rw [bitAt, List.getElem?_eq_none (by omega)]
  exact Nat.zero_testBit _

theorem bitAt_take (bytes : List UInt8) (n k : Nat) :
    bitAt (bytes.take n) k = (decide (k < 8 * n) && bitAt bytes k) := by
  rw [bitAt, bitAt, List.getElem?_take]
  by_cases hk : k < 8 * n
  · rw [if_pos (by omega), decide_eq_true hk, Bool.true_and]
  · rw [if_neg (by omega), decide_eq_false hk, Bool.false_and]
    exact Nat.zero_testBit _

theorem bitAt_drop (bytes : List UInt8) (n k : Nat) :
    bitAt (bytes.drop n) k = bitAt bytes (8 * n + k) := by
  have hbyte : n + k / 8 = (8 * n + k) / 8 := by omega
  have hbit : k % 8 = (8 * n + k) % 8 := by omega
  rw [bitAt, List.getElem?_drop, hbyte, hbit, bitAt]

/-- Bytes put over others bring their bits, and leave the bits before and behind them. -/
theorem bitAt_splice (bytes : List UInt8) (offset : Nat) {data : List UInt8} (h : data ≠ [])
    (k : Nat) :
    bitAt (Memory.splice bytes offset data) k =
      if 8 * offset ≤ k ∧ k < 8 * (offset + data.length) then bitAt data (k - 8 * offset)
      else bitAt bytes k := by
  rw [bitAt, Memory.getElem?_splice bytes offset h]
  by_cases hlow : k / 8 < offset
  · rw [if_pos hlow, if_neg (by omega), bitAt]
    cases bytes[k / 8]? <;> rfl
  · rw [if_neg hlow]
    by_cases hhigh : k / 8 < offset + data.length
    · have hbyte : k / 8 - offset = (k - 8 * offset) / 8 := by omega
      have hbit : k % 8 = (k - 8 * offset) % 8 := by omega
      rw [if_pos hhigh, if_pos (by omega), bitAt, hbyte, hbit]
    · rw [if_neg hhigh, if_neg (by omega), bitAt]

namespace Word

@[simp] theorem length_littleEndian (v : UInt32) : (littleEndian v).length = 4 := by
  rw [littleEndian, List.length_map, List.length_range]

theorem littleEndian_ne_nil (v : UInt32) : littleEndian v ≠ [] :=
  List.ne_nil_of_length_pos (by rw [length_littleEndian]; decide)

/-- The bytes of a word have the bits of the word in order. -/
theorem bitAt_littleEndian (v : UInt32) {k : Nat} (hk : k < 32) :
    bitAt (littleEndian v) k = hasBit v k := by
  have hbyte : (littleEndian v)[k / 8]? = some (.ofNat (v.toNat / 256 ^ (k / 8))) := by
    rw [littleEndian, List.getElem?_map, List.getElem?_range (by omega)]
    rfl
  have hpow : 256 ^ (k / 8) = 2 ^ (8 * (k / 8)) := by
    rw [pow_mul]
    norm_num
  have hsum : k % 8 + 8 * (k / 8) = k := Nat.mod_add_div k 8
  rw [bitAt, hbyte, Option.getD_some, UInt8.toNat_ofNat', hpow, Nat.testBit_mod_two_pow,
    Nat.testBit_div_two_pow, hsum, decide_eq_true (Nat.mod_lt k (by decide)), Bool.true_and]
  rfl

/-- Four bytes are the bytes of the word that they are. -/
theorem littleEndian_ofLittleEndian {bytes : List UInt8} (h : bytes.length = 4) :
    littleEndian (ofLittleEndian bytes) = bytes := by
  obtain ⟨b₀, b₁, b₂, b₃, rfl⟩ : ∃ b₀ b₁ b₂ b₃, bytes = [b₀, b₁, b₂, b₃] := by
    match bytes, h with
    | [b₀, b₁, b₂, b₃], _ => exact ⟨b₀, b₁, b₂, b₃, rfl⟩
  have h₀ := b₀.toNat_lt
  have h₁ := b₁.toNat_lt
  have h₂ := b₂.toNat_lt
  have h₃ := b₃.toNat_lt
  have hnat : (ofLittleEndian [b₀, b₁, b₂, b₃]).toNat =
      b₀.toNat + 256 * b₁.toNat + 65536 * b₂.toNat + 16777216 * b₃.toNat := by
    rw [ofLittleEndian, ← natOfBytes_eq_ofDigits, UInt32.toNat_ofNat', natOfBytes]
    omega
  have hbyte {n : Nat} {b : UInt8} (hn : n % 256 = b.toNat) : UInt8.ofNat n = b := by
    apply UInt8.toNat_inj.mp
    rw [UInt8.toNat_ofNat', ← hn]
  simp only [littleEndian, hnat, List.range, List.range.loop, List.map_cons, List.map_nil]
  rw [hbyte (b := b₀) (by omega), hbyte (b := b₁) (by omega), hbyte (b := b₂) (by omega),
    hbyte (b := b₃) (by omega)]

end Word

/-! ## One reset of a row of bytes -/

/-- The bytes after a reset: the register is read once, and written with the mask low and then with
the mask high. -/
def afterReset (bytes : List UInt8) (start : Nat) (mask : UInt32) : List UInt8 :=
  let cleared := Word.fromBytes bytes start &&& ~~~mask
  Memory.splice (Memory.splice bytes start (Word.littleEndian cleared)) start
    (Word.littleEndian (cleared ||| mask))

theorem length_afterReset (bytes : List UInt8) (start : Nat) (mask : UInt32) :
    (afterReset bytes start mask).length = max bytes.length (start + 4) := by
  rw [afterReset, Memory.length_splice _ _ (Word.littleEndian_ne_nil _),
    Memory.length_splice _ _ (Word.littleEndian_ne_nil _), Word.length_littleEndian,
    Word.length_littleEndian, max_assoc, max_self]

/-- Within the register stands what was read, with the mask raised; the other bits stay. -/
theorem bitAt_afterReset (bytes : List UInt8) (start : Nat) (mask : UInt32) (k : Nat) :
    bitAt (afterReset bytes start mask) k =
      if 8 * start ≤ k ∧ k < 8 * (start + 4) then
        Word.hasBit (Word.fromBytes bytes start ||| mask) (k - 8 * start)
      else bitAt bytes k := by
  rw [afterReset, bitAt_splice _ _ (Word.littleEndian_ne_nil _), Word.length_littleEndian]
  by_cases hk : 8 * start ≤ k ∧ k < 8 * (start + 4)
  · rw [if_pos hk, if_pos hk, Word.bitAt_littleEndian _ (by omega), Word.clear_or]
  · rw [if_neg hk, if_neg hk, bitAt_splice _ _ (Word.littleEndian_ne_nil _),
      Word.length_littleEndian, if_neg hk]

/-! ## Which bits survive -/

/-- One bit is set and every other bit is as it was. -/
structure RaisesOnly (own : Nat) (before after : List UInt8) : Prop where
  /-- The bit is set. -/
  own_set : bitAt after own = true
  /-- No other bit changed. -/
  others_eq : ∀ k, k ≠ own → bitAt after k = bitAt before k

/-- What a reset of the register at `start` writes back: a row of bytes that agrees with the file
outside the register, and with what was read within it. -/
structure WritesBack (bytes : List UInt8) (start : Nat) (kept : List UInt8) : Prop where
  /-- The register was read as it is kept. -/
  word_eq : ∀ j, j < 32 → Word.hasBit (Word.fromBytes bytes start) j = bitAt kept (8 * start + j)
  /-- The rest is kept. -/
  outside_eq : ∀ k, ¬(8 * start ≤ k ∧ k < 8 * (start + 4)) → bitAt bytes k = bitAt kept k

theorem WritesBack.raisesOnly {bytes kept : List UInt8} {start : Nat}
    (h : WritesBack bytes start kept) {bit : UInt32} (hbit : bit < 32) :
    RaisesOnly (8 * start + bit.toNat) kept (afterReset bytes start (1 <<< bit)) where
  own_set := by
    have hlt : bit.toNat < 32 := UInt32.lt_iff_toNat_lt.mp hbit
    rw [bitAt_afterReset, if_pos (by omega), Nat.add_sub_cancel_left, Word.hasBit_or,
      Word.hasBit_one_shiftLeft hbit, decide_eq_true rfl, Bool.or_true]
  others_eq k hk := by
    rw [bitAt_afterReset]
    by_cases hin : 8 * start ≤ k ∧ k < 8 * (start + 4)
    · have hsplit : 8 * start + (k - 8 * start) = k := by omega
      have hother : bit.toNat ≠ k - 8 * start := by omega
      rw [if_pos hin, Word.hasBit_or, Word.hasBit_one_shiftLeft hbit, decide_eq_false hother,
        Bool.or_false, h.word_eq _ (by omega), hsplit]
    · rw [if_neg hin, h.outside_eq k hin]

/-- A register that is all there is read as it stands. -/
theorem writesBack_of_whole {bytes : List UInt8} {start : Nat} (h : start + 4 ≤ bytes.length) :
    WritesBack bytes start bytes where
  word_eq j hj := by
    have hfour : ((bytes.drop start).take 4).length = 4 := by
      rw [List.length_take, List.length_drop]
      omega
    rw [Word.fromBytes, if_pos h, ← Word.bitAt_littleEndian _ hj, Word.littleEndian_ofLittleEndian hfour,
      bitAt_take, bitAt_drop, decide_eq_true (by omega), Bool.true_and]
  outside_eq _ _ := rfl

/-- A register that is not all there is read as zero, as if the file ended where it starts. -/
theorem writesBack_of_short {bytes : List UInt8} {start : Nat} (h : bytes.length < start + 4) :
    WritesBack bytes start (bytes.take start) where
  word_eq j _ := by
    rw [Word.fromBytes, if_neg (Nat.not_le_of_lt h), Word.hasBit_zero, bitAt_take,
      decide_eq_false (by omega), Bool.false_and]
  outside_eq k hk := by
    rw [bitAt_take]
    by_cases hlow : k < 8 * start
    · rw [decide_eq_true hlow, Bool.true_and]
    · rw [decide_eq_false hlow, Bool.false_and]
      exact bitAt_of_le (by omega)

/-! ## The reset of a channel -/

namespace Attached.OnOneNode

variable {a : Attached Files} {node : Node} {bytes : List UInt8}

theorem exists_yields_readRegister (h : a.OnOneNode node bytes) (address : UInt32) :
    ∃ b, (FrontEnd.readRegister address).Yields a (Word.fromBytes bytes address.toNat) b ∧
      b.OnOneNode node bytes := by
  obtain ⟨b, hrun, hb⟩ := h.exists_yields_perform (.readRegister address)
  obtain ⟨v, hread, hv⟩ := exists_of_yields_map hrun
  have hword : v = Word.fromBytes bytes address.toNat := Reply.word.inj hv
  rw [← hword]
  exact ⟨b, hread, hb⟩

theorem exists_yields_writeRegister (h : a.OnOneNode node bytes) (address v : UInt32) :
    ∃ b, (FrontEnd.writeRegister address v).Yields a () b ∧
      b.OnOneNode node (Memory.splice bytes address.toNat (Word.littleEndian v)) := by
  obtain ⟨b, hrun, hb⟩ := h.exists_yields_perform (.writeRegister address v)
  obtain ⟨_, hwrite, -⟩ := exists_of_yields_map hrun
  exact ⟨b, hwrite, hb⟩

/-- On one node a reset makes of the bytes of the file what `afterReset` does. -/
theorem exists_yields_resetChannel (h : a.OnOneNode node bytes) {m : Fifo.Monitor}
    (hmasks : m.map.HasMasks) (c : Channel) :
    ∃ b, (m.resetChannel c).Yields a () b ∧
      b.OnOneNode node (afterReset bytes m.map.reset.toNat (m.map.maskOf c)) := by
  obtain ⟨b, hread, hb⟩ := h.exists_yields_readRegister m.map.reset
  obtain ⟨b', hlow, hb'⟩ := hb.exists_yields_writeRegister m.map.reset
    (Word.fromBytes bytes m.map.reset.toNat &&& ~~~m.map.maskOf c)
  obtain ⟨b'', hhigh, hb''⟩ := hb'.exists_yields_writeRegister m.map.reset
    (Word.fromBytes bytes m.map.reset.toNat &&& ~~~m.map.maskOf c ||| m.map.maskOf c)
  exact ⟨b'', Fifo.Monitor.yields_resetChannel (hmasks.resetMask_eq c) hread hlow hhigh, hb''⟩

end Attached.OnOneNode

/-- A host with a card whose node is a file of one byte, with every bit of it set. -/
def Files.withOneByte : Files :=
  (Files.fresh "work").set ["work", "card"] { kind := .regular (.ofBytes ⟨#[0xFF]⟩) }

namespace Fifo

/-- **A reset raises its own bit, and changes no other bit of a file that has the whole register or
nothing of it.**  The file grows at most up to the end of the register, with zeros.  If it ends
before the register does, then what it had of the register is lost, and the other bits are those of
the file as far as the register. -/
theorem reset_raises_own_bit_of_file {fs : Files} {path : String} {place : Place}
    {bytes : List UInt8} (hopen : fs.openNode path = .ok place) (hfile : fs.Consists place bytes)
    {m : Monitor} (hmasks : m.map.HasMasks) (c : Channel) :
    ∃ (transport : Transport) (b : Attached Files) (after : List UInt8),
      (Transport.openNodes (.single path)).Yields fs (.ok transport) fs ∧
      (m.resetChannel c).Yields ⟨transport, fs⟩ () b ∧
      b.system.Consists place after ∧
      after.length = max bytes.length (m.map.reset.toNat + 4) ∧
      (bytes.length ≤ m.map.reset.toNat ∨ m.map.reset.toNat + 4 ≤ bytes.length →
        RaisesOnly (8 * m.map.reset.toNat + (m.map.resetBit c).toNat) bytes after) ∧
      (bytes.length < m.map.reset.toNat + 4 →
        RaisesOnly (8 * m.map.reset.toNat + (m.map.resetBit c).toNat)
          (bytes.take m.map.reset.toNat) after) := by
  have hstart : (Attached.mk ⟨some ⟨path, place⟩, none, none⟩ fs).OnOneNode ⟨path, place⟩ bytes :=
    ⟨rfl, hfile⟩
  obtain ⟨b, hrun, hb⟩ := hstart.exists_yields_resetChannel hmasks c
  refine ⟨_, b, _, Transport.yields_openNodes_single hopen, hrun, hb.consists,
    length_afterReset _ _ _, ?_, ?_⟩
  · rintro (hbefore | hwhole)
    · have hshort : bytes.length < m.map.reset.toNat + 4 := by omega
      have hkept := (writesBack_of_short hshort).raisesOnly (hmasks c)
      rwa [List.take_of_length_le hbefore] at hkept
    · exact (writesBack_of_whole hwhole).raisesOnly (hmasks c)
  · intro hshort
    exact (writesBack_of_short hshort).raisesOnly (hmasks c)

/-- The register is the last four of six bytes, and only bit 2 of it changes. -/
theorem reset_raises_own_bit_of_file_with_six_bytes :
    let m : Monitor := ⟨{ reset := 2 }, .legacy⟩
    Files.withSixBytes.openNode "/card" = .ok ["card"] ∧
    Files.withSixBytes.Consists ["card"] [1, 2, 3, 4, 5, 6] ∧ m.map.HasMasks ∧
    ∃ (transport : Transport) (b : Attached Files) (after : List UInt8),
      (Transport.openNodes (.single "/card")).Yields .withSixBytes (.ok transport)
        .withSixBytes ∧
      (m.resetChannel .tx).Yields ⟨transport, .withSixBytes⟩ () b ∧
      b.system.Consists ["card"] after ∧ after.length = 6 ∧
      RaisesOnly 18 [1, 2, 3, 4, 5, 6] after := by
  intro m
  have hmasks : m.map.HasMasks := by decide
  obtain ⟨transport, b, after, hcard, hrun, hafter, hlength, hwhole, -⟩ :=
    reset_raises_own_bit_of_file Files.openNode_withSixBytes Files.consists_withSixBytes hmasks .tx
  exact ⟨Files.openNode_withSixBytes, Files.consists_withSixBytes, hmasks, transport, b, after,
    hcard, hrun, hafter, hlength, hwhole (Or.inr (by decide))⟩

/-- The file ends behind the first byte of the register.  The bits of all channels are in this byte,
and a reset of one of them clears the bits of the others. -/
theorem reset_clears_register_cut_short :
    let m : Monitor := ⟨{ reset := 0 }, .legacy⟩
    Files.withOneByte.openNode "card" = .ok ["work", "card"] ∧
    Files.withOneByte.Consists ["work", "card"] [0xFF] ∧
    m.map.HasMasks ∧ Function.Injective m.map.resetBit ∧
    ∃ (transport : Transport) (b : Attached Files),
      (Transport.openNodes (.single "card")).Yields .withOneByte (.ok transport) .withOneByte ∧
      (m.resetChannel .rx).Yields ⟨transport, .withOneByte⟩ () b ∧
      b.system.Consists ["work", "card"] [0x08, 0, 0, 0] ∧
      ∀ c, c ≠ .rx →
        bitAt [0xFF] (m.map.resetBit c).toNat = true ∧
        bitAt [0x08, 0, 0, 0] (m.map.resetBit c).toNat = false := by
  intro m
  have hopen : Files.withOneByte.openNode "card" = .ok ["work", "card"] := by cbv
  have hfile : Files.withOneByte.Consists ["work", "card"] [0xFF] := Files.consists_of_get?_eq rfl
  have hmasks : m.map.HasMasks := by decide
  have hdistinct : Function.Injective m.map.resetBit := fun c d => by
    cases c <;> cases d <;> decide
  have hstart : (Attached.mk ⟨some ⟨"card", ["work", "card"]⟩, none, none⟩
      Files.withOneByte).OnOneNode ⟨"card", ["work", "card"]⟩ [0xFF] := ⟨rfl, hfile⟩
  obtain ⟨b, hrun, hb⟩ := hstart.exists_yields_resetChannel hmasks .rx
  have hafter : afterReset [0xFF] m.map.reset.toNat (m.map.maskOf .rx) = [0x08, 0, 0, 0] := by
    decide
  rw [hafter] at hb
  exact ⟨hopen, hfile, hmasks, hdistinct, _, b, Transport.yields_openNodes_single hopen, hrun,
    hb.consists, by decide⟩

end Fifo
end RadioFrontEnd
