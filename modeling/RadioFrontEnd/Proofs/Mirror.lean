import RadioFrontEnd.Proofs.Simulator
import RadioFrontEnd.Proofs.Transport

/-!
# A simulated device in two files

A simulated device keeps its registers in a table and its window in a memory of fixed size.  A card
whose nodes are regular files keeps the registers as words of one file, which starts empty and grows
with the registers written, and the window as the bytes of another.  `Mirrors` says that the two
devices hold the same.

## 1.  The register file

The file is shorter than the registers that it stands for: a register past its end is one that was
never written, and reads as zero on both sides.  This needs more than equal words.  A read that finds
*some* of its four bytes would be zero on the card whatever the simulated register holds, so a file
may not end inside a word.  `Memory.HoldsRegisters` keeps the length a multiple of four, which every
write on a word boundary preserves (`HoldsRegisters.store`).

## 2.  Two devices

`Mirrors` is kept when a register or the window is written on both sides, since neither file is the
other (`Mirrors.of_store`, `Mirrors.of_window`).

## 3.  One access

Each access is matched: both devices give the same answer, and mirror each other afterwards.  Reads
of status registers are left out, as only the simulated device clears flags.  A bulk read that fails
may have brought bytes on the card and none on the simulated device, so bulk reads are compared by
what was `received`.
-/

namespace RadioFrontEnd

open RadioFrontEnd.Action

/-! ## 1.  The register file -/

/-- The words of a file are the registers of a simulated device. -/
structure Memory.HoldsRegisters (content : Memory) (s : Simulator) : Prop where
  /-- The file ends on a word boundary. -/
  size_mod : content.size % 4 = 0
  /-- There are only zeros past the end. -/
  trimmed : content.Trimmed
  /-- Every word is the content of its register. -/
  wordAt_eq : ∀ address : UInt32, address.toNat % 4 = 0 →
    content.wordAt address.toNat = s.peek address

namespace Memory.HoldsRegisters

variable {content : Memory} {s t : Simulator} {address : UInt32}

/-- Only the registers of the device matter. -/
theorem of_peek_eq (h : content.HoldsRegisters s) (hpeek : ∀ a, t.peek a = s.peek a) :
    content.HoldsRegisters t :=
  ⟨h.size_mod, h.trimmed, fun a ha => (h.wordAt_eq a ha).trans (hpeek a).symm⟩

/-- A register that is read with four bytes, or as zero where there are none, is the register. -/
theorem read_eq (h : content.HoldsRegisters s) (haligned : address.toNat % 4 = 0) :
    (if address.toNat + 4 ≤ content.size then content.wordAt address.toNat else 0)
      = s.peek address := by
  rw [← h.wordAt_eq address haligned]
  split
  · rfl
  · -- the register starts on a word boundary, so if it is not all there then nothing of it is
    have hend : content.size ≤ address.toNat := by
      have hsize := h.size_mod
      omega
    exact (h.trimmed.wordAt_eq_zero hend).symm

/-- **A register write on a word boundary keeps the file and the device together.** -/
theorem store (h : content.HoldsRegisters s) (haligned : address.toNat % 4 = 0) (v : UInt32) :
    (content.write address.toNat (Word.toBytes v)).HoldsRegisters (s.store address v) := by
  have hbytes : (Word.toBytes v).size = 4 := rfl
  refine ⟨?_, h.trimmed.write _ _, fun b hb => ?_⟩
  · have hsize := h.size_mod
    rw [size_write, hbytes, if_neg (by decide)]
    omega
  · by_cases hab : address = b
    · rw [← hab, wordAt_write_self, Simulator.peek_store_self]
    · -- two word boundaries that differ are at least a word apart
      have hne : address.toNat ≠ b.toNat := fun heq => hab (UInt32.toNat_inj.mp heq)
      have hapart : b.toNat + 4 ≤ address.toNat ∨
          address.toNat + (Word.toBytes v).size ≤ b.toNat := by
        rw [hbytes]
        omega
      rw [wordAt_write_of_disjoint content hapart, h.wordAt_eq b hb,
        Simulator.peek_store_of_ne s hab]

/-- An empty file holds the registers of a fresh device. -/
theorem fresh (h : content.Same (.zeros 0)) (map : RegisterMap) :
    content.HoldsRegisters (.fresh map) := by
  have htrimmed : content.Trimmed := h.trimmed (trimmed_zeros 0)
  have hsize : content.size = 0 := h.size_eq
  refine ⟨by rw [hsize], htrimmed, fun a _ => ?_⟩
  rw [Simulator.peek_fresh]
  exact htrimmed.wordAt_eq_zero (hsize ▸ Nat.zero_le _)

end Memory.HoldsRegisters

/-! ## 2.  Two devices that hold the same -/

/-- The register node is one file, and the bulk nodes are another. -/
structure Transport.OnFiles (t : Transport) (registers window : Place) : Prop where
  /-- The register node is open. -/
  user : ∃ node, t.user = some node ∧ node.file = registers
  /-- The node to the card is open. -/
  toCard : ∃ node, t.toCard = some node ∧ node.file = window
  /-- The node to the host is open. -/
  toHost : ∃ node, t.toHost = some node ∧ node.file = window

/-- A simulated device and a card on two files hold the same: both open or both closed, the same
registers and the same window. -/
structure Mirrors (map : RegisterMap) (registerFile windowFile : Place) (s : Simulator)
    (a : Attached Files) : Prop where
  /-- The simulated device has the register map. -/
  map_eq : s.map = map
  /-- The files are two. -/
  ne : windowFile ≠ registerFile
  /-- On an open device the nodes are the files. -/
  opened : s.isOpen = true → a.transport.OnFiles registerFile windowFile
  /-- On a closed device no node is open. -/
  closed : s.isOpen = false → a.transport = .closed
  /-- The register file holds the registers. -/
  registers : ∃ content, a.system.Regular registerFile content ∧ content.HoldsRegisters s
  /-- The window file is the window. -/
  window : ∃ content, a.system.Regular windowFile content ∧ content.Same s.window
  /-- The window has its size. -/
  size_window : s.window.size = Simulator.windowSize

/-- The bytes of a bulk read, or why it failed. -/
def BlockRead.received (r : BlockRead) : Except FrontEndError ByteArray :=
  r.outcome.map fun _ => r.arrived

namespace Mirrors

variable {map : RegisterMap} {registerFile windowFile : Place} {s : Simulator}
  {a : Attached Files}

/-- The register file was rewritten, and so were the registers. -/
theorem of_store (h : Mirrors map registerFile windowFile s a) {address v : UInt32}
    {content : Memory} {fs' : Files}
    (hfs' : Files.Rewritten a.system fs' registerFile content)
    (hholds : content.HoldsRegisters (s.store address v)) :
    Mirrors map registerFile windowFile (s.store address v) { a with system := fs' } := by
  obtain ⟨window, hwindow, hsame⟩ := h.window
  exact ⟨h.map_eq, h.ne, h.opened, h.closed, ⟨content, hfs'.regular, hholds⟩,
    ⟨window, hfs'.regular_of_ne h.ne hwindow, hsame⟩, h.size_window⟩

/-- The window file was rewritten, and so was the window. -/
theorem of_window (h : Mirrors map registerFile windowFile s a) {content window : Memory}
    {fs' : Files} (hfs' : Files.Rewritten a.system fs' windowFile content)
    (hsame : content.Same window) (hsize : window.size = Simulator.windowSize) :
    Mirrors map registerFile windowFile { s with window } { a with system := fs' } := by
  obtain ⟨registers, hregisters, hholds⟩ := h.registers
  exact ⟨h.map_eq, h.ne, h.opened, h.closed,
    ⟨registers, hfs'.regular_of_ne h.ne.symm hregisters, hholds.of_peek_eq fun _ => rfl⟩,
    ⟨content, hfs'.regular, hsame⟩, hsize⟩

/-! ## 3.  One access -/

theorem matched_readRegister (hstatus : map.HasStatus) {address : UInt32}
    (haligned : address.toNat % 4 = 0) (hplain : ∀ c, map.statusAt c ≠ address) :
    Matched (Mirrors map registerFile windowFile)
      (FrontEnd.readRegister address) (FrontEnd.readRegister address) := by
  intro s a h
  cases hopen : s.isOpen with
  | true =>
    obtain ⟨node, hnode, rfl⟩ := (h.opened hopen).user
    obtain ⟨content, hcontent, hholds⟩ := h.registers
    have hread := Attached.yields_readRegister hnode hcontent address
    rw [hholds.read_eq haligned] at hread
    have hisStatus : s.map.isStatus address = .ok false := by
      rw [h.map_eq]
      exact hstatus.isStatus_of_ne hplain
    exact ⟨_, s, a, Simulator.yields_readRegister_of_plain hopen hisStatus, hread, h⟩
  | false =>
    have huser : a.transport.user = none := by rw [h.closed hopen]; rfl
    exact ⟨0, s, a, Simulator.yields_readRegister_of_closed hopen address,
      Attached.yields_readRegister_of_closed huser address, h⟩

theorem matched_writeRegister {address : UInt32} (haligned : address.toNat % 4 = 0) (v : UInt32) :
    Matched (Mirrors map registerFile windowFile)
      (FrontEnd.writeRegister address v) (FrontEnd.writeRegister address v) := by
  intro s a h
  cases hopen : s.isOpen with
  | true =>
    obtain ⟨node, hnode, rfl⟩ := (h.opened hopen).user
    obtain ⟨content, hcontent, hholds⟩ := h.registers
    obtain ⟨fs', hwrite, hfs'⟩ := Attached.exists_yields_writeRegister hnode hcontent address v
    exact ⟨(), s.store address v, { a with system := fs' },
      Simulator.yields_writeRegister hopen address v, hwrite,
      h.of_store hfs' (hholds.store haligned v)⟩
  | false =>
    have huser : a.transport.user = none := by rw [h.closed hopen]; rfl
    exact ⟨(), s, a, Simulator.yields_writeRegister_of_closed hopen address v,
      Attached.yields_writeRegister_of_closed huser address v, h⟩

theorem matched_writeBlock {data : ByteArray} {offset : UInt32}
    (hfits : offset.toNat + data.size ≤ Simulator.windowSize) :
    Matched (Mirrors map registerFile windowFile)
      (FrontEnd.writeBlock data offset) (FrontEnd.writeBlock data offset) := by
  intro s a h
  cases hopen : s.isOpen with
  | true =>
    obtain ⟨node, hnode, rfl⟩ := (h.opened hopen).toCard
    obtain ⟨content, hcontent, hsame⟩ := h.window
    have hbulk : a.transport.bulkNode? .toCard = some node := by
      rw [Transport.bulkNode?, hnode, Option.some_or]
    obtain ⟨fs', hwrite, hfs'⟩ := Attached.exists_yields_writeBlock hbulk hcontent data offset
    have hsize : (s.window.write offset.toNat data).size = Simulator.windowSize := by
      rw [Memory.size_write, h.size_window]
      split
      · rfl
      · exact Nat.max_eq_left hfits
    exact ⟨.ok (), { s with window := s.window.write offset.toNat data }, { a with system := fs' },
      Simulator.yields_writeBlock_of_ok (Simulator.checkSpan_of_le hopen .toCard hfits), hwrite,
      h.of_window hfs' (hsame.write offset.toNat data) hsize⟩
  | false =>
    have hbulk : a.transport.bulkNode? .toCard = none := by rw [h.closed hopen]; rfl
    exact ⟨.error .notOpen, s, a,
      Simulator.yields_writeBlock_of_error
        (Simulator.checkSpan_of_closed hopen .toCard data.size offset),
      Attached.yields_writeBlock_of_closed hbulk data offset, h⟩

/-- An empty read is left out: past the window the simulated device finds it short, and a file finds
it complete. -/
theorem matched_readBlock {length : Nat} (hlength : 1 ≤ length) (offset : UInt32) :
    Matched (Mirrors map registerFile windowFile)
      (BlockRead.received <$> FrontEnd.readBlock length offset)
      (BlockRead.received <$> FrontEnd.readBlock length offset) := by
  intro s a h
  cases hopen : s.isOpen with
  | true =>
    obtain ⟨node, hnode, rfl⟩ := (h.opened hopen).toHost
    obtain ⟨content, hcontent, hsame⟩ := h.window
    have hbulk : a.transport.bulkNode? .toHost = some node := by
      rw [Transport.bulkNode?, hnode, Option.some_or]
    have hread := Attached.yields_readBlock hbulk hcontent length offset
    rw [hsame.read_eq, hsame.readable_eq, Memory.readable, h.size_window] at hread
    rcases Nat.lt_or_ge Simulator.windowSize (offset.toNat + length) with hlong | hfits
    · have hsome : min length (Simulator.windowSize - offset.toNat) =
          Simulator.windowSize - offset.toNat := by omega
      rw [hsome, if_neg (by omega)] at hread
      exact ⟨_, s, a,
        (Simulator.yields_readBlock_of_error
          (Simulator.checkSpan_of_lt hopen .toHost hlong)).map BlockRead.received,
        hread.map BlockRead.received, h⟩
    · have hall : min length (Simulator.windowSize - offset.toNat) = length := by omega
      rw [hall, if_pos rfl] at hread
      exact ⟨_, s, a,
        (Simulator.yields_readBlock_of_ok
          (Simulator.checkSpan_of_le hopen .toHost hfits)).map BlockRead.received,
        hread.map BlockRead.received, h⟩
  | false =>
    have hbulk : a.transport.bulkNode? .toHost = none := by rw [h.closed hopen]; rfl
    exact ⟨.error .notOpen, s, a,
      (Simulator.yields_readBlock_of_error
        (Simulator.checkSpan_of_closed hopen .toHost length offset)).map BlockRead.received,
      (Attached.yields_readBlock_of_closed hbulk length offset).map BlockRead.received, h⟩

theorem matched_close :
    Matched (Mirrors map registerFile windowFile) (.modify Simulator.close) Attached.close := by
  intro s a h
  obtain ⟨registers, hregisters, hholds⟩ := h.registers
  refine ⟨(), s.close, { a with transport := .closed }, yields_modify rfl,
    Attached.yields_close a, ?_⟩
  exact
    { map_eq := h.map_eq
      ne := h.ne
      opened := fun hopen => absurd hopen Bool.false_ne_true
      closed := fun _ => rfl
      registers := ⟨registers, hregisters, hholds.of_peek_eq fun _ => rfl⟩
      window := h.window
      size_window := h.size_window }

end Mirrors
end RadioFrontEnd
