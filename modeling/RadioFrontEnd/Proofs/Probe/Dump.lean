import RadioFrontEnd.Probe.Run
import RadioFrontEnd.Proofs.Host
import RadioFrontEnd.Proofs.Probe.Word

/-!
# Dumps lose nothing

A dump shows the bytes of a block sixteen to a line.  `IsDump` says what its lines are: how many, with
which address and which bytes each of them.  And nothing is lost on the way to the terminal, since
`bytesOfLines?` reads the bytes back from the lines, all of them and in order.

Addresses are natural numbers here.  A dump from the end of the 32-bit range on counts past it, and an
address then has nine digits.

What is dumped is what the device holds: a dump reads a block into a fresh buffer and prints after
that, so it prints the bytes of `Host.Holds` or nothing at all.
-/

namespace RadioFrontEnd

open RadioFrontEnd.Action

namespace Probe

/-! ## Pieces of a list -/

section Pieces

variable {α : Type} {size : Nat}

theorem flatten_pieces (size : Nat) (xs : List α) : (pieces size xs).flatten = xs := by
  fun_induction pieces size xs with
  | case1 => rfl
  | case2 x xs ih =>
    rw [List.flatten_cons, ih, List.cons_append, List.take_append_drop]

theorem ne_nil_of_mem_pieces {xs piece : List α} (h : piece ∈ pieces size xs) : piece ≠ [] := by
  fun_induction pieces size xs with
  | case1 => cases h
  | case2 x xs ih =>
    rcases List.mem_cons.mp h with rfl | h
    · exact List.cons_ne_nil _ _
    · exact ih h

variable (hsize : 0 < size)

include hsize

/-- A piece is what stands from its offset on, as far as the size goes. -/
theorem getElem?_pieces (xs : List α) (k : Nat) :
    (pieces size xs)[k]? =
      if size * k < xs.length then some ((xs.drop (size * k)).take size) else none := by
  fun_induction pieces size xs generalizing k with
  | case1 => rfl
  | case2 x xs ih =>
    cases k with
    | zero =>
      have hfirst : (x :: xs).take size = x :: xs.take (size - 1) := by
        rw [← List.take_succ_cons, Nat.sub_add_cancel hsize]
      simp [hfirst]
    | succ k =>
      have hoffset : size * (k + 1) = size - 1 + size * k + 1 := by
        rw [Nat.mul_succ]
        omega
      have hrest : (x :: xs).drop (size * (k + 1)) = (xs.drop (size - 1)).drop (size * k) := by
        rw [hoffset, List.drop_succ_cons, List.drop_drop]
      have hlength : size * (k + 1) < (x :: xs).length ↔
          size * k < (xs.drop (size - 1)).length := by
        rw [hoffset, List.length_cons, List.length_drop]
        omega
      rw [List.getElem?_cons_succ, ih, hrest]
      simp only [hlength]

/-- The last piece may be shorter, so the number of pieces is rounded up. -/
theorem length_pieces (xs : List α) :
    (pieces size xs).length = (xs.length + (size - 1)) / size := by
  fun_induction pieces size xs with
  | case1 =>
    show 0 = (0 + (size - 1)) / size
    rw [Nat.zero_add, Nat.div_eq_of_lt (Nat.sub_lt hsize Nat.one_pos)]
  | case2 x xs ih =>
    rw [List.length_cons, ih, List.length_cons, List.length_drop]
    have hsum : xs.length + 1 + (size - 1) = xs.length + size := by omega
    rw [hsum, Nat.add_div_right _ hsize]
    by_cases hlong : size - 1 ≤ xs.length
    · rw [Nat.sub_add_cancel hlong]
    · have hnone : xs.length - (size - 1) = 0 := by omega
      rw [hnone, Nat.zero_add, Nat.div_eq_of_lt (by omega), Nat.div_eq_of_lt (by omega)]

end Pieces

/-! ## Lines -/

/-- The signs of the hexadecimal digits, without the capital ones. -/
def smallSigns : List Char := "0123456789abcdef".toList

/-- A number as it is shown: small hexadecimal digits, as many as it takes but not fewer than a
width. -/
structure Shows (width n : Nat) (cs : List Char) : Prop where
  /-- The digits stand for the number. -/
  denotes : Denotes 16 cs n
  /-- They are small ones. -/
  mem_smallSigns : ∀ c ∈ cs, c ∈ smallSigns
  /-- They fill the width. -/
  width_le : width ≤ cs.length
  /-- Past the width there is no zero in front. -/
  head?_ne : width < cs.length → cs.head? ≠ some '0'

/-- Two digits for a byte. -/
structure IsPair (b : UInt8) (cs : List Char) : Prop where
  shows_toNat : Shows 2 b.toNat cs
  length_eq : cs.length = 2

/-- A line of a dump: the address, a blank, and the bytes behind a blank each. -/
def IsRow (address : Nat) (bytes : List UInt8) (line : String) : Prop :=
  ∃ digits pairs, line.toList = digits ++ ' ' :: pairs.flatMap (' ' :: ·) ∧
    Shows 8 address digits ∧ List.Forall₂ IsPair bytes pairs

theorem shows_zeroPad {width : Nat} (hwidth : 0 < width) (n : Nat) :
    Shows width n (Numeral.zeroPad width (Numeral.hexDigits n)) where
  denotes := (denotes_toDigits (by decide) (by decide) n).zeroPad (by decide) width
  mem_smallSigns := by
    intro c hc
    rcases List.mem_append.mp hc with hc | hc
    · rw [List.eq_of_mem_replicate hc]
      decide
    · exact Yaml.forall_mem_toDigits (by decide) (by decide) n c hc
  width_le := by
    rw [Numeral.zeroPad, List.length_append, List.length_replicate]
    omega
  head?_ne := by
    intro hlong
    have hdigits : width < (Numeral.hexDigits n).length := by
      by_contra hnot
      rw [length_zeroPad (Nat.le_of_not_lt hnot)] at hlong
      exact Nat.lt_irrefl width hlong
    have hne : n ≠ 0 := by
      rintro rfl
      exact absurd hdigits (Nat.not_lt_of_le hwidth)
    rw [Numeral.zeroPad, Nat.sub_eq_zero_of_le (Nat.le_of_lt hdigits)]
    exact Yaml.head?_toDigits_ne (by decide) (by decide) hne

theorem isPair_zeroPad (b : UInt8) :
    IsPair b (Numeral.zeroPad 2 (Numeral.hexDigits b.toNat)) where
  shows_toNat := shows_zeroPad (by decide) b.toNat
  length_eq :=
    length_zeroPad ((Nat.length_toDigits_le_iff (by decide) (by decide)).mpr b.toNat_lt)

/-- Blanks between parts come to a blank in front of each part, if there is one more in front. -/
theorem cons_intercalate {parts : List (List Char)} (h : parts ≠ []) (c : Char) :
    c :: [c].intercalate parts = parts.flatMap (c :: ·) := by
  induction parts with
  | nil => exact absurd rfl h
  | cons part parts ih =>
    cases parts with
    | nil => simp
    | cons next parts =>
      rw [List.intercalate_cons_cons, List.flatMap_cons, ← ih (List.cons_ne_nil _ _)]
      simp

theorem isRow_dumpRow (address : Nat) {bytes : List UInt8} (h : bytes ≠ []) :
    IsRow address bytes (dumpRow address bytes) := by
  have hpairs : bytes.map (fun b => Numeral.zeroPad 2 (Numeral.hexDigits b.toNat)) ≠ [] := by
    simpa using h
  refine ⟨Numeral.zeroPad 8 (Numeral.hexDigits address),
    bytes.map fun b => Numeral.zeroPad 2 (Numeral.hexDigits b.toNat), ?_,
    shows_zeroPad (by decide) address, ?_⟩
  · rw [← cons_intercalate hpairs]
    simp [dumpRow, Numeral.hexPadded, String.toList_intercalate, Function.comp_def]
  · rw [List.forall₂_map_right_iff, List.forall₂_same]
    exact fun b _ => isPair_zeroPad b

/-! ## Reading lines back -/

/-- The bytes that are written as pairs of hexadecimal digits behind a blank each. -/
def readPairs? : List Char → Option (List UInt8)
  | [] => some []
  | ' ' :: high :: low :: cs => do
    let n ← Numeral.read? 16 [high, low]
    return .ofNat n :: (← readPairs? cs)
  | _ => none

/-- The bytes on a line.  The address ends at the first blank. -/
def bytesOfLine? (line : String) : Option (List UInt8) :=
  readPairs? (line.toList.dropWhile (· ≠ ' ')).tail

/-- The bytes on some lines, in order. -/
def bytesOfLines? (lines : List String) : Option (List UInt8) :=
  (lines.mapM bytesOfLine?).map List.flatten

theorem readPairs?_of_forall₂ {bytes : List UInt8} {pairs : List (List Char)}
    (h : List.Forall₂ IsPair bytes pairs) :
    readPairs? (pairs.flatMap (' ' :: ·)) = some bytes := by
  induction h with
  | nil => rfl
  | @cons b pair bytes pairs hpair _ ih =>
    obtain ⟨high, low, rfl⟩ := List.length_eq_two.mp hpair.length_eq
    have hdigits := hpair.shows_toNat.denotes
    have hread : Numeral.read? 16 [high, low] = some b.toNat := by
      rw [Yaml.read?_of_digits (by decide) hdigits.ne_nil hdigits.digitOf_lt, hdigits.valueOf_eq]
    show readPairs? (' ' :: high :: low :: pairs.flatMap (' ' :: ·)) = _
    rw [readPairs?, hread, ih]
    show some (UInt8.ofNat b.toNat :: bytes) = _
    rw [UInt8.ofNat_toNat]

/-- **The bytes on a line are read back from it.** -/
theorem IsRow.bytesOfLine?_eq {address : Nat} {bytes : List UInt8} {line : String}
    (h : IsRow address bytes line) : bytesOfLine? line = some bytes := by
  obtain ⟨digits, pairs, hline, haddress, hpairs⟩ := h
  have hdigits : ∀ c ∈ digits, decide (c ≠ ' ') = true := by
    intro c hc
    rw [decide_eq_true_eq]
    rintro rfl
    exact absurd (haddress.mem_smallSigns ' ' hc) (by decide)
  rw [bytesOfLine?, hline, List.dropWhile_append_of_pos hdigits,
    List.dropWhile_cons_of_neg (by decide), List.tail_cons]
  exact readPairs?_of_forall₂ hpairs

theorem mapM_eq_some_of_forall₂ {α β : Type} {f : α → Option β} {xs : List α} {ys : List β}
    (h : List.Forall₂ (fun x y => f x = some y) xs ys) : xs.mapM f = some ys := by
  induction h with
  | nil => rfl
  | cons hx _ ih =>
    rw [List.mapM_cons, hx, ih]
    rfl

/-! ## Dumps -/

/-- The lines of a dump of bytes, from the address of the first of them on. -/
structure IsDump (address : Nat) (bytes : List UInt8) (lines : List String) : Prop where
  /-- There are as many lines as it takes with sixteen bytes to a line. -/
  length_eq : lines.length = (bytes.length + 15) / 16
  /-- A line shows the next sixteen bytes, or those that are left, with the address of the first. -/
  exists_row : ∀ k < lines.length, ∃ line row, lines[k]? = some line ∧
    row = (bytes.drop (16 * k)).take 16 ∧ row.length = min 16 (bytes.length - 16 * k) ∧
    IsRow (address + 16 * k) row line
  /-- All the bytes are read back from the lines, in order. -/
  bytesOfLines?_eq : bytesOfLines? lines = some bytes

theorem getElem?_dumpLines (address : Nat) (bytes : List UInt8) (k : Nat) :
    (dumpLines address bytes)[k]? =
      (pieces rowSize bytes)[k]?.map (dumpRow (address + 16 * k)) := by
  rw [dumpLines, List.getElem?_map, List.getElem?_zipIdx]
  cases (pieces rowSize bytes)[k]? with
  | none => rfl
  | some row =>
    show some (dumpRow (address + (0 + k) * 16) row) = some (dumpRow (address + 16 * k) row)
    rw [Nat.zero_add, Nat.mul_comm]

theorem bytesOfLines?_dumpLines (address : Nat) (bytes : List UInt8) :
    bytesOfLines? (dumpLines address bytes) = some bytes := by
  have hread : List.Forall₂ (fun line row => bytesOfLine? line = some row)
      (dumpLines address bytes) (pieces rowSize bytes) := by
    rw [← List.zipIdx_map_fst 0 (pieces rowSize bytes), dumpLines, List.forall₂_map_left_iff,
      List.forall₂_map_right_iff, List.forall₂_same]
    intro entry hentry
    have hpiece := ne_nil_of_mem_pieces (List.fst_mem_of_mem_zipIdx hentry)
    exact (isRow_dumpRow _ hpiece).bytesOfLine?_eq
  rw [bytesOfLines?, mapM_eq_some_of_forall₂ hread, Option.map_some, flatten_pieces]

/-- **The lines that are printed are a dump of the bytes.** -/
theorem isDump_dumpLines (address : Nat) (bytes : List UInt8) :
    IsDump address bytes (dumpLines address bytes) where
  length_eq := by
    rw [dumpLines, List.length_map, List.length_zipIdx, length_pieces (by decide)]
    rfl
  exists_row := by
    intro k hk
    rw [dumpLines, List.length_map, List.length_zipIdx] at hk
    have hne := ne_nil_of_mem_pieces (List.getElem_mem hk)
    have hline := getElem?_dumpLines address bytes k
    have hpiece : (pieces rowSize bytes)[k]? =
        if 16 * k < bytes.length then some ((bytes.drop (16 * k)).take 16) else none :=
      getElem?_pieces (by decide) bytes k
    rw [List.getElem?_eq_getElem hk] at hline hpiece
    split at hpiece
    · rw [Option.some.injEq] at hpiece
      rw [hpiece] at hline hne
      refine ⟨_, _, hline, rfl, ?_, isRow_dumpRow _ hne⟩
      rw [List.length_take, List.length_drop]
    · cases hpiece
  bytesOfLines?_eq := bytesOfLines?_dumpLines address bytes

/-! ## The command -/

section Terminals

variable {σ τ α : Type} {x : α}

theorem yields_within {a : Action σ α} {t : Terminal σ} {s : σ} (h : a.Yields t.inner x s) :
    (Terminal.within a).Yields t x ⟨s, t.printed⟩ := h.on

theorem yields_printAll (lines : List String) (t : Terminal σ) :
    (Terminal.printAll lines).Yields t () ⟨t.inner, lines.reverse ++ t.printed⟩ :=
  ⟨[], Terminal.run_printAll lines t⟩

theorem yields_through {view : τ → σ} {put : σ → τ → τ} {a : Action (Terminal σ) α}
    {t : Terminal τ} {u : Terminal σ} (h : a.Yields ⟨view t.inner, t.printed⟩ x u) :
    (Terminal.through view put a).Yields t x ⟨put u.inner t.inner, u.printed⟩ :=
  @Yields.on (Terminal σ) (Terminal τ) α a (fun t => ⟨view t.inner, t.printed⟩)
    (fun s t => ⟨put s.inner t.inner, s.printed⟩) t u x h

end Terminals

/-- What a dump of a device comes to, with what it prints.  The device is read into a buffer, and
either the read fails or its bytes are printed. -/
def Dumps (h : Host) (buffer : DmaBuffer) (offset : UInt32) (result : Except Failure Unit)
    (lines : List String) : Prop :=
  ∃ filled outcome, (buffer.readFrom offset).Yields h (filled, outcome) h ∧
    ((∃ e, outcome = .error e ∧ result = .error (.frontEnd e) ∧ lines = []) ∨
      (outcome = .ok () ∧ result = .ok () ∧ ∃ bytes, bytes.length = buffer.size ∧
        h.Holds offset.toNat bytes ∧ IsDump offset.toNat bytes lines))

theorem eq_zeros_of_new_eq_ok {length : Nat} {buffer : DmaBuffer}
    (h : DmaBuffer.new length = .ok buffer) : buffer = ⟨.zeros length⟩ := by
  unfold DmaBuffer.new at h
  split_ifs at h
  cases h
  rfl

theorem yields_readFrom {σ : Type} [FrontEnd σ] {s t : σ} {buffer : DmaBuffer} {offset : UInt32}
    {r : BlockRead} (h : (FrontEnd.readBlock buffer.size offset : Action σ BlockRead).Yields s r t) :
    (buffer.readFrom offset).Yields s (⟨buffer.bytes.write 0 r.arrived⟩, r.outcome) t :=
  h.bind (yields_pure _ t)

/-- A buffer that was filled as a whole holds what arrived. -/
theorem toList_filled {length : Nat} {arrived : ByteArray} (h : arrived.size = length) :
    ((Memory.zeros length).write 0 arrived).toBytes.toList = arrived.data.toList := by
  rw [Memory.toList_toBytes, (Memory.trimmed_zeros length).toList_write]
  refine Memory.splice_zero_of_length_eq ?_
  rw [Memory.length_toList]
  exact h

/-- **A dump prints what the device holds, or fails with the failure of the read and prints
nothing.** -/
theorem exists_yields_dump {length : Nat} {buffer : DmaBuffer}
    (hnew : DmaBuffer.new length = .ok buffer) {h : Host} (hwhole : h.HasWholeWindow)
    (offset : UInt32) (before : List String) :
    ∃ result lines, (dump offset length).Yields ⟨h, before⟩ result ⟨h, lines.reverse ++ before⟩ ∧
      Dumps h buffer offset result lines := by
  obtain rfl := eq_zeros_of_new_eq_ok hnew
  obtain ⟨⟨arrived, outcome⟩, hrun, hr⟩ := Host.exists_yields_readBlock hwhole length offset
  have hfill := @yields_readFrom Host _ h h ⟨.zeros length⟩ offset ⟨arrived, outcome⟩ hrun
  unfold dump
  rw [hnew]
  cases outcome with
  | error e =>
    refine ⟨.error (.frontEnd e), [], ?_, _, _, hfill, .inl ⟨e, rfl, rfl, rfl⟩⟩
    exact (yields_within hfill).bind (yields_pure _ _)
  | ok =>
    obtain ⟨hsize, hholds⟩ := hr rfl
    refine ⟨.ok (), dumpLines offset.toNat arrived.data.toList, ?_, _, _, hfill,
      .inr ⟨rfl, rfl, arrived.data.toList, hsize, hholds, isDump_dumpLines _ _⟩⟩
    refine (yields_within hfill).bind ?_
    show (Terminal.printAll (dumpLines offset.toNat
      ((Memory.zeros length).write 0 arrived).toBytes.toList) >>= _).Yields _ _ _
    rw [toList_filled hsize]
    exact (yields_printAll _ _).bind (yields_pure _ _)

/-- A front end that was opened by a command is a fresh simulated device or a card. -/
theorem hasWholeWindow_of_openDevice {config : Config} {simulate : Bool} {files files' : Files}
    {device : Device} (h : (openDevice config simulate).Yields files (.ok device) files') :
    Host.HasWholeWindow ⟨files', device⟩ := by
  cases simulate with
  | true =>
    obtain ⟨heq, -⟩ := h.unique (yields_pure _ files)
    cases heq
    exact Host.hasWholeWindow_of_holds (Simulator.holds_fresh _) files'
  | false =>
    obtain ⟨opened, files, hattach, hpure⟩ := exists_of_yields_bind h
    obtain ⟨heq, -⟩ := hpure.unique (yields_pure _ files)
    obtain ⟨nodes, files, hnodes, hpure⟩ := exists_of_yields_bind hattach
    obtain ⟨hopened, -⟩ := hpure.unique (yields_pure _ files)
    subst hopened
    cases nodes with
    | error e => cases heq
    | ok t =>
      cases heq
      exact Host.hasWholeWindow_of_attached t files'

/-- The command opens the front end, does the dump and gives the files back. -/
theorem yields_perform_dump {config : Config} {simulate : Bool} {files files' : Files}
    {device : Device} (hopen : (openDevice config simulate).Yields files (.ok device) files')
    {offset : Option UInt32} {length : Nat} {before printed : List String}
    {result : Except Failure Unit} {h : Host}
    (hdump : (dump (offset.getD config.registers.streamBase) length).Yields
      ⟨⟨files', device⟩, before⟩ result ⟨h, printed⟩) :
    (perform config simulate (.dump offset length)).Yields ⟨files, before⟩ result
      ⟨h.files, printed⟩ := by
  show (withDevice config simulate _).Yields _ _ _
  unfold withDevice
  refine (yields_within hopen).bind ?_
  exact @yields_through Host Files _ result (⟨·, device⟩) (fun h _ => h.files) _ ⟨files', before⟩
    ⟨h, printed⟩ hdump

/-- **A dump loses nothing.**  Whatever the device and the offset, if the buffer can be made, then the
dump ends; it fails with the failure of the bulk read and prints nothing, or it prints the bytes that
the device holds from the offset on, sixteen to a line with their addresses, so that they can be read
back.  The command does this with the front end that it opens. -/
theorem dump_loses_nothing {length : Nat} {buffer : DmaBuffer}
    (hnew : DmaBuffer.new length = .ok buffer) :
    buffer.size = length ∧
    (∀ (h : Host) (offset : UInt32) (before : List String), h.HasWholeWindow →
      ∃ result lines,
        (dump offset length).Yields ⟨h, before⟩ result ⟨h, lines.reverse ++ before⟩ ∧
        Dumps h buffer offset result lines) ∧
    ∀ (config : Config) (simulate : Bool) (files files' : Files) (device : Device)
      (offset : Option UInt32) (before : List String),
      (openDevice config simulate).Yields files (.ok device) files' →
      ∃ result lines, (perform config simulate (.dump offset length)).Yields ⟨files, before⟩ result
          ⟨files', lines.reverse ++ before⟩ ∧
        Dumps ⟨files', device⟩ buffer (offset.getD config.registers.streamBase) result lines := by
  refine ⟨?_, ?_, ?_⟩
  · rw [eq_zeros_of_new_eq_ok hnew]
    rfl
  · exact fun h offset before hwhole => exists_yields_dump hnew hwhole offset before
  · intro config simulate files files' device offset before hopen
    obtain ⟨result, lines, hrun, hdumps⟩ := exists_yields_dump hnew
      (hasWholeWindow_of_openDevice hopen) (offset.getD config.registers.streamBase) before
    exact ⟨result, lines, yields_perform_dump hopen hrun, hdumps⟩

/-- The last bytes of a file, of which thirteen lie past the last address. -/
def lastBytes : List UInt8 := [1, 2, 3, 4, 5, 6, 7, 8, 9, 10, 11, 12, 13, 14, 15, 16, 17]

/-- The content of such a file. -/
def longContent : Memory := (Memory.zeros 0).write 0xFFFFFFFC ⟨lastBytes.toArray⟩

theorem getElem?_longContent {i : Nat} (hi : i < 17) :
    longContent.toList[0xFFFFFFFC + i]? = lastBytes[i]? := by
  have hne : (ByteArray.mk lastBytes.toArray).data.toList ≠ [] := List.cons_ne_nil 1 _
  have hlt : 0xFFFFFFFC + i < 0xFFFFFFFC + (ByteArray.mk lastBytes.toArray).data.toList.length :=
    Nat.add_lt_add_left hi 0xFFFFFFFC
  rw [longContent, (Memory.trimmed_zeros 0).toList_write, Memory.getElem?_splice _ _ hne,
    if_neg (by omega), if_pos hlt, Nat.add_sub_cancel_left]

/-- A card with one node, which is such a file. -/
def longHost : Host where
  files := (Files.fresh "w").set ["c"] { kind := .regular longContent }
  device := .attached ⟨some ⟨"c", ["c"]⟩, none, none⟩

/-- The seventeen bytes are all dumped, the last of them on a line of its own past the last
address. -/
theorem dump_loses_nothing_past_the_last_address :
    ∃ lines, (dump 0xFFFFFFFC 17).Yields ⟨longHost, []⟩ (.ok ()) ⟨longHost, lines.reverse ++ []⟩ ∧
      IsDump 0xFFFFFFFC lastBytes lines := by
  have hnew : DmaBuffer.new 17 = .ok ⟨.zeros 17⟩ := rfl
  obtain ⟨-, hall, -⟩ := dump_loses_nothing hnew
  obtain ⟨result, lines, hrun, filled, outcome, hfill, hcase⟩ :=
    hall longHost 0xFFFFFFFC [] (Host.hasWholeWindow_of_attached _ _)
  have hreadable : longContent.readable (0xFFFFFFFC : UInt32).toNat 17 = 17 := by decide
  have hblock := @Attached.yields_readBlock ⟨⟨some ⟨"c", ["c"]⟩, none, none⟩, longHost.files⟩
    ⟨"c", ["c"]⟩ longContent rfl ⟨false, rfl⟩ 17 0xFFFFFFFC
  rw [if_pos hreadable] at hblock
  have hbyte (i : Nat) : longHost.byte? i = longContent.toList[i]? :=
    @Attached.byte?_of_regular ⟨⟨some ⟨"c", ["c"]⟩, none, none⟩, longHost.files⟩ ⟨"c", ["c"]⟩
      longContent rfl ⟨false, rfl⟩ i
  have hread := @yields_readFrom Host _ longHost longHost ⟨.zeros 17⟩ 0xFFFFFFFC _
    (Host.yields_onDevice_attached hblock)
  obtain ⟨hanswer, -⟩ := hfill.unique hread
  cases hanswer
  rcases hcase with ⟨e, he, -⟩ | ⟨-, rfl, bytes, hlength, hholds, hdump⟩
  · cases he
  · have hbytes : bytes = lastBytes := by
      refine List.ext_getElem? fun i => ?_
      rcases Nat.lt_or_ge i 17 with hi | hi
      · have hin : i < bytes.length := by
          rw [hlength]
          exact hi
        have hstart : (0xFFFFFFFC : UInt32).toNat = 0xFFFFFFFC := rfl
        rw [← hholds i hin, hbyte, hstart, getElem?_longContent hi]
      · rw [List.getElem?_eq_none (hlength ▸ hi), List.getElem?_eq_none hi]
    exact ⟨lines, hrun, hbytes ▸ hdump⟩

end Probe
end RadioFrontEnd
