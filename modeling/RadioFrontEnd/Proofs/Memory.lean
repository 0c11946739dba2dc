import RadioFrontEnd.Memory
import RadioFrontEnd.WordBytes

/-!
# Laws of byte memories

A memory is known by its size and its bytes; two memories that agree in these are the `Same`, though
the blocks behind them may differ.  Reading and writing respect this (`Same.read_eq`, `Same.write`).

A register is a word in a memory, lowest byte first.  `wordAt` is the word at a position, where bytes
past the end count as zeros.  It obeys the laws of a register file: a word that was written is there
(`wordAt_write_self`), and words next to it are untouched (`wordAt_write_of_disjoint`).
-/

namespace RadioFrontEnd.Memory

/-- The memories have the same size and the same bytes. -/
structure Same (m m' : Memory) : Prop where
  /-- The sizes are equal. -/
  size_eq : m.size = m'.size
  /-- The bytes are equal. -/
  byte_eq : ∀ i, m.byte i = m'.byte i

theorem Same.refl (m : Memory) : Same m m := ⟨rfl, fun _ => rfl⟩

/-- There are only zeros past the end. -/
def Trimmed (m : Memory) : Prop := ∀ i, m.size ≤ i → m.byte i = 0

theorem Same.trimmed {m m' : Memory} (h : Same m m') (hm' : m'.Trimmed) : m.Trimmed := by
  intro i hi
  rw [h.byte_eq]
  exact hm' i (h.size_eq ▸ hi)

theorem trimmed_zeros (size : Nat) : (zeros size).Trimmed := fun i _ => byte_zeros size i

theorem trimmed_ofBytes (data : ByteArray) : (ofBytes data).Trimmed := by
  intro i hi
  have houtside : ¬ (0 ≤ i ∧ i - 0 < data.size) := fun h => Nat.not_lt_of_le hi h.2
  rw [byte, ofBytes, List.findSome?_cons, Patch.get?, dif_neg houtside]
  rfl

/-! ## Bytes -/

theorem byte_write_of_mem (m : Memory) {offset i : Nat} {data : ByteArray} (hle : offset ≤ i)
    (hlt : i - offset < data.size) : (m.write offset data).byte i = data.get (i - offset) hlt := by
  rw [byte_write, dif_pos ⟨hle, hlt⟩]

theorem byte_write_of_lt (m : Memory) {offset i : Nat} (data : ByteArray) (h : i < offset) :
    (m.write offset data).byte i = m.byte i := by
  rw [byte_write, dif_neg fun hc => absurd hc.1 (Nat.not_le_of_lt h)]

theorem byte_write_of_le (m : Memory) {offset i : Nat} (data : ByteArray)
    (h : offset + data.size ≤ i) : (m.write offset data).byte i = m.byte i := by
  rw [byte_write, dif_neg fun hc => absurd hc.2 (by omega)]

theorem write_of_size_eq_zero (m : Memory) (offset : Nat) {data : ByteArray}
    (h : data.size = 0) : m.write offset data = m :=
  if_pos h

theorem le_size_write (m : Memory) (offset : Nat) (data : ByteArray) :
    m.size ≤ (m.write offset data).size := by
  rw [size_write]
  split
  · exact Nat.le_refl _
  · exact Nat.le_max_left _ _

theorem Trimmed.write {m : Memory} (h : m.Trimmed) (offset : Nat) (data : ByteArray) :
    (m.write offset data).Trimmed := by
  intro i hi
  have hm : m.byte i = 0 := h i (Nat.le_trans (m.le_size_write offset data) hi)
  by_cases hdata : data.size = 0
  · rw [write_of_size_eq_zero m offset hdata, hm]
  · rw [size_write, if_neg hdata] at hi
    rw [byte_write_of_le m data (Nat.le_trans (Nat.le_max_right _ _) hi), hm]

/-! ## Reading and writing the same memory -/

theorem Same.readable_eq {m m' : Memory} (h : Same m m') (offset length : Nat) :
    m.readable offset length = m'.readable offset length := by
  rw [readable, readable, h.size_eq]

theorem Same.read_eq {m m' : Memory} (h : Same m m') (offset length : Nat) :
    m.read offset length = m'.read offset length := by
  rw [read, read]
  congr 1
  apply Array.ext
  · rw [Array.size_ofFn, Array.size_ofFn, h.readable_eq]
  · intro i _ _
    rw [Array.getElem_ofFn, Array.getElem_ofFn, h.byte_eq]

theorem Same.write {m m' : Memory} (h : Same m m') (offset : Nat) (data : ByteArray) :
    Same (m.write offset data) (m'.write offset data) := by
  refine ⟨?_, fun i => ?_⟩
  · rw [size_write, size_write, h.size_eq]
  · rw [byte_write, byte_write, h.byte_eq]

/-! ## Bytes in order -/

/-- All the bytes in order. -/
def toList (m : Memory) : List UInt8 := (List.range m.size).map m.byte

@[simp] theorem length_toList (m : Memory) : m.toList.length = m.size := by
  rw [toList, List.length_map, List.length_range]

theorem getElem?_toList {m : Memory} {i : Nat} (h : i < m.size) :
    m.toList[i]? = some (m.byte i) := by
  rw [toList, List.getElem?_map, List.getElem?_range h]
  rfl

/-- Reading takes the bytes from the offset on, as many as asked for and there. -/
theorem toList_read (m : Memory) (offset length : Nat) :
    (m.read offset length).data.toList = (m.toList.drop offset).take length := by
  apply List.ext_getElem
  · rw [read, Array.toList_ofFn, List.length_ofFn, List.length_take, List.length_drop,
      length_toList, readable]
  · intro i hi hi'
    simp [read, toList]

theorem toList_ofBytes (data : ByteArray) : (ofBytes data).toList = data.data.toList := by
  apply List.ext_getElem
  · rw [length_toList]
    rfl
  · intro i hi hi'
    have hbyte : (ofBytes data).byte i = data.get i hi' := by
      have hcovers : 0 ≤ i ∧ i - 0 < data.size := ⟨Nat.zero_le i, hi'⟩
      rw [byte, ofBytes, List.findSome?_cons, Patch.get?, dif_pos hcovers]
      rfl
    have hitem : (ofBytes data).toList[i] = (ofBytes data).byte i := by
      simp only [toList, List.getElem_map, List.getElem_range]
    rw [hitem, hbyte]
    rfl

theorem toList_loop (data : ByteArray) (i : Nat) (front : List UInt8) :
    ByteArray.toList.loop data i front = front.reverse ++ data.data.toList.drop i := by
  fun_induction ByteArray.toList.loop data i front with
  | case1 i front hi ih =>
    have hbyte : data.get! i = data.data.toList[i] := getElem!_pos data.data i hi
    have hdrop : data.data.toList.drop i = data.get! i :: data.data.toList.drop (i + 1) := by
      rw [hbyte]
      exact List.drop_eq_getElem_cons hi
    rw [ih, hdrop, List.reverse_cons, List.append_assoc, List.singleton_append]
  | case2 i front hi =>
    have hend : data.data.toList.length ≤ i := Nat.le_of_not_lt hi
    rw [List.drop_eq_nil_of_le hend, List.append_nil]

/-- All the bytes, taken out one by one. -/
theorem toList_toBytes (m : Memory) : m.toBytes.toList = m.toList := by
  rw [ByteArray.toList, toList_loop, toBytes, toList_read, List.reverse_nil, List.nil_append,
    List.drop_zero, List.drop_zero, ← length_toList, List.take_length]

/-- Bytes with other bytes put over them from an offset on.  Zeros fill the gap if the offset lies
past the end, and no bytes put there change nothing. -/
def splice (bytes : List UInt8) (offset : Nat) (data : List UInt8) : List UInt8 :=
  if data = [] then bytes
  else (bytes ++ List.replicate (offset - bytes.length) 0).take offset ++ data ++
    bytes.drop (offset + data.length)

/-- What is put there stands from the offset on, and zeros stand in the gap. -/
theorem getElem?_splice (bytes : List UInt8) (offset : Nat) {data : List UInt8} (h : data ≠ [])
    (i : Nat) :
    (splice bytes offset data)[i]? =
      if i < offset then some (bytes[i]?.getD 0)
      else if i < offset + data.length then data[i - offset]? else bytes[i]? := by
  have hfront : ((bytes ++ List.replicate (offset - bytes.length) 0).take offset).length
      = offset := by
    rw [List.length_take, List.length_append, List.length_replicate]
    omega
  rw [splice, if_neg h, List.append_assoc]
  by_cases hi : i < offset
  · rw [if_pos hi, List.getElem?_append_left (by rw [hfront]; exact hi), List.getElem?_take_of_lt hi]
    by_cases hin : i < bytes.length
    · rw [List.getElem?_append_left hin, List.getElem?_eq_getElem hin]
      rfl
    · have hgap : i - bytes.length < offset - bytes.length := by omega
      rw [List.getElem?_append_right (Nat.le_of_not_lt hin), List.getElem?_replicate_of_lt hgap,
        List.getElem?_eq_none (Nat.le_of_not_lt hin)]
      rfl
  · have hle : offset ≤ i := Nat.le_of_not_lt hi
    rw [if_neg hi, List.getElem?_append_right (by rw [hfront]; exact hle), hfront]
    by_cases hdata : i < offset + data.length
    · rw [if_pos hdata, List.getElem?_append_left (by omega)]
    · rw [if_neg hdata, List.getElem?_append_right (by omega), List.getElem?_drop]
      congr 1
      omega

theorem length_splice (bytes : List UInt8) (offset : Nat) {data : List UInt8} (h : data ≠ []) :
    (splice bytes offset data).length = max bytes.length (offset + data.length) := by
  rw [splice, if_neg h, List.length_append, List.length_append, List.length_take,
    List.length_append, List.length_replicate, List.length_drop]
  omega

/-- Bytes put over the front leave what lies behind them. -/
theorem splice_zero (bytes data : List UInt8) :
    splice bytes 0 data = data ++ bytes.drop data.length := by
  rw [splice]
  split
  · next hnil => rw [hnil, List.nil_append, List.length_nil, List.drop_zero]
  · rw [List.take_zero, List.nil_append, Nat.zero_add]

/-- Bytes put over all the bytes of a buffer are all that is in it. -/
theorem splice_zero_of_length_eq {bytes data : List UInt8} (h : data.length = bytes.length) :
    splice bytes 0 data = data := by
  rw [splice_zero, h, List.drop_length, List.append_nil]

/-- **A write puts its bytes over those that are there.** -/
theorem toList_write {m : Memory} {offset : Nat}
    (h : ∀ i, m.size ≤ i → i < offset → m.byte i = 0) (data : ByteArray) :
    (m.write offset data).toList = splice m.toList offset data.data.toList := by
  have hlen : data.data.toList.length = data.size := Array.length_toList
  by_cases hdata : data.size = 0
  · have hnil : data.data.toList = [] := List.length_eq_zero_iff.mp (hlen.trans hdata)
    rw [write_of_size_eq_zero m offset hdata, splice, if_pos hnil]
  · have hne : data.data.toList ≠ [] := fun hnil => hdata (by rw [← hlen, hnil]; rfl)
    have hsize : (m.write offset data).size = max m.size (offset + data.size) := by
      rw [size_write, if_neg hdata]
    apply List.ext_getElem?
    intro i
    rw [getElem?_splice _ _ hne, hlen]
    by_cases hi : i < max m.size (offset + data.size)
    · rw [getElem?_toList (hsize ▸ hi)]
      by_cases hlow : i < offset
      · rw [if_pos hlow, byte_write_of_lt m data hlow]
        by_cases hin : i < m.size
        · rw [getElem?_toList hin]
          rfl
        · have hend : m.size ≤ i := Nat.le_of_not_lt hin
          rw [h i hend hlow, List.getElem?_eq_none (by rw [length_toList]; exact hend)]
          rfl
      · have hle : offset ≤ i := Nat.le_of_not_lt hlow
        rw [if_neg hlow]
        by_cases hcovered : i < offset + data.size
        · have hat : i - offset < data.size := by omega
          rw [if_pos hcovered, byte_write_of_mem m hle hat, Array.getElem?_toList,
            Array.getElem?_eq_getElem hat]
          rfl
        · rw [if_neg hcovered, byte_write_of_le m data (Nat.le_of_not_lt hcovered),
            getElem?_toList (by omega)]
    · have hend : (m.write offset data).toList.length ≤ i := by
        rw [length_toList, hsize]
        exact Nat.le_of_not_lt hi
      rw [List.getElem?_eq_none hend, if_neg (by omega), if_neg (by omega),
        List.getElem?_eq_none (by rw [length_toList]; omega)]

theorem Trimmed.toList_write {m : Memory} (h : m.Trimmed) (offset : Nat) (data : ByteArray) :
    (m.write offset data).toList = splice m.toList offset data.data.toList :=
  Memory.toList_write (fun i hi _ => h i hi) data

/-! ## Words -/

/-- The word at a position, lowest byte first. -/
def wordAt (m : Memory) (position : Nat) : UInt32 :=
  .ofNat (Word.natOfBytes (m.byte position) (m.byte (position + 1)) (m.byte (position + 2))
    (m.byte (position + 3)))

/-- Where four bytes are there, reading them gives the word. -/
theorem ofBytes?_read {m : Memory} {position : Nat} (h : position + 4 ≤ m.size) :
    Word.ofBytes? (m.read position 4) = some (m.wordAt position) := by
  have hsize : (m.read position 4).size = 4 := by
    rw [size_read, readable]
    omega
  rw [Word.ofBytes?, dif_pos hsize, get_read, get_read, get_read, get_read]
  rfl

theorem wordAt_congr {m m' : Memory} {position : Nat}
    (h : ∀ k, k < 4 → m.byte (position + k) = m'.byte (position + k)) :
    m.wordAt position = m'.wordAt position := by
  have h₀ : m.byte position = m'.byte position := h 0 (by decide)
  rw [wordAt, wordAt, h₀, h 1 (by decide), h 2 (by decide), h 3 (by decide)]

theorem Trimmed.wordAt_eq_zero {m : Memory} (h : m.Trimmed) {position : Nat}
    (hle : m.size ≤ position) : m.wordAt position = 0 := by
  rw [wordAt, h position hle, h (position + 1) (by omega), h (position + 2) (by omega),
    h (position + 3) (by omega)]
  rfl

/-- A word that was written is there. -/
theorem wordAt_write_self (m : Memory) (position : Nat) (v : UInt32) :
    (m.write position (Word.toBytes v)).wordAt position = v := by
  have hbyte (k : Nat) (hk : k < 4) :
      (m.write position (Word.toBytes v)).byte (position + k) = (Word.toBytes v).get k hk := by
    have hsub : position + k - position = k := Nat.add_sub_cancel_left position k
    rw [byte_write_of_mem m (Nat.le_add_right position k) (by rw [hsub]; exact hk)]
    congr 1
  have h₀ := hbyte 0 (by decide)
  rw [Nat.add_zero] at h₀
  rw [wordAt, h₀, hbyte 1 (by decide), hbyte 2 (by decide), hbyte 3 (by decide)]
  exact (congrArg UInt32.ofNat (Word.natOfBytes_toUInt8 v)).trans v.ofNat_toNat

/-- A word next to a block that was written is as it was. -/
theorem wordAt_write_of_disjoint (m : Memory) {position offset : Nat} {data : ByteArray}
    (h : position + 4 ≤ offset ∨ offset + data.size ≤ position) :
    (m.write offset data).wordAt position = m.wordAt position := by
  apply wordAt_congr
  intro k hk
  rcases h with h | h
  · exact byte_write_of_lt m data (by omega)
  · exact byte_write_of_le m data (by omega)

end RadioFrontEnd.Memory
