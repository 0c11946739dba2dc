import Mathlib
import RadioFrontEnd.Proofs.Access
import RadioFrontEnd.Proofs.Transport

/-!
# One node for everything

A card that is opened with a single node has its registers and its blocks in one file.  Register and
block accesses are then two views of the same bytes, and they may overlap in any way: a register
need not start on a word boundary, and the end of the file may fall within one.

The file is told as a list of bytes.  `bytesAfter` is what the writes of a run make of it, each of
them put over the bytes at its offset, with a register as its four bytes, lowest first.  `replyFrom`
is what an access should reply when the file has the given bytes.  `Attached.exists_yields_perform`
says that one access does so on any card, with the file of the node that it goes to, and that it
changes no other file.  On a single node this is always the same file, and
`single_node_is_byte_memory` says that the file and the replies are these after any run.
-/

namespace RadioFrontEnd

open RadioFrontEnd.Action

namespace Word

/-- The four bytes of a word, lowest first. -/
def littleEndian (v : UInt32) : List UInt8 :=
  (List.range 4).map fun k => .ofNat (v.toNat / 256 ^ k)

/-- The word that bytes are, lowest first. -/
def ofLittleEndian (bytes : List UInt8) : UInt32 :=
  .ofNat (Nat.ofDigits 256 (bytes.map UInt8.toNat))

/-- The word at a position among some bytes, lowest byte first, or zero if it is not all there. -/
def fromBytes (bytes : List UInt8) (position : Nat) : UInt32 :=
  if position + 4 ≤ bytes.length then ofLittleEndian ((bytes.drop position).take 4) else 0

theorem toList_toBytes (v : UInt32) : (toBytes v).data.toList = littleEndian v := by
  have hbyte (k : UInt32) (hk : k.toNat < 32) :
      (v >>> k).toUInt8 = .ofNat (v.toNat / 2 ^ k.toNat) := by
    apply UInt8.toNat_inj.mp
    rw [UInt32.toNat_toUInt8, UInt32.toNat_shiftRight, Nat.mod_eq_of_lt hk,
      Nat.shiftRight_eq_div_pow, UInt8.toNat_ofNat']
  have h₀ : v.toUInt8 = .ofNat (v.toNat / 256 ^ 0) := by
    apply UInt8.toNat_inj.mp
    rw [UInt32.toNat_toUInt8, pow_zero, Nat.div_one, UInt8.toNat_ofNat']
  show [v.toUInt8, (v >>> 8).toUInt8, (v >>> 16).toUInt8, (v >>> 24).toUInt8] = _
  rw [h₀, hbyte 8 (by decide), hbyte 16 (by decide), hbyte 24 (by decide)]
  rfl

theorem natOfBytes_eq_ofDigits (b₀ b₁ b₂ b₃ : UInt8) :
    natOfBytes b₀ b₁ b₂ b₃ = Nat.ofDigits 256 ([b₀, b₁, b₂, b₃].map UInt8.toNat) := by
  simp only [natOfBytes, List.map_cons, List.map_nil, Nat.ofDigits_cons, Nat.ofDigits_nil]
  omega

theorem ofBytes?_eq_ofLittleEndian {bytes : ByteArray} (h : bytes.size = 4) :
    ofBytes? bytes = some (ofLittleEndian bytes.data.toList) := by
  have hbytes : bytes.data.toList =
      [bytes.get 0 (by omega), bytes.get 1 (by omega), bytes.get 2 (by omega),
        bytes.get 3 (by omega)] := by
    apply List.ext_getElem
    · exact h
    · intro k hk _
      have hfour : k < 4 := h ▸ hk
      interval_cases k <;> rfl
  rw [ofBytes?, dif_pos h, ofLittleEndian, hbytes, natOfBytes_eq_ofDigits]

end Word

/-- A word of a memory is made of four of its bytes. -/
theorem Memory.wordAt_eq_ofLittleEndian {m : Memory} {position : Nat}
    (h : position + 4 ≤ m.size) :
    m.wordAt position = Word.ofLittleEndian ((m.toList.drop position).take 4) := by
  have hall : m.readable position 4 = 4 := by
    rw [readable]
    omega
  have hbytes : (m.toList.drop position).take 4 =
      [m.byte position, m.byte (position + 1), m.byte (position + 2), m.byte (position + 3)] := by
    rw [← toList_read, read, hall]
    rfl
  rw [hbytes, Word.ofLittleEndian, ← Word.natOfBytes_eq_ofDigits]
  rfl

theorem Memory.fromBytes_toList (m : Memory) (position : Nat) :
    Word.fromBytes m.toList position = if position + 4 ≤ m.size then m.wordAt position else 0 := by
  rw [Word.fromBytes, length_toList]
  by_cases h : position + 4 ≤ m.size
  · rw [if_pos h, if_pos h, wordAt_eq_ofLittleEndian h]
  · rw [if_neg h, if_neg h]

/-! ## What a file should hold, and what it should reply -/

namespace Access

/-- The bytes that an access writes to a file, and where they start. -/
def written? : Access → Option (Nat × List UInt8)
  | writeRegister address v => some (address.toNat, Word.littleEndian v)
  | writeBlock data offset => some (offset.toNat, data.data.toList)
  | send buffer length offset =>
    if length ≤ buffer.size then some (offset.toNat, buffer.bytes.toList.take length) else none
  | readRegister _ | readBlock _ _ | fill _ _ => none

/-- What an access makes of the bytes of a file. -/
def overwrite (bytes : List UInt8) (a : Access) : List UInt8 :=
  match a.written? with
  | some (offset, data) => Memory.splice bytes offset data
  | none => bytes

/-- The bytes of a file after a run of accesses. -/
def bytesAfter (initial : List UInt8) (past : List Access) : List UInt8 :=
  past.foldl overwrite initial

/-- What a read into a buffer replies.  If the bytes are not all there, those that are come to the
front of the buffer, and the failure says how many they are. -/
def blockFrom (bytes buffer : List UInt8) (offset : UInt32) : Reply :=
  if buffer.length = 0 ∨ offset.toNat + buffer.length ≤ bytes.length then
    .received ((bytes.drop offset.toNat).take buffer.length) (.ok ())
  else
    .received (bytes.drop offset.toNat ++ buffer.drop (bytes.length - offset.toNat))
      (.error (.transfer .toHost buffer.length offset (.short (bytes.length - offset.toNat))))

/-- What an access replies, when the file has the given bytes. -/
def replyFrom (bytes : List UInt8) : Access → Reply
  | readRegister address => .word (Word.fromBytes bytes address.toNat)
  | writeRegister _ _ => .done
  | readBlock buffer offset => blockFrom bytes buffer offset
  | writeBlock _ _ => .sent (.ok ())
  | fill buffer offset => blockFrom bytes buffer.bytes.toList offset
  | send buffer length offset =>
    .sent (if buffer.size < length then
      .error (.transfer .toCard length offset (.short buffer.size))
    else .ok ())

theorem bytesAfter_concat (initial : List UInt8) (past : List Access) (a : Access) :
    bytesAfter initial (past ++ [a]) = overwrite (bytesAfter initial past) a := by
  rw [bytesAfter, List.foldl_append]
  rfl

end Access

/-! ## One access to a file -/

/-- The file at a place is regular, and these are its bytes. -/
def Files.Consists (fs : Files) (place : Place) (bytes : List UInt8) : Prop :=
  ∃ content, fs.Regular place content ∧ content.Trimmed ∧ content.toList = bytes

theorem Files.Consists.of_get?_eq {fs fs' : Files} {place : Place} {bytes : List UInt8}
    (h : fs.Consists place bytes) (hsame : fs'.get? place = fs.get? place) :
    fs'.Consists place bytes := by
  obtain ⟨content, ⟨denied, hregular⟩, htrim, hbytes⟩ := h
  exact ⟨content, ⟨denied, hsame.trans hregular⟩, htrim, hbytes⟩

/-- A file that was made from some bytes has them. -/
theorem Files.consists_of_get?_eq {fs : Files} {place : Place} {bytes : List UInt8} {denied : Bool}
    (h : fs.get? place = some ⟨.regular (.ofBytes ⟨bytes.toArray⟩), denied⟩) :
    fs.Consists place bytes :=
  ⟨_, ⟨denied, h⟩, Memory.trimmed_ofBytes _, Memory.toList_ofBytes _⟩

/-- A write to a file puts its bytes over those of the file. -/
theorem Files.Rewritten.consists {fs fs' : Files} {place : Place} {content : Memory}
    {offset : Nat} {data : ByteArray}
    (h : Files.Rewritten fs fs' place (content.write offset data)) (htrim : content.Trimmed) :
    fs'.Consists place (Memory.splice content.toList offset data.data.toList) :=
  ⟨_, h.regular, htrim.write offset data, htrim.toList_write offset data⟩

/-- The files after an access to the file at a place, which had the given bytes. -/
structure Files.Accessed (fs fs' : Files) (place : Place) (bytes : List UInt8) (access : Access) :
    Prop where
  /-- The file has what the access makes of its bytes. -/
  consists : fs'.Consists place (access.overwrite bytes)
  /-- Every other file is as it was. -/
  get?_eq : ∀ q, q ≠ place → fs'.get? q = fs.get? q
  /-- If nothing is written, then every file is as it was. -/
  eq_of_written?_eq_none : access.written? = none → fs' = fs

theorem Files.Consists.accessed_of_written?_eq_none {fs : Files} {place : Place}
    {bytes : List UInt8} {access : Access} (h : fs.Consists place bytes)
    (hread : access.written? = none) : Files.Accessed fs fs place bytes access where
  consists := by
    rw [Access.overwrite, hread]
    exact h
  get?_eq := fun _ _ => rfl
  eq_of_written?_eq_none := fun _ => rfl

theorem Files.Rewritten.accessed {fs fs' : Files} {place : Place} {content : Memory}
    {offset : Nat} {data : ByteArray} {access : Access}
    (h : Files.Rewritten fs fs' place (content.write offset data)) (htrim : content.Trimmed)
    (hwrite : access.written? = some (offset, data.data.toList)) :
    Files.Accessed fs fs' place content.toList access where
  consists := by
    rw [Access.overwrite, hwrite]
    exact h.consists htrim
  get?_eq := h.get?_eq
  eq_of_written?_eq_none hnone := by
    rw [hwrite] at hnone
    cases hnone

/-- The node that an access goes to. -/
def Transport.nodeOf? (t : Transport) : Access → Option Node
  | .readRegister _ | .writeRegister _ _ => t.user
  | .writeBlock _ _ | .send _ _ _ => t.bulkNode? .toCard
  | .readBlock _ _ | .fill _ _ => t.bulkNode? .toHost

namespace Attached

variable {a : Attached Files} {node : Node} {bytes : List UInt8}

/-- A bulk read takes what is there, and leaves the rest of the buffer as it was. -/
theorem yields_perform_readBlock (hnode : a.transport.bulkNode? .toHost = some node)
    (h : a.system.Consists node.file bytes) (buffer : List UInt8) (offset : UInt32) :
    (Access.perform (.readBlock buffer offset)).Yields a (Access.blockFrom bytes buffer offset)
      a := by
  obtain ⟨content, hregular, -, rfl⟩ := h
  have hread := (Attached.yields_readBlock hnode hregular buffer.length offset).map
    fun r => Reply.received (Memory.splice buffer 0 r.arrived.data.toList) r.outcome
  have hreply : Reply.received
      (Memory.splice buffer 0 (content.read offset.toNat buffer.length).data.toList)
      (if content.readable offset.toNat buffer.length = buffer.length then .ok ()
        else .error (.transfer .toHost buffer.length offset
          (.short (content.readable offset.toNat buffer.length)))) =
      Access.blockFrom content.toList buffer offset := by
    rw [Access.blockFrom, Memory.toList_read, Memory.length_toList]
    by_cases hall : buffer.length = 0 ∨ offset.toNat + buffer.length ≤ content.size
    · have hfull : content.readable offset.toNat buffer.length = buffer.length := by
        rw [Memory.readable]
        omega
      have harrived : ((content.toList.drop offset.toNat).take buffer.length).length
          = buffer.length := by
        rw [List.length_take, List.length_drop, Memory.length_toList]
        omega
      rw [if_pos hall, if_pos hfull, Memory.splice_zero_of_length_eq harrived]
    · have hshort : content.readable offset.toNat buffer.length = content.size - offset.toNat := by
        rw [Memory.readable]
        omega
      have hlength : (content.toList.drop offset.toNat).length = content.size - offset.toNat := by
        rw [List.length_drop, Memory.length_toList]
      rw [if_neg hall, hshort, if_neg (by omega), List.take_of_length_le (by omega),
        Memory.splice_zero, hlength]
  rw [← hreply]
  exact hread

/-- A bulk write puts its bytes over those of the file, for any access that writes these. -/
theorem exists_yields_perform_writeBlock {access : Access}
    (hnode : a.transport.bulkNode? .toCard = some node) (h : a.system.Consists node.file bytes)
    (data : ByteArray) (offset : UInt32)
    (hwrite : access.written? = some (offset.toNat, data.data.toList)) :
    ∃ fs', (Access.perform (.writeBlock data offset)).Yields a (.sent (.ok ()))
        { a with system := fs' } ∧
      Files.Accessed a.system fs' node.file bytes access := by
  obtain ⟨content, hregular, htrim, rfl⟩ := h
  obtain ⟨fs, hrun, hfs⟩ := Attached.exists_yields_writeBlock hnode hregular data offset
  exact ⟨fs, hrun.map _, hfs.accessed htrim hwrite⟩

/-- **Every access replies from the bytes of the file that it goes to, and leaves there what it
makes of them.** -/
theorem exists_yields_perform {access : Access} (hnode : a.transport.nodeOf? access = some node)
    (h : a.system.Consists node.file bytes) :
    ∃ fs', access.perform.Yields a (access.replyFrom bytes) { a with system := fs' } ∧
      Files.Accessed a.system fs' node.file bytes access := by
  cases access with
  | readRegister address =>
    refine ⟨a.system, ?_, h.accessed_of_written?_eq_none rfl⟩
    obtain ⟨content, hregular, -, rfl⟩ := h
    have hread := (Attached.yields_readRegister hnode hregular address).map Reply.word
    rw [Access.replyFrom, Memory.fromBytes_toList]
    exact hread
  | writeRegister address v =>
    obtain ⟨content, hregular, htrim, rfl⟩ := h
    obtain ⟨fs, hwrite, hfs⟩ := Attached.exists_yields_writeRegister hnode hregular address v
    refine ⟨fs, hwrite.map _, hfs.accessed htrim ?_⟩
    rw [Access.written?, Word.toList_toBytes]
  | readBlock buffer offset =>
    exact ⟨a.system, yields_perform_readBlock hnode h buffer offset,
      h.accessed_of_written?_eq_none rfl⟩
  | writeBlock data offset => exact exists_yields_perform_writeBlock hnode h data offset rfl
  | fill buffer offset =>
    refine ⟨a.system, ?_, h.accessed_of_written?_eq_none rfl⟩
    rw [Access.perform_fill]
    exact yields_perform_readBlock hnode h buffer.bytes.toList offset
  | send buffer length offset =>
    rw [Access.replyFrom]
    by_cases hle : length ≤ buffer.size
    · rw [Access.perform_send_of_le hle, if_neg (Nat.not_lt_of_le hle)]
      refine exists_yields_perform_writeBlock hnode h (buffer.bytes.read 0 length) offset ?_
      rw [Access.written?, if_pos hle, Access.toList_read_zero]
    · have hlt : buffer.size < length := Nat.lt_of_not_le hle
      rw [Access.perform_send_of_lt hlt, if_pos hlt]
      exact ⟨a.system, yields_pure _ a, h.accessed_of_written?_eq_none (if_neg hle)⟩

end Attached

/-! ## One node -/

/-- A card on one node, whose file has the given bytes. -/
structure Attached.OnOneNode (a : Attached Files) (node : Node) (bytes : List UInt8) : Prop where
  /-- The node is the only one that is open. -/
  transport_eq : a.transport = ⟨some node, none, none⟩
  /-- The file behind it has the bytes. -/
  consists : a.system.Consists node.file bytes

/-- On one node every access goes to the one file. -/
theorem Attached.OnOneNode.exists_yields_perform {a : Attached Files} {node : Node}
    {bytes : List UInt8} (h : a.OnOneNode node bytes) (access : Access) :
    ∃ b, access.perform.Yields a (access.replyFrom bytes) b ∧
      b.OnOneNode node (Access.overwrite bytes access) := by
  have hnode : a.transport.nodeOf? access = some node := by
    rw [h.transport_eq]
    cases access <;> rfl
  obtain ⟨fs, hrun, hfs⟩ := Attached.exists_yields_perform hnode h.consists
  exact ⟨_, hrun, h.transport_eq, hfs.consists⟩

theorem Transport.yields_openNode {fs : Files} {path : String} {place : Place}
    (h : fs.openNode path = .ok place) :
    (Transport.openNode path).Yields fs (.ok ⟨path, place⟩) fs := by
  refine (yields_get fs).bind ?_
  rw [h]
  exact (yields_report _ _ fs).bind (yields_pure _ fs)

/-- Opening a card with one node opens this node and no other. -/
theorem Transport.yields_openNodes_single {fs : Files} {path : String} {place : Place}
    (h : fs.openNode path = .ok place) :
    (Transport.openNodes (.single path)).Yields fs
      (.ok ⟨some ⟨path, place⟩, none, none⟩) fs :=
  (Transport.yields_openNode h).bind
    ((yields_pure (Except.ok none) fs).bind
      ((yields_pure (Except.ok none) fs).bind (yields_pure _ fs)))

/-- **On one node, registers and blocks are views of one memory of bytes.**  A card is opened with a
single node on a regular file.  After any run of accesses the file has its first bytes with the
writes of the run put over them in order, and every access replies from the bytes that the file has
when it is made. -/
theorem single_node_is_byte_memory {fs : Files} {path : String} {place : Place}
    {initial : List UInt8} (hopen : fs.openNode path = .ok place)
    (hfile : fs.Consists place initial) (past : List Access) (access : Access) :
    ∃ (transport : Transport) (replies : List Reply) (a b : Attached Files),
      (Transport.openNodes (.single path)).Yields fs (.ok transport) fs ∧
      (past.mapM Access.perform).Yields ⟨transport, fs⟩ replies a ∧
      a.system.Consists place (Access.bytesAfter initial past) ∧
      access.perform.Yields a (access.replyFrom (Access.bytesAfter initial past)) b ∧
      b.system.Consists place (Access.bytesAfter initial (past ++ [access])) := by
  let node : Node := ⟨path, place⟩
  have hstart : (Attached.mk ⟨some node, none, none⟩ fs).OnOneNode node
      (Access.bytesAfter initial []) := ⟨rfl, hfile⟩
  have hstep (past : List Access) (x : Access) (u : Attached Files)
      (hu : u.OnOneNode node (Access.bytesAfter initial past)) :
      ∃ reply b, x.perform.Yields u reply b ∧
        b.OnOneNode node (Access.bytesAfter initial (past ++ [x])) := by
    obtain ⟨b, hperform, hb⟩ := hu.exists_yields_perform x
    rw [← Access.bytesAfter_concat] at hb
    exact ⟨_, b, hperform, hb⟩
  obtain ⟨replies, a, hpast, ha⟩ := exists_yields_mapM
    (P := fun past (a : Attached Files) => a.OnOneNode node (Access.bytesAfter initial past))
    hstart hstep past
  obtain ⟨b, hperform, hb⟩ := ha.exists_yields_perform access
  rw [← Access.bytesAfter_concat] at hb
  exact ⟨_, replies, a, b, Transport.yields_openNodes_single hopen, hpast, ha.consists, hperform,
    hb.consists⟩

/-- A host with a card whose node is a file of six bytes. -/
def Files.withSixBytes : Files :=
  (Files.fresh "work").set ["card"] { kind := .regular (.ofBytes ⟨#[1, 2, 3, 4, 5, 6]⟩) }

theorem Files.openNode_withSixBytes : withSixBytes.openNode "/card" = .ok ["card"] := by cbv

theorem Files.consists_withSixBytes : withSixBytes.Consists ["card"] [1, 2, 3, 4, 5, 6] :=
  consists_of_get?_eq rfl

/-- A word is written over the end of the file, and a byte beyond a gap.  Then a read starts in the
gap and runs past the new end. -/
theorem single_node_is_byte_memory_past_the_end :
    Files.withSixBytes.openNode "/card" = .ok ["card"] ∧
    Files.withSixBytes.Consists ["card"] [1, 2, 3, 4, 5, 6] ∧
    ∃ (transport : Transport) (replies : List Reply) (a b : Attached Files),
      (Transport.openNodes (.single "/card")).Yields .withSixBytes (.ok transport)
        .withSixBytes ∧
      ([Access.writeRegister 3 0xD0C0B0A0, .writeBlock ⟨#[0xEE]⟩ 9].mapM Access.perform).Yields
        ⟨transport, .withSixBytes⟩ replies a ∧
      a.system.Consists ["card"] [1, 2, 3, 0xA0, 0xB0, 0xC0, 0xD0, 0, 0, 0xEE] ∧
      (Access.readBlock [7, 7, 7, 7] 8).perform.Yields a
        (.received [0, 0xEE, 7, 7] (.error (.transfer .toHost 4 8 (.short 2)))) b ∧
      b.system.Consists ["card"] [1, 2, 3, 0xA0, 0xB0, 0xC0, 0xD0, 0, 0, 0xEE] := by
  exact ⟨Files.openNode_withSixBytes, Files.consists_withSixBytes,
    single_node_is_byte_memory Files.openNode_withSixBytes Files.consists_withSixBytes
      [.writeRegister 3 0xD0C0B0A0, .writeBlock ⟨#[0xEE]⟩ 9] (.readBlock [7, 7, 7, 7] 8)⟩

end RadioFrontEnd
