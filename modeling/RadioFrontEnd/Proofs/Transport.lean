import RadioFrontEnd.Proofs.Action
import RadioFrontEnd.Proofs.Memory
import RadioFrontEnd.Transport

/-!
# The transport, on any system and on regular files

Every operation of an attached front end is one positioned call to the system behind it, and its
result is told by the answer to this call.  The first section says so for a system of which nothing
is known: `Attached.received` and `Attached.taken` are what a positioned read and a positioned write
make of an answer, and each operation has a lemma in terms of them.  On a closed card nothing is
called.

The rest is about nodes that are regular files.  Then the system answers every positioned call with
the bytes that are there, so a register is a word of the file of the register node, and a bulk
transfer is a read or a write of the file of its node.  `Files.Regular` says what a file holds, and
`Files.Rewritten` that one file got a new content and no other file changed.  No lemma unfolds the
transport again.
-/

namespace RadioFrontEnd

open RadioFrontEnd.Action

/-! ## Any system -/

/-- The word that an answer of the system is, or zero if the answer is not four bytes. -/
def Word.ofAnswer : Except Errno ByteArray → UInt32
  | .ok bytes => if bytes.size = 4 then (ofBytes? bytes).getD 0 else 0
  | .error _ => 0

theorem Word.ofAnswer_read (content : Memory) (position : Nat) :
    ofAnswer (.ok (content.read position 4)) =
      if position + 4 ≤ content.size then content.wordAt position else 0 := by
  rw [ofAnswer, Memory.size_read]
  by_cases hsize : position + 4 ≤ content.size
  · have hfull : content.readable position 4 = 4 := by
      rw [Memory.readable]
      omega
    rw [if_pos hfull, if_pos hsize, Memory.ofBytes?_read hsize, Option.getD_some]
  · have hshort : content.readable position 4 ≠ 4 := by
      rw [Memory.readable]
      omega
    rw [if_neg hshort, if_neg hsize]

namespace Attached

section AnySystem

variable {ω : Type} [PositionedIO ω] {a : Attached ω} {node user : Node} {system : ω}

/-- What a positioned read makes of an answer of the system. -/
def received (length : Nat) : Except Errno ByteArray → ByteArray × Except TransferFailure Unit
  | .ok bytes => (bytes, if bytes.size = length then .ok () else .error (.short bytes.size))
  | .error errno => (.empty, .error (.system errno))

/-- What a positioned write makes of an answer of the system. -/
def taken (length : Nat) : Except Errno Nat → Except TransferFailure Unit
  | .ok moved => if moved = length then .ok () else .error (.short moved)
  | .error errno => .error (.system errno)

theorem received_snd (length : Nat) (answer : Except Errno ByteArray) :
    (received length answer).2 = taken length (answer.map ByteArray.size) := by
  cases answer <;> rfl

theorem yields_readAt_received {length : Nat} {offset : UInt32} {answer : Except Errno ByteArray}
    (hcall : PositionedIO.pread a.system node.file length offset.toNat = (answer, system)) :
    (readAt node length offset).Yields a (received length answer) { a with system } := by
  refine (yields_get a).bind ?_
  rw [hcall]
  refine (yields_set a { a with system }).bind ?_
  cases answer with
  | error errno => exact yields_pure _ _
  | ok bytes =>
    rw [received]
    dsimp only
    split_ifs
    · exact yields_pure _ _
    · exact yields_pure _ _

theorem yields_writeAt_taken {data : ByteArray} {offset : UInt32} {answer : Except Errno Nat}
    (hcall : PositionedIO.pwrite a.system node.file data offset.toNat = (answer, system)) :
    (writeAt node data offset).Yields a (taken data.size answer) { a with system } := by
  refine (yields_get a).bind ?_
  rw [hcall]
  refine (yields_set a { a with system }).bind ?_
  cases answer with
  | error errno => exact yields_pure _ _
  | ok moved =>
    rw [taken]
    dsimp only
    split_ifs
    · exact yields_pure _ _
    · exact yields_pure _ _

/-- A register read is one call for four bytes, and zero unless they all come. -/
theorem yields_readRegister_ofAnswer {address : UInt32} {answer : Except Errno ByteArray}
    (huser : a.transport.user = some user)
    (hcall : PositionedIO.pread a.system user.file 4 address.toNat = (answer, system)) :
    (FrontEnd.readRegister address : Action (Attached ω) UInt32).Yields a (Word.ofAnswer answer)
      { a with system } := by
  refine (yields_get a).bind ?_
  rw [huser]
  refine (yields_readAt_received hcall).bind ?_
  cases answer with
  | error errno => exact (yields_report _ _ _).bind (yields_pure 0 _)
  | ok bytes =>
    rw [received, Word.ofAnswer]
    split_ifs
    · exact yields_pure _ _
    · exact (yields_report _ _ _).bind (yields_pure 0 _)

/-- A register write is one call, and nothing is told about its answer. -/
theorem yields_writeRegister_of_call {address v : UInt32} {answer : Except Errno Nat}
    (huser : a.transport.user = some user)
    (hcall : PositionedIO.pwrite a.system user.file (Word.toBytes v) address.toNat =
      (answer, system)) :
    (FrontEnd.writeRegister address v : Action (Attached ω) Unit).Yields a ()
      { a with system } := by
  refine (yields_get a).bind ?_
  rw [huser]
  refine (yields_writeAt_taken hcall).bind ?_
  cases taken (Word.toBytes v).size answer with
  | ok _ => exact yields_pure () _
  | error cause => exact yields_report _ _ _

theorem yields_failTransfer {σ : Type} (node : Node) (direction : Direction) (length : Nat)
    (offset : UInt32) (cause : TransferFailure) (s : σ) :
    (failTransfer node direction length offset cause).Yields s
      (.transfer direction length offset cause) s :=
  (yields_report _ _ s).bind (yields_pure _ s)

/-- A bulk write is one call, and what its answer comes to is told with the transfer. -/
theorem yields_writeBlock_taken {data : ByteArray} {offset : UInt32} {answer : Except Errno Nat}
    (hnode : a.transport.bulkNode? .toCard = some node)
    (hcall : PositionedIO.pwrite a.system node.file data offset.toNat = (answer, system)) :
    (FrontEnd.writeBlock data offset :
        Action (Attached ω) (Except FrontEndError Unit)).Yields a
      ((taken data.size answer).mapError (.transfer .toCard data.size offset))
      { a with system } := by
  refine (yields_get a).bind ?_
  rw [hnode]
  refine (yields_writeAt_taken hcall).bind ?_
  cases taken data.size answer with
  | ok _ => exact yields_pure _ _
  | error cause => exact (yields_failTransfer node .toCard _ offset cause _).bind (yields_pure _ _)

/-- A bulk read is one call likewise. -/
theorem yields_readBlock_received {length : Nat} {offset : UInt32}
    {answer : Except Errno ByteArray} (hnode : a.transport.bulkNode? .toHost = some node)
    (hcall : PositionedIO.pread a.system node.file length offset.toNat = (answer, system)) :
    (FrontEnd.readBlock length offset : Action (Attached ω) BlockRead).Yields a
      ⟨(received length answer).1,
        (received length answer).2.mapError (.transfer .toHost length offset)⟩
      { a with system } := by
  refine (yields_get a).bind ?_
  rw [hnode]
  refine (yields_readAt_received hcall).bind ?_
  rcases received length answer with ⟨bytes, cause | _⟩
  · exact (yields_failTransfer node .toHost length offset cause _).bind (yields_pure _ _)
  · exact yields_pure _ _

theorem yields_readRegister_of_closed (huser : a.transport.user = none) (address : UInt32) :
    (FrontEnd.readRegister address : Action (Attached ω) UInt32).Yields a 0 a := by
  refine (yields_get a).bind ?_
  rw [huser]
  exact (yields_report _ _ a).bind (yields_pure 0 a)

theorem yields_writeRegister_of_closed (huser : a.transport.user = none) (address v : UInt32) :
    (FrontEnd.writeRegister address v : Action (Attached ω) Unit).Yields a () a := by
  refine (yields_get a).bind ?_
  rw [huser]
  exact yields_report _ _ a

theorem yields_writeBlock_of_closed (hnode : a.transport.bulkNode? .toCard = none)
    (data : ByteArray) (offset : UInt32) :
    (FrontEnd.writeBlock data offset : Action (Attached ω) (Except FrontEndError Unit)).Yields a
      (.error .notOpen) a := by
  refine (yields_get a).bind ?_
  rw [hnode]
  exact yields_pure _ a

theorem yields_readBlock_of_closed (hnode : a.transport.bulkNode? .toHost = none) (length : Nat)
    (offset : UInt32) :
    (FrontEnd.readBlock length offset : Action (Attached ω) BlockRead).Yields a
      ⟨.empty, .error .notOpen⟩ a := by
  refine (yields_get a).bind ?_
  rw [hnode]
  exact yields_pure _ a

end AnySystem

end Attached

/-! ## Regular files -/

namespace Files

/-- The file at a place is regular and holds the content. -/
def Regular (fs : Files) (place : Place) (content : Memory) : Prop :=
  ∃ denied, fs.get? place = some ⟨.regular content, denied⟩

/-- The file at a place got a new content, and no other file changed. -/
structure Rewritten (fs fs' : Files) (place : Place) (content : Memory) : Prop where
  /-- The file holds the new content. -/
  regular : fs'.Regular place content
  /-- Every other file is as it was. -/
  get?_eq : ∀ q, q ≠ place → fs'.get? q = fs.get? q

theorem get?_set_file (fs : Files) (place q : Place) (file : File) :
    (fs.set place file).get? q = if place = q then some file else fs.get? q :=
  Table.get?_set fs.table place q file

variable {fs fs' : Files} {place : Place} {content : Memory}

theorem Regular.unique {content' : Memory} (h : fs.Regular place content)
    (h' : fs.Regular place content') : content = content' := by
  obtain ⟨denied, h⟩ := h
  obtain ⟨denied', h'⟩ := h'
  rw [h] at h'
  cases h'
  rfl

theorem Regular.pread_eq (h : fs.Regular place content) (length offset : Nat) :
    fs.pread place length offset = .ok (content.read offset length) := by
  obtain ⟨denied, h⟩ := h
  rw [pread, h]

theorem Regular.exists_pwrite_eq (h : fs.Regular place content) (data : ByteArray) (offset : Nat) :
    ∃ fs', fs.pwrite place data offset = (.ok data.size, fs') ∧
      Rewritten fs fs' place (content.write offset data) := by
  obtain ⟨denied, h⟩ := h
  refine ⟨fs.set place ⟨.regular (content.write offset data), denied⟩, ?_, ?_⟩
  · rw [pwrite, h]
  · refine ⟨⟨denied, ?_⟩, fun q hq => ?_⟩
    · rw [get?_set_file, if_pos rfl]
    · rw [get?_set_file, if_neg (Ne.symm hq)]

theorem Rewritten.regular_of_ne {q : Place} {other : Memory} (h : Rewritten fs fs' place content)
    (hq : q ≠ place) (hother : fs.Regular q other) : fs'.Regular q other := by
  obtain ⟨denied, hother⟩ := hother
  exact ⟨denied, (h.get?_eq q hq).trans hother⟩

end Files

namespace Attached

variable {a : Attached Files} {node user : Node} {content : Memory}

/-! ## Positioned calls -/

/-- A regular file answers a read with what is there. -/
theorem pread_eq_of_regular (h : a.system.Regular node.file content) (length offset : Nat) :
    PositionedIO.pread a.system node.file length offset =
      (.ok (content.read offset length), a.system) :=
  congrArg (·, a.system) (h.pread_eq length offset)

theorem received_read (content : Memory) (offset length : Nat) :
    received length (.ok (content.read offset length)) =
      (content.read offset length,
        if content.readable offset length = length then .ok ()
        else .error (.short (content.readable offset length))) := by
  rw [received, Memory.size_read]

/-! ## Registers -/

/-- A register is a word of the file; where the file is too short for it, it reads as zero. -/
theorem yields_readRegister (huser : a.transport.user = some user)
    (h : a.system.Regular user.file content) (address : UInt32) :
    (FrontEnd.readRegister address : Action (Attached Files) UInt32).Yields a
      (if address.toNat + 4 ≤ content.size then content.wordAt address.toNat else 0) a := by
  rw [← Word.ofAnswer_read]
  exact yields_readRegister_ofAnswer huser (pread_eq_of_regular h 4 address.toNat)

theorem exists_yields_writeRegister (huser : a.transport.user = some user)
    (h : a.system.Regular user.file content) (address v : UInt32) :
    ∃ fs', (FrontEnd.writeRegister address v : Action (Attached Files) Unit).Yields a ()
        { a with system := fs' } ∧
      Files.Rewritten a.system fs' user.file
        (content.write address.toNat (Word.toBytes v)) := by
  obtain ⟨fs', hpwrite, hfs'⟩ := h.exists_pwrite_eq (Word.toBytes v) address.toNat
  exact ⟨fs', yields_writeRegister_of_call huser hpwrite, hfs'⟩

/-! ## Bulk transfers -/

theorem exists_yields_writeBlock (hnode : a.transport.bulkNode? .toCard = some node)
    (h : a.system.Regular node.file content) (data : ByteArray) (offset : UInt32) :
    ∃ fs', (FrontEnd.writeBlock data offset :
        Action (Attached Files) (Except FrontEndError Unit)).Yields a (.ok ())
        { a with system := fs' } ∧
      Files.Rewritten a.system fs' node.file (content.write offset.toNat data) := by
  obtain ⟨fs', hpwrite, hfs'⟩ := h.exists_pwrite_eq data offset.toNat
  have hwrite := yields_writeBlock_taken hnode hpwrite
  rw [taken, if_pos rfl] at hwrite
  exact ⟨fs', hwrite, hfs'⟩

/-- A bulk read brings what is there, and fails as short if that is not all. -/
theorem yields_readBlock (hnode : a.transport.bulkNode? .toHost = some node)
    (h : a.system.Regular node.file content) (length : Nat) (offset : UInt32) :
    (FrontEnd.readBlock length offset : Action (Attached Files) BlockRead).Yields a
      ⟨content.read offset.toNat length,
        if content.readable offset.toNat length = length then .ok ()
        else .error (.transfer .toHost length offset
          (.short (content.readable offset.toNat length)))⟩ a := by
  have hread := yields_readBlock_received hnode (pread_eq_of_regular h length offset.toNat)
  rw [received_read, apply_ite (Except.mapError _)] at hread
  exact hread

/-! ## Closing -/

theorem yields_close (a : Attached Files) :
    (close : Action (Attached Files) Unit).Yields a () { a with transport := .closed } := by
  refine (yields_get a).bind ((yields_set a _).bind ?_)
  exact yields_forM fun node _ => yields_report _ _ _

end Attached
end RadioFrontEnd
