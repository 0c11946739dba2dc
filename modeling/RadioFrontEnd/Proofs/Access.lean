import RadioFrontEnd.DmaBuffer
import RadioFrontEnd.Proofs.Action
import RadioFrontEnd.Proofs.Memory

/-!
# Accesses

Everything that a host does to a front end comes down to a few accesses: single registers, blocks
from and to a row of bytes, and blocks from and to a transfer buffer.  `Access.perform` makes an
access on any front end, and the `Reply` is all that the host gets to see.  A read replies with the
whole buffer of the reader, in which the bytes that arrived stand at the front and the rest is as it
was.

A transfer buffer is no more than a row of bytes: filling it is a read into its bytes
(`perform_fill`), and sending from it is a write of its first bytes, if it has that many
(`perform_send_of_le`, `perform_send_of_lt`).  So what holds of all blocks holds of all transfers
(`exists_yields_of_blocks`).

An access need not end: the simulated front end stops with a fault at a read if one of its status
registers has no address.  `FrontEnd.Responsive` says of some states that every register access ends
there without a fault, and leads to such a state again.
-/

namespace RadioFrontEnd

open RadioFrontEnd.Action

/-- One access to a front end. -/
inductive Access where
  /-- Read a register. -/
  | readRegister (address : UInt32)
  /-- Write a register. -/
  | writeRegister (address value : UInt32)
  /-- Read a block over the bytes of a buffer. -/
  | readBlock (buffer : List UInt8) (offset : UInt32)
  /-- Write a block. -/
  | writeBlock (data : ByteArray) (offset : UInt32)
  /-- Fill a transfer buffer. -/
  | fill (buffer : DmaBuffer) (offset : UInt32)
  /-- Send the first bytes of a transfer buffer. -/
  | send (buffer : DmaBuffer) (length : Nat) (offset : UInt32)

/-- What a host gets for an access. -/
inductive Reply where
  /-- Nothing. -/
  | done
  /-- The content of a register. -/
  | word (content : UInt32)
  /-- The buffer of the reader, and whether everything arrived. -/
  | received (buffer : List UInt8) (outcome : Except FrontEndError Unit)
  /-- Whether everything was taken. -/
  | sent (outcome : Except FrontEndError Unit)

/-- What a host is told about a transfer. -/
def Reply.outcome? : Reply → Option (Except FrontEndError Unit)
  | received _ outcome | sent outcome => some outcome
  | done | word _ => none

namespace Access

/-- Where a transfer starts, and for how many bytes it asks.  Accesses to registers are no
transfers. -/
def span? : Access → Option (UInt32 × Nat)
  | readBlock buffer offset => some (offset, buffer.length)
  | writeBlock data offset => some (offset, data.size)
  | fill buffer offset => some (offset, buffer.size)
  | send _ length offset => some (offset, length)
  | readRegister _ | writeRegister _ _ => none

variable {σ : Type} [FrontEnd σ]

/-- Make an access. -/
def perform : Access → Action σ Reply
  | readRegister address => .word <$> FrontEnd.readRegister address
  | writeRegister address v => (fun _ => .done) <$> FrontEnd.writeRegister address v
  | readBlock buffer offset =>
    (fun r => .received (Memory.splice buffer 0 r.arrived.data.toList) r.outcome) <$>
      FrontEnd.readBlock buffer.length offset
  | writeBlock data offset => .sent <$> FrontEnd.writeBlock data offset
  | fill buffer offset => (fun r => .received r.1.bytes.toList r.2) <$> buffer.readFrom offset
  | send buffer length offset => .sent <$> buffer.writeTo length offset

/-- To fill a buffer is to read over its bytes. -/
theorem perform_fill (b : DmaBuffer) (offset : UInt32) :
    (perform (.fill b offset) : Action σ Reply) = perform (.readBlock b.bytes.toList offset) := by
  have hlength : b.bytes.toList.length = b.size := Memory.length_toList b.bytes
  have hsplice (data : ByteArray) :
      (b.bytes.write 0 data).toList = Memory.splice b.bytes.toList 0 data.data.toList :=
    Memory.toList_write (fun i _ hi => absurd hi (Nat.not_lt_zero i)) data
  simp only [perform, DmaBuffer.readFrom, hlength, map_bind, map_pure, hsplice]
  rw [map_eq_pure_bind]

/-- To send from a buffer that is long enough is to write its first bytes. -/
theorem perform_send_of_le {b : DmaBuffer} {length : Nat} (h : length ≤ b.size) (offset : UInt32) :
    (perform (.send b length offset) : Action σ Reply) =
      perform (.writeBlock (b.bytes.read 0 length) offset) := by
  simp only [perform, DmaBuffer.writeTo, if_neg (Nat.not_lt_of_le h)]

/-- To send more than a buffer holds is a short transfer, and the front end is not asked. -/
theorem perform_send_of_lt {b : DmaBuffer} {length : Nat} (h : b.size < length) (offset : UInt32) :
    (perform (.send b length offset) : Action σ Reply) =
      pure (.sent (.error (.transfer .toCard length offset (.short b.size)))) := by
  simp only [perform, DmaBuffer.writeTo, if_pos h, map_pure]

/-- The first bytes of a buffer, as many as it has. -/
theorem toList_read_zero {b : DmaBuffer} {length : Nat} :
    (b.bytes.read 0 length).data.toList = b.bytes.toList.take length := by
  rw [Memory.toList_read, List.drop_zero]

theorem size_read_zero {b : DmaBuffer} {length : Nat} (h : length ≤ b.size) :
    (b.bytes.read 0 length).size = length := by
  rw [Memory.size_read, Memory.readable]
  exact Nat.min_eq_left h

/-- **What holds of all that is told about blocks holds of all that is told about transfers**, if it
also holds when a buffer is too small for what is asked of it. -/
theorem exists_yields_of_blocks {s : σ} {P : UInt32 → Nat → Except FrontEndError Unit → σ → Prop}
    (hwrite : ∀ (data : ByteArray) (offset : UInt32), ∃ outcome t,
      (FrontEnd.writeBlock data offset :
          Action σ (Except FrontEndError Unit)).Yields s outcome t ∧
        P offset data.size outcome t)
    (hread : ∀ (length : Nat) (offset : UInt32), ∃ r t,
      (FrontEnd.readBlock length offset : Action σ BlockRead).Yields s r t ∧
        P offset length r.outcome t)
    (hsmall : ∀ (offset : UInt32) (size length : Nat), size < length →
      P offset length (.error (.transfer .toCard length offset (.short size))) s)
    {access : Access} {offset : UInt32} {length : Nat}
    (hspan : access.span? = some (offset, length)) :
    ∃ reply t outcome, access.perform.Yields s reply t ∧ reply.outcome? = some outcome ∧
      P offset length outcome t := by
  cases access with
  | readRegister | writeRegister => exact absurd hspan.symm (Option.some_ne_none _)
  | readBlock buffer offset =>
    cases hspan
    obtain ⟨r, t, hrun, hr⟩ := hread buffer.length offset
    exact ⟨_, t, r.outcome, hrun.map _, rfl, hr⟩
  | fill b offset =>
    cases hspan
    obtain ⟨r, t, hrun, hr⟩ := hread b.bytes.toList.length offset
    have hsize : b.bytes.toList.length = b.size := Memory.length_toList b.bytes
    rw [perform_fill, ← hsize]
    exact ⟨_, t, r.outcome, hrun.map _, rfl, hr⟩
  | writeBlock data offset =>
    cases hspan
    obtain ⟨outcome, t, hrun, houtcome⟩ := hwrite data offset
    exact ⟨_, t, outcome, hrun.map _, rfl, houtcome⟩
  | send b length offset =>
    cases hspan
    rcases Nat.lt_or_ge b.size length with hlong | hfits
    · rw [perform_send_of_lt hlong]
      exact ⟨_, s, _, yields_pure _ s, rfl, hsmall offset b.size length hlong⟩
    · obtain ⟨outcome, t, hrun, houtcome⟩ := hwrite (b.bytes.read 0 length) offset
      rw [size_read_zero hfits] at houtcome
      rw [perform_send_of_le hfits]
      exact ⟨_, t, outcome, hrun.map _, rfl, houtcome⟩

end Access

/-- From every state with the property, every register access ends without a fault, in a state with
the property. -/
structure FrontEnd.Responsive {σ : Type} [FrontEnd σ] (P : σ → Prop) : Prop where
  /-- Registers can be read. -/
  read : ∀ s address, P s →
    ∃ v t, (FrontEnd.readRegister address).Yields s v t ∧ P t
  /-- Registers can be written. -/
  write : ∀ s address v, P s →
    ∃ t, (FrontEnd.writeRegister address v).Yields s () t ∧ P t

end RadioFrontEnd
