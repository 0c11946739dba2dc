import RadioFrontEnd.Proofs.SingleNode

/-!
# One call, one answer

What a system answers to a positioned call is not known beforehand: it may move any number of bytes,
or refuse with any number.  This file says what every operation of an open card makes of such an
answer, on every system and with every choice of nodes.

`Recorded` puts a record of its calls to a system, so that it can be said how many there were.
`Direction.IsTold` says what has to be told of the answer to a bulk transfer, up to the three
questions that callers ask of a failure, and `Word.Arrives` says which word a register read has to
give.  `one_answer_decides_each_operation` is the result: each operation makes one call, on the node
that carries it, and what it gives is what its answer comes to.
-/

namespace RadioFrontEnd

open RadioFrontEnd.Action

/-! ## Systems with a record -/

/-- A positioned call to a system. -/
inductive PositionedCall where
  /-- A read of up to so many bytes. -/
  | read (file : Place) (length offset : Nat)
  /-- A write of some bytes. -/
  | write (file : Place) (data : ByteArray) (offset : Nat)

/-- A system, and the calls that were made to it, oldest first. -/
structure Recorded (ω : Type) where
  /-- The system. -/
  system : ω
  /-- The calls. -/
  calls : List PositionedCall

/-- Every call is put on the record, and the system answers it. -/
instance {ω : Type} [PositionedIO ω] : PositionedIO (Recorded ω) where
  pread r file length offset :=
    let answer := PositionedIO.pread r.system file length offset
    (answer.1, ⟨answer.2, r.calls ++ [.read file length offset]⟩)
  pwrite r file data offset :=
    let answer := PositionedIO.pwrite r.system file data offset
    (answer.1, ⟨answer.2, r.calls ++ [.write file data offset]⟩)

/-- A card on some nodes, with its system on record. -/
def Attached.recording {ω : Type} (transport : Transport) (system : ω)
    (calls : List PositionedCall) : Attached (Recorded ω) :=
  ⟨transport, ⟨system, calls⟩⟩

/-! ## What an answer comes to -/

/-- The word that a register read gives for an answer of the system. -/
inductive Word.Arrives : Except Errno ByteArray → UInt32 → Prop
  /-- Four bytes are the word, lowest first. -/
  | whole {bytes : ByteArray} (hsize : bytes.size = 4) :
    Arrives (.ok bytes) (ofLittleEndian bytes.data.toList)
  /-- Any other number of bytes is no word. -/
  | short {bytes : ByteArray} (hsize : bytes.size ≠ 4) : Arrives (.ok bytes) 0
  /-- The system refused. -/
  | refused {errno : Errno} : Arrives (.error errno) 0

/-- What is told about a bulk transfer for which the system moved so many bytes, or refused. -/
structure Direction.IsTold (direction : Direction) (length : Nat) (offset : UInt32)
    (answer : Except Errno Nat) (outcome : Except FrontEndError Unit) : Prop where
  /-- It is complete exactly if all bytes were moved. -/
  ok_iff : outcome = .ok () ↔ answer = .ok length
  /-- It is short exactly if another number of bytes was moved, and this number is told. -/
  short_iff : ∀ moved, outcome = .error (.transfer direction length offset (.short moved)) ↔
    answer = .ok moved ∧ moved ≠ length
  /-- It is refused exactly if the system refused, and the number of the refusal is told. -/
  system_iff : ∀ errno, outcome = .error (.transfer direction length offset (.system errno)) ↔
    answer = .error errno
  /-- The number of a failure is that of the refusal. -/
  errno?_iff : ∀ e, outcome = .error e → ∀ errno, e.errno? = some errno ↔ answer = .error errno
  /-- The transfer can be tried again after a short one, and after three of the refusals. -/
  isRecoverable_iff : ∀ e, outcome = .error e → (e.isRecoverable = true ↔
    (∃ moved, answer = .ok moved) ∨ answer = .error .interrupted ∨ answer = .error .tryAgain ∨
      answer = .error .ioFailure)
  /-- A permission is never what is lacking. -/
  isPermission_eq : ∀ e, outcome = .error e → e.isPermission = false

theorem Word.arrives_ofAnswer (answer : Except Errno ByteArray) :
    Arrives answer (ofAnswer answer) := by
  cases answer with
  | error errno => exact .refused
  | ok bytes =>
    rw [ofAnswer]
    split_ifs with hsize
    · rw [ofBytes?_eq_ofLittleEndian hsize, Option.getD_some]
      exact .whole hsize
    · exact .short hsize

theorem Direction.isTold_taken (direction : Direction) (length : Nat) (offset : UInt32)
    (answer : Except Errno Nat) :
    direction.IsTold length offset answer
      ((Attached.taken length answer).mapError (.transfer direction length offset)) := by
  cases answer with
  | error errno =>
    rw [Attached.taken, Except.mapError]
    constructor <;> simp [FrontEndError.errno?, FrontEndError.isRecoverable,
      FrontEndError.isPermission, or_assoc]
  | ok moved =>
    rw [Attached.taken]
    split_ifs with h
    · subst h
      constructor <;> simp [Except.mapError]
    · constructor <;> simp [Except.mapError, h, FrontEndError.errno?,
        FrontEndError.isRecoverable, FrontEndError.isPermission]

/-! ## The operations -/

/-- **Each operation of an open card is decided by one answer.**  It makes one call to the system,
on the node that carries it, and no second one.  A bulk transfer is complete exactly if the system
moved all bytes, and else it fails with what the system said.  A register read gives the word if
all of it came, and zero if not; a register write gives nothing away. -/
theorem one_answer_decides_each_operation {ω : Type} [PositionedIO ω] (user : Node)
    (toCard toHost : Option Node) (system : ω) (calls : List PositionedCall) :
    let card : ω → List PositionedCall → Attached (Recorded ω) :=
      Attached.recording ⟨some user, toCard, toHost⟩
    (∀ (data : ByteArray) (offset : UInt32), ∃ answer after outcome,
      PositionedIO.pwrite system (toCard.getD user).file data offset.toNat = (answer, after) ∧
      (FrontEnd.writeBlock data offset :
          Action (Attached (Recorded ω)) (Except FrontEndError Unit)).Yields
        (card system calls) outcome
        (card after (calls ++ [.write (toCard.getD user).file data offset.toNat])) ∧
      Direction.toCard.IsTold data.size offset answer outcome) ∧
    (∀ (length : Nat) (offset : UInt32), ∃ answer after r,
      PositionedIO.pread system (toHost.getD user).file length offset.toNat = (answer, after) ∧
      (FrontEnd.readBlock length offset : Action (Attached (Recorded ω)) BlockRead).Yields
        (card system calls) r
        (card after (calls ++ [.read (toHost.getD user).file length offset.toNat])) ∧
      Direction.toHost.IsTold length offset (answer.map ByteArray.size) r.outcome ∧
      ∀ bytes, answer = .ok bytes → r.arrived = bytes) ∧
    (∀ address : UInt32, ∃ answer after word,
      PositionedIO.pread system user.file 4 address.toNat = (answer, after) ∧
      (FrontEnd.readRegister address : Action (Attached (Recorded ω)) UInt32).Yields
        (card system calls) word (card after (calls ++ [.read user.file 4 address.toNat])) ∧
      Word.Arrives answer word) ∧
    ∀ address v : UInt32, ∃ answer after,
      PositionedIO.pwrite system user.file (Word.toBytes v) address.toNat = (answer, after) ∧
      (FrontEnd.writeRegister address v : Action (Attached (Recorded ω)) Unit).Yields
        (card system calls) ()
        (card after (calls ++ [.write user.file (Word.toBytes v) address.toNat])) := by
  have hnode (bulk : Option Node) : bulk.or (some user) = some (bulk.getD user) := by
    cases bulk <;> rfl
  refine ⟨fun data offset => ?_, fun length offset => ?_, fun address => ?_, fun address v => ?_⟩
  · exact ⟨_, _, _, rfl, Attached.yields_writeBlock_taken (hnode toCard) rfl,
      Direction.isTold_taken _ _ _ _⟩
  · refine ⟨_, _, _, rfl, Attached.yields_readBlock_received (hnode toHost) rfl, ?_, ?_⟩
    · rw [Attached.received_snd]
      exact Direction.isTold_taken _ _ _ _
    · intro bytes hbytes
      exact congrArg (fun answer => (Attached.received length answer).1) hbytes
  · exact ⟨_, _, _, rfl, Attached.yields_readRegister_ofAnswer rfl rfl, Word.arrives_ofAnswer _⟩
  · exact ⟨_, _, rfl, Attached.yields_writeRegister_of_call rfl rfl⟩

end RadioFrontEnd
