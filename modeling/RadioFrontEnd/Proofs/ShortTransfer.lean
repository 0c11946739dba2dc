import RadioFrontEnd.Proofs.Transport
import RadioFrontEnd.Proofs.Window

/-!
# Short transfers

A short transfer should say that fewer bytes were moved than the host asked for.  The number of
moved bytes comes from three places: the system counts it for a card on nodes, the simulated device
computes it from the end of its window, and a transfer buffer gives its own size when it is asked
for more than that.  A failure with a number that is not below the number asked for is *falsely
short*.

A card on files and a transfer buffer never fail so.  The simulated device does, in one case: it
takes an offset past the end of its window for a short transfer even if no byte is asked for.
`only_empty_transfers_are_falsely_short` says that there is no other case, and
`empty_transfer_past_the_window_is_falsely_short` is one.
-/

namespace RadioFrontEnd

open RadioFrontEnd.Action

/-! ## What is told -/

/-- A transfer failed as short, but the number of moved bytes is not below the number asked for. -/
def IsFalselyShort : Except FrontEndError Unit → Prop
  | .error (.transfer _ length _ (.short moved)) => length ≤ moved
  | _ => False

/-! ## The simulated device -/

namespace Simulator

/-- The check of a span is falsely short if nothing is asked for past the end of the window. -/
theorem isFalselyShort_checkSpan_iff (s : Simulator) (direction : Direction) (length : Nat)
    (offset : UInt32) :
    IsFalselyShort (s.checkSpan direction length offset) ↔
      s.isOpen = true ∧ length = 0 ∧ windowSize < offset.toNat := by
  cases hopen : s.isOpen with
  | false =>
    rw [checkSpan_of_closed hopen]
    exact ⟨False.elim, fun h => absurd h.1 Bool.false_ne_true⟩
  | true =>
    rw [checkSpan_eq hopen, spanOutcome]
    split_ifs with hfits
    · refine ⟨False.elim, ?_⟩
      rintro ⟨-, hempty, hpast⟩
      omega
    · -- the count is what is left of the window, so it is zero from its end on
      have hcount : IsFalselyShort (.error (.transfer direction length offset
          (.short (windowSize - offset.toNat)))) ↔ length ≤ windowSize - offset.toNat := Iff.rfl
      rw [hcount]
      constructor
      · intro hle
        exact ⟨rfl, by omega, by omega⟩
      · rintro ⟨-, rfl, -⟩
        exact Nat.zero_le _

/-- A transfer on a simulated device, in any state of it. -/
theorem exists_yields_isFalselyShort_iff (s : Simulator) {access : Access} {offset : UInt32}
    {length : Nat} (hspan : access.span? = some (offset, length)) :
    ∃ reply t outcome, access.perform.Yields s reply t ∧ reply.outcome? = some outcome ∧
      (IsFalselyShort outcome ↔ s.isOpen = true ∧ length = 0 ∧ windowSize < offset.toNat) := by
  refine Access.exists_yields_of_blocks (P := fun offset length outcome _ =>
    IsFalselyShort outcome ↔ s.isOpen = true ∧ length = 0 ∧ windowSize < offset.toNat)
    ?_ ?_ ?_ hspan
  · intro data offset
    obtain ⟨t, hrun, -⟩ := s.exists_yields_writeBlock data offset
    exact ⟨_, t, hrun, s.isFalselyShort_checkSpan_iff _ _ _⟩
  · intro length offset
    obtain ⟨r, hrun, houtcome⟩ := s.exists_yields_readBlock length offset
    refine ⟨r, s, hrun, ?_⟩
    rw [houtcome]
    exact s.isFalselyShort_checkSpan_iff _ _ _
  · intro offset size length hlong
    refine ⟨fun hle => absurd hle (Nat.not_le_of_lt hlong), ?_⟩
    rintro ⟨-, rfl, -⟩
    exact absurd hlong (Nat.not_lt_zero size)

end Simulator

/-! ## Cards on nodes -/

/-- A system that never moves more bytes than it is asked for. -/
structure PositionedIO.IsModest (ω : Type) [PositionedIO ω] : Prop where
  /-- A read brings at most the bytes that were asked for. -/
  pread_le : ∀ {system after : ω} {file : Place} {length offset : Nat} {bytes : ByteArray},
    pread system file length offset = (.ok bytes, after) → bytes.size ≤ length
  /-- A write takes at most the bytes that were given. -/
  pwrite_le : ∀ {system after : ω} {file : Place} {data : ByteArray} {offset moved : Nat},
    pwrite system file data offset = (.ok moved, after) → moved ≤ data.size

/-- Files are modest, whatever they are. -/
theorem Files.isModest : PositionedIO.IsModest Files where
  pread_le {fs after place length offset bytes} h := by
    have hread (m : Memory) (start : Nat) : (m.read start length).size ≤ length := by
      rw [Memory.size_read]
      exact Nat.min_le_left _ _
    replace h : fs.pread place length offset = .ok bytes := congrArg Prod.fst h
    rw [pread] at h
    split at h <;> cases h
    · exact hread _ _
    · exact hread _ _
    · exact Nat.zero_le length
  pwrite_le {fs after place data offset moved} h := by
    replace h : (fs.pwrite place data offset).1 = .ok moved := congrArg Prod.fst h
    rw [pwrite] at h
    split at h <;> cases h
    · exact Nat.le_refl _
    · exact Nat.le_refl _

namespace Attached

/-- A count that is not above the number asked for is not told falsely. -/
theorem not_isFalselyShort_taken {direction : Direction} {length : Nat} {offset : UInt32}
    {answer : Except Errno Nat} (hle : ∀ moved, answer = .ok moved → moved ≤ length) :
    ¬ IsFalselyShort ((taken length answer).mapError (.transfer direction length offset)) := by
  cases answer with
  | error errno => exact id
  | ok moved =>
    rw [taken]
    split_ifs with hall
    · exact id
    · intro hge
      exact hall (Nat.le_antisymm (hle moved rfl) hge)

/-- A transfer on a card behind which there is a modest system. -/
theorem exists_yields_not_isFalselyShort {ω : Type} [PositionedIO ω]
    (hmodest : PositionedIO.IsModest ω) (a : Attached ω) {access : Access} {offset : UInt32}
    {length : Nat} (hspan : access.span? = some (offset, length)) :
    ∃ reply b outcome, access.perform.Yields a reply b ∧ reply.outcome? = some outcome ∧
      ¬ IsFalselyShort outcome := by
  refine Access.exists_yields_of_blocks (P := fun _ _ outcome _ => ¬ IsFalselyShort outcome)
    ?_ ?_ (fun _ _ _ hlong hle => absurd hle (Nat.not_le_of_lt hlong)) hspan
  · intro data offset
    cases hnode : a.transport.bulkNode? .toCard with
    | none => exact ⟨_, a, yields_writeBlock_of_closed hnode data offset, id⟩
    | some node =>
      rcases hcall : PositionedIO.pwrite a.system node.file data offset.toNat with ⟨answer, after⟩
      refine ⟨_, _, yields_writeBlock_taken hnode hcall, not_isFalselyShort_taken ?_⟩
      rintro moved rfl
      exact hmodest.pwrite_le hcall
  · intro length offset
    cases hnode : a.transport.bulkNode? .toHost with
    | none => exact ⟨_, a, yields_readBlock_of_closed hnode length offset, id⟩
    | some node =>
      rcases hcall : PositionedIO.pread a.system node.file length offset.toNat with
        ⟨answer, after⟩
      refine ⟨_, _, yields_readBlock_received hnode hcall, ?_⟩
      rw [received_snd]
      refine not_isFalselyShort_taken fun moved hmoved => ?_
      cases answer with
      | error errno => cases hmoved
      | ok bytes =>
        cases hmoved
        exact hmodest.pread_le hcall

end Attached

/-! ## All front ends -/

/-- **A short transfer moved fewer bytes than were asked for, except if none were asked for past the
end of the simulated window.**  This holds for all transfers, of blocks as well as of buffers, on a
simulated device in any state and on a card with any files. -/
theorem only_empty_transfers_are_falsely_short {access : Access} {offset : UInt32} {length : Nat}
    (hspan : access.span? = some (offset, length)) :
    (∀ s : Simulator, ∃ reply t outcome, access.perform.Yields s reply t ∧
      reply.outcome? = some outcome ∧
      (IsFalselyShort outcome ↔
        s.isOpen = true ∧ length = 0 ∧ Simulator.windowSize < offset.toNat)) ∧
    ∀ a : Attached Files, ∃ reply b outcome, access.perform.Yields a reply b ∧
      reply.outcome? = some outcome ∧ ¬ IsFalselyShort outcome :=
  ⟨fun s => s.exists_yields_isFalselyShort_iff hspan,
    fun a => a.exists_yields_not_isFalselyShort Files.isModest hspan⟩

/-- An empty block is asked for one byte past the end of the window. -/
theorem only_empty_transfers_are_falsely_short_past_the_window :
    (Access.writeBlock .empty 1048577).span? = some (1048577, 0) ∧
    (∀ s : Simulator, ∃ reply t outcome,
      (Access.writeBlock .empty 1048577).perform.Yields s reply t ∧
      reply.outcome? = some outcome ∧ (IsFalselyShort outcome ↔
        s.isOpen = true ∧ 0 = 0 ∧ Simulator.windowSize < (1048577 : UInt32).toNat)) ∧
    ∀ a : Attached Files, ∃ reply b outcome,
      (Access.writeBlock .empty 1048577).perform.Yields a reply b ∧
      reply.outcome? = some outcome ∧ ¬ IsFalselyShort outcome :=
  ⟨rfl, @only_empty_transfers_are_falsely_short (.writeBlock .empty 1048577) _ _ rfl⟩

/-- On an open device such a transfer fails as short with no byte moved of none, and passes for one
that can be tried again. -/
theorem empty_transfer_past_the_window_is_falsely_short :
    let failure := FrontEndError.transfer .toCard 0 1048577 (.short 0)
    (Simulator.fresh {}).isOpen = true ∧
    (FrontEnd.writeBlock .empty 1048577 :
        Action Simulator (Except FrontEndError Unit)).Yields (Simulator.fresh {})
      (.error failure) (Simulator.fresh {}) ∧
    IsFalselyShort (.error failure) ∧ failure.isRecoverable = true :=
  ⟨rfl, Simulator.yields_writeBlock_of_error
    (Simulator.checkSpan_of_lt rfl .toCard (by decide)), Nat.le_refl 0, rfl⟩

end RadioFrontEnd
