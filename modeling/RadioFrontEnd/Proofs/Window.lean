import RadioFrontEnd.Proofs.Access
import RadioFrontEnd.Proofs.Simulator

/-!
# The window is a memory of bytes

The window of the simulated device is meant to be the plainest thing there is: bytes that hold what
was written to them last, and transfers that fit or do not happen.  This file says so for any run of
accesses, with register loads by the hardware in between, on a device with any register map.

What the window should hold is told from the run alone: `lastStored` looks back from the end of the
run for the last block that was stored over a position.  Which blocks are stored, and what a transfer
replies, is decided by whether the span ends within the window, in unbounded numbers
(`stored?`, `reply?`).  The device checks its span with a minimum and two comparisons instead;
`checkSpan_eq` says that this comes to the same.

The register map need not make sense, so a register read may end with a fault.  It leaves the window
alone in that case too, and the run goes on after it.
-/

namespace RadioFrontEnd

open RadioFrontEnd.Action

namespace Simulator

/-! ## What a transfer should do -/

/-- A transfer succeeds if its span ends within the window.  Otherwise it is short, and what was
possible is the part of the window from its offset on. -/
def spanOutcome (direction : Direction) (length : Nat) (offset : UInt32) :
    Except FrontEndError Unit :=
  if offset.toNat + length ≤ windowSize then .ok ()
  else .error (.transfer direction length offset (.short (windowSize - offset.toNat)))

/-- What a read into a buffer replies, when the window holds the given bytes. -/
def spanRead (bytes : Nat → UInt8) (buffer : List UInt8) (offset : UInt32) : Reply :=
  .received
    (if offset.toNat + buffer.length ≤ windowSize then
      (List.range buffer.length).map fun k => bytes (offset.toNat + k)
    else buffer)
    (spanOutcome .toHost buffer.length offset)

/-- What a transfer replies, when the window holds the given bytes.  Accesses to registers are no
transfers. -/
def reply? (bytes : Nat → UInt8) : Access → Option Reply
  | .readBlock buffer offset => some (spanRead bytes buffer offset)
  | .fill buffer offset => some (spanRead bytes buffer.bytes.toList offset)
  | .writeBlock data offset => some (.sent (spanOutcome .toCard data.size offset))
  | .send buffer length offset =>
    some (.sent (if buffer.size < length then
      .error (.transfer .toCard length offset (.short buffer.size))
    else spanOutcome .toCard length offset))
  | .readRegister _ | .writeRegister _ _ => none

/-- The bytes that a transfer stores in the window, and where they start. -/
def stored? : Access → Option (Nat × List UInt8)
  | .writeBlock data offset =>
    if offset.toNat + data.size ≤ windowSize then some (offset.toNat, data.data.toList) else none
  | .send buffer length offset =>
    if length ≤ buffer.size ∧ offset.toNat + length ≤ windowSize then
      some (offset.toNat, buffer.bytes.toList.take length)
    else none
  | .readBlock _ _ | .fill _ _ | .readRegister _ | .writeRegister _ _ => none

/-! ## What happened so far -/

/-- Something that happens to a device. -/
inductive Use where
  /-- The host makes an access. -/
  | access (a : Access)
  /-- The hardware loads a register. -/
  | load (address value : UInt32)
  /-- The hardware loads the status register of a channel. -/
  | setStatus (c : Channel) (raw : UInt32)

namespace Use

/-- A use of the device. -/
def perform : Use → Action Simulator Reply
  | access a => a.perform
  | load address v => (fun _ => .done) <$> .modify (Simulator.load · address v)
  | setStatus c raw => (fun _ => .done) <$> Simulator.setStatus c raw

/-- A use of the device, to its end or to its fault. -/
def attempt (use : Use) : Action Simulator (Except Fault Reply) := use.perform.attempt

/-- The byte that a use stores at a position of the window, if it stores one there. -/
def byte? (i : Nat) : Use → Option UInt8
  | access a => (stored? a).bind fun block => if block.1 ≤ i then block.2[i - block.1]? else none
  | load _ _ | setStatus _ _ => none

end Use

/-- The byte that was stored last at a position; zero if none was. -/
def lastStored (past : List Use) (i : Nat) : UInt8 :=
  (past.reverse.findSome? (Use.byte? i)).getD 0

theorem lastStored_concat (past : List Use) (use : Use) (i : Nat) :
    lastStored (past ++ [use]) i = (use.byte? i).getD (lastStored past i) :=
  getD_findSome?_concat (Use.byte? i) 0 past use

/-! ## The device agrees -/

/-- An open device whose window holds the given bytes. -/
structure Holds (bytes : Nat → UInt8) (s : Simulator) : Prop where
  /-- The device is open. -/
  isOpen : s.isOpen = true
  /-- The window has its size. -/
  size_eq : s.window.size = windowSize
  /-- The window holds the bytes. -/
  byte_eq : ∀ i, s.window.byte i = bytes i

variable {bytes : Nat → UInt8} {s t : Simulator}

theorem Holds.of_window_eq (h : s.Holds bytes) (hopen : t.isOpen = s.isOpen)
    (hwindow : t.window = s.window) : t.Holds bytes :=
  ⟨hopen.trans h.isOpen, hwindow ▸ h.size_eq, hwindow ▸ h.byte_eq⟩

/-- **The check of a span is a comparison of its end with that of the window.** -/
theorem checkSpan_eq (hopen : s.isOpen = true) (direction : Direction) (length : Nat)
    (offset : UInt32) :
    s.checkSpan direction length offset = spanOutcome direction length offset := by
  rw [spanOutcome]
  split
  · next h => exact checkSpan_of_le hopen direction h
  · next h => exact checkSpan_of_lt hopen direction (Nat.lt_of_not_le h)

theorem Holds.toList_read (h : s.Holds bytes) {offset : UInt32} {length : Nat}
    (hfits : offset.toNat + length ≤ windowSize) :
    (s.window.read offset.toNat length).data.toList =
      (List.range length).map fun k => bytes (offset.toNat + k) := by
  have hall : s.window.readable offset.toNat length = length := by
    rw [Memory.readable, h.size_eq]
    omega
  rw [Memory.read, hall]
  apply List.ext_getElem
  · simp
  · intro i hi hi'
    simp [h.byte_eq]

/-- A read replies with the bytes of the span, or with the buffer as it was. -/
theorem Holds.yields_readBlock (h : s.Holds bytes) (buffer : List UInt8) (offset : UInt32) :
    (Access.perform (.readBlock buffer offset)).Yields s (spanRead bytes buffer offset) s := by
  have hcheck := checkSpan_eq h.isOpen .toHost buffer.length offset
  rw [spanRead]
  by_cases hfits : offset.toNat + buffer.length ≤ windowSize
  · rw [spanOutcome, if_pos hfits] at hcheck
    have hread := h.toList_read hfits
    have hfull : Memory.splice buffer 0 (s.window.read offset.toNat buffer.length).data.toList =
        (List.range buffer.length).map fun k => bytes (offset.toNat + k) := by
      rw [hread]
      exact Memory.splice_zero_of_length_eq (by rw [List.length_map, List.length_range])
    rw [if_pos hfits, spanOutcome, if_pos hfits, ← hfull]
    exact (yields_readBlock_of_ok hcheck).map _
  · rw [spanOutcome, if_neg hfits] at hcheck
    rw [if_neg hfits, spanOutcome, if_neg hfits]
    exact (yields_readBlock_of_error hcheck).map _

/-- A block over a position takes the place of what was there. -/
theorem byte_write_eq (m : Memory) (offset : Nat) (data : ByteArray) (i : Nat) :
    (m.write offset data).byte i =
      (if offset ≤ i then data.data.toList[i - offset]? else none).getD (m.byte i) := by
  rw [Memory.byte_write]
  by_cases hle : offset ≤ i
  · rw [if_pos hle, Array.getElem?_toList]
    by_cases hlt : i - offset < data.size
    · rw [dif_pos ⟨hle, hlt⟩, Array.getElem?_eq_getElem hlt]
      rfl
    · rw [dif_neg fun hc => hlt hc.2, Array.getElem?_eq_none (Nat.le_of_not_lt hlt)]
      rfl
  · rw [if_neg hle, dif_neg fun hc => hle hc.1]
    rfl

/-- The bytes after an access. -/
def bytesAfter (a : Access) (bytes : Nat → UInt8) (i : Nat) : UInt8 :=
  ((Use.access a).byte? i).getD (bytes i)

theorem bytesAfter_of_stored {a : Access} {offset : Nat} {data : List UInt8}
    (h : stored? a = some (offset, data)) (bytes : Nat → UInt8) (i : Nat) :
    bytesAfter a bytes i =
      (if offset ≤ i then data[i - offset]? else none).getD (bytes i) := by
  rw [bytesAfter, Use.byte?, h]
  rfl

theorem bytesAfter_of_none {a : Access} (h : stored? a = none) (bytes : Nat → UInt8) :
    bytesAfter a bytes = bytes := by
  funext i
  rw [bytesAfter, Use.byte?, h]
  rfl

/-- A write stores its block, or changes nothing. -/
theorem Holds.exists_yields_writeBlock (h : s.Holds bytes) (data : ByteArray) (offset : UInt32) :
    ∃ t, (Access.perform (.writeBlock data offset)).Yields s
        (.sent (spanOutcome .toCard data.size offset)) t ∧
      t.Holds (bytesAfter (.writeBlock data offset) bytes) ∧
      (stored? (.writeBlock data offset) = none → t = s) := by
  have hcheck := checkSpan_eq h.isOpen .toCard data.size offset
  by_cases hfits : offset.toNat + data.size ≤ windowSize
  · have hstored : stored? (.writeBlock data offset) = some (offset.toNat, data.data.toList) :=
      if_pos hfits
    have hsize : (s.window.write offset.toNat data).size = windowSize := by
      rw [Memory.size_write, h.size_eq]
      split
      · rfl
      · exact Nat.max_eq_left hfits
    refine ⟨{ s with window := s.window.write offset.toNat data }, ?_, ⟨h.isOpen, hsize, ?_⟩, ?_⟩
    · rw [spanOutcome, if_pos hfits] at hcheck ⊢
      exact (yields_writeBlock_of_ok hcheck).map _
    · intro i
      rw [byte_write_eq, h.byte_eq, bytesAfter_of_stored hstored]
    · intro hnone
      rw [hstored] at hnone
      exact absurd hnone (Option.some_ne_none _)
  · have hstored : stored? (.writeBlock data offset) = none := if_neg hfits
    refine ⟨s, ?_, ?_, fun _ => rfl⟩
    · rw [spanOutcome, if_neg hfits] at hcheck ⊢
      exact (yields_writeBlock_of_error hcheck).map _
    · rw [bytesAfter_of_none hstored]
      exact h

/-- **One transfer.**  It gives the reply that the bytes of the window call for, and stores what it
should.  If it stores nothing, the device is as it was. -/
theorem Holds.exists_yields_transfer (h : s.Holds bytes) {a : Access} {reply : Reply}
    (hreply : reply? bytes a = some reply) :
    ∃ t, a.perform.Yields s reply t ∧ t.Holds (bytesAfter a bytes) ∧
      (stored? a = none → t = s) := by
  cases a with
  | readBlock buffer offset =>
    cases hreply
    exact ⟨s, h.yields_readBlock buffer offset, h, fun _ => rfl⟩
  | fill b offset =>
    cases hreply
    rw [Access.perform_fill]
    exact ⟨s, h.yields_readBlock b.bytes.toList offset, h, fun _ => rfl⟩
  | writeBlock data offset =>
    cases hreply
    exact h.exists_yields_writeBlock data offset
  | send b length offset =>
    cases hreply
    rcases Nat.lt_or_ge b.size length with hlong | hfits
    · have hstored : stored? (.send b length offset) = none :=
        if_neg fun hc => absurd hc.1 (Nat.not_le_of_lt hlong)
      rw [Access.perform_send_of_lt hlong, if_pos hlong, bytesAfter_of_none hstored]
      exact ⟨s, yields_pure _ s, h, fun _ => rfl⟩
    · have hsize : (b.bytes.read 0 length).size = length := Access.size_read_zero hfits
      have hsame : stored? (.send b length offset) =
          stored? (.writeBlock (b.bytes.read 0 length) offset) := by
        rw [stored?, stored?, hsize, Access.toList_read_zero]
        simp only [hfits, true_and]
      obtain ⟨t, hrun, ht, hnone⟩ := h.exists_yields_writeBlock (b.bytes.read 0 length) offset
      rw [hsize] at hrun
      rw [Access.perform_send_of_le hfits, if_neg (Nat.not_lt_of_le hfits), hsame]
      refine ⟨t, hrun, ?_, hnone⟩
      have hbytes : bytesAfter (.send b length offset) bytes =
          bytesAfter (.writeBlock (b.bytes.read 0 length) offset) bytes := by
        funext i
        rw [bytesAfter, bytesAfter, Use.byte?, Use.byte?, hsame]
      rw [hbytes]
      exact ht
  | readRegister address => exact absurd hreply.symm (Option.some_ne_none reply)
  | writeRegister address v => exact absurd hreply.symm (Option.some_ne_none reply)

/-! ## Registers -/

/-- Does the use transfer a block?  The others work on registers. -/
def Use.isTransfer : Use → Bool
  | access (.readRegister _) | access (.writeRegister _ _) | load _ _ | setStatus _ _ => false
  | access (.readBlock _ _) | access (.writeBlock _ _) | access (.fill _ _)
  | access (.send _ _ _) => true

/-- A register read leaves the window alone, also if the register map stops it. -/
theorem exists_yields_attempt_readRegister (hopen : s.isOpen = true) (address : UInt32) :
    ∃ answer t, (Access.perform (.readRegister address)).attempt.Yields s answer t ∧
      t.isOpen = s.isOpen ∧ t.window = s.window := by
  cases ha : s.map.isStatus address with
  | error fault =>
    exact ⟨_, s, ((faults_readRegister hopen ha).map _).attempt, rfl, rfl⟩
  | ok isStatus =>
    cases isStatus with
    | true => exact ⟨_, _, ((yields_readRegister_of_status hopen ha).map _).attempt, rfl, rfl⟩
    | false => exact ⟨_, s, ((yields_readRegister_of_plain hopen ha).map _).attempt, rfl, rfl⟩

/-- **Work on registers leaves the window alone.** -/
theorem exists_yields_attempt_register (hopen : s.isOpen = true) {use : Use}
    (huse : use.isTransfer = false) :
    ∃ answer t, use.attempt.Yields s answer t ∧ t.isOpen = s.isOpen ∧
      t.window = s.window := by
  cases use with
  | load address v => exact ⟨_, _, ((yields_modify rfl).map _).attempt, rfl, rfl⟩
  | setStatus c raw =>
    cases hc : s.map.status c with
    | ok address =>
      have hrun : (setStatus c raw).Yields s () (s.load address raw) :=
        (yields_get s).bind ((yields_ofExcept hc s).bind (yields_modify rfl))
      exact ⟨_, _, (hrun.map _).attempt, rfl, rfl⟩
    | error fault =>
      have hrun : (setStatus c raw).Faults s fault s :=
        (yields_get s).bind_faults ((faults_ofExcept hc s).bind _)
      exact ⟨_, s, (hrun.map _).attempt, rfl, rfl⟩
  | access a =>
    cases a with
    | readRegister address => exact exists_yields_attempt_readRegister hopen address
    | writeRegister address v =>
      exact ⟨_, _, ((yields_writeRegister hopen address v).map _).attempt, rfl, rfl⟩
    | readBlock | writeBlock | fill | send => exact absurd huse.symm Bool.false_ne_true

/-! ## Runs -/

theorem Use.byte?_of_not_transfer {use : Use} (huse : use.isTransfer = false) (i : Nat) :
    use.byte? i = none := by
  cases use with
  | load | setStatus => rfl
  | access a =>
    cases a with
    | readRegister | writeRegister => rfl
    | readBlock | writeBlock | fill | send => exact absurd huse.symm Bool.false_ne_true

theorem exists_reply_of_transfer (bytes : Nat → UInt8) {a : Access}
    (ha : (Use.access a).isTransfer = true) : ∃ reply, reply? bytes a = some reply := by
  cases a with
  | readRegister | writeRegister => exact absurd ha Bool.false_ne_true
  | readBlock | writeBlock | fill | send => exact ⟨_, rfl⟩

/-- A use of the device keeps the window and the history together. -/
theorem Holds.exists_yields_attempt {past : List Use} (h : s.Holds (lastStored past)) (use : Use) :
    ∃ answer t, use.attempt.Yields s answer t ∧ t.Holds (lastStored (past ++ [use])) := by
  have hafter : lastStored (past ++ [use]) = fun i => (use.byte? i).getD (lastStored past i) :=
    funext (lastStored_concat past use)
  rw [hafter]
  cases huse : use.isTransfer with
  | false =>
    obtain ⟨answer, t, hrun, hopen, hwindow⟩ := exists_yields_attempt_register h.isOpen huse
    simp only [Use.byte?_of_not_transfer huse, Option.getD_none]
    exact ⟨answer, t, hrun, h.of_window_eq hopen hwindow⟩
  | true =>
    cases use with
    | load | setStatus => exact absurd huse Bool.false_ne_true
    | access a =>
      obtain ⟨reply, hreply⟩ := exists_reply_of_transfer (lastStored past) huse
      obtain ⟨t, hrun, ht, -⟩ := h.exists_yields_transfer hreply
      exact ⟨_, t, hrun.attempt, ht⟩

theorem holds_fresh (map : RegisterMap) : (fresh map).Holds (lastStored []) :=
  ⟨rfl, rfl, fun _ => rfl⟩

/-- **The window is a memory of bytes.**  After any run of uses on a fresh device with any register
map, the window holds the bytes that were stored last.  Every transfer that could come next replies
as these bytes and the span demand: it succeeds exactly if its span ends within the window, a read
then brings the bytes of the span, and otherwise the failure says how short the transfer is and the
buffer of the reader is as it was.  A transfer that stores nothing leaves the whole device as it was.
Work on registers leaves the window as it was, even if it ends with a fault. -/
theorem window_is_byte_memory (map : RegisterMap) (past : List Use) :
    ∃ answers u, (past.mapM Use.attempt).Yields (.fresh map) answers u ∧
      (∀ i, u.window.byte i = lastStored past i) ∧
      (∀ a reply, reply? (lastStored past) a = some reply →
        ∃ t, a.perform.Yields u reply t ∧ (stored? a = none → t = u)) ∧
      ∀ use : Use, use.isTransfer = false →
        ∃ answer t, use.attempt.Yields u answer t ∧ t.window = u.window := by
  have hstep (past : List Use) (use : Use) (s : Simulator) (hs : s.Holds (lastStored past)) :=
    hs.exists_yields_attempt use
  obtain ⟨answers, u, hrun, hu⟩ := exists_yields_mapM (f := Use.attempt)
    (P := fun past s => s.Holds (lastStored past)) (holds_fresh map) hstep past
  refine ⟨answers, u, hrun, hu.byte_eq, fun a reply hreply => ?_, fun use huse => ?_⟩
  · obtain ⟨t, ha, -, hnone⟩ := hu.exists_yields_transfer hreply
    exact ⟨t, ha, hnone⟩
  · obtain ⟨answer, t, hanswer, -, hwindow⟩ := exists_yields_attempt_register hu.isOpen huse
    exact ⟨answer, t, hanswer, hwindow⟩

end Simulator
end RadioFrontEnd
