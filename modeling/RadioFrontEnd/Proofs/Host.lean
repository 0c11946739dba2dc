import RadioFrontEnd.Host
import RadioFrontEnd.Proofs.Transport
import RadioFrontEnd.Proofs.Window

/-!
# What the device of a host holds

Behind every device there are bytes at positions: the window of a simulated device, or the content of
the file that is the node for transfers to the host.  `Host.byte?` is the byte at a position, and
there need not be one.  It looks at the device only, and is told without any call to it.

A bulk read that succeeds brings the bytes from its offset on, as many as were asked for, and leaves
the host as it was.  `Host.exists_yields_readBlock` says so for both sorts of devices and for all sorts
of files.
-/

namespace RadioFrontEnd

open RadioFrontEnd.Action

/-! ## Bytes behind a device -/

/-- The byte of a file at a position, if there is one.  The full device has zeros everywhere. -/
def FileKind.byte? : FileKind → Nat → Option UInt8
  | .regular content, i => content.toList[i]?
  | .full, _ => some 0
  | .directory, _ | .pipe, _ | .null, _ => none

/-- The byte of the file at a place, if there is such a file and such a byte. -/
def Files.byte? (fs : Files) (place : Place) (i : Nat) : Option UInt8 :=
  (fs.get? place).bind (·.kind.byte? i)

/-- The byte of the file behind the node for transfers to the host. -/
def Attached.byte? (a : Attached Files) (i : Nat) : Option UInt8 :=
  (a.transport.bulkNode? .toHost).bind (a.system.byte? ·.file i)

/-- If the file is a regular one, these are the bytes of its content. -/
theorem Attached.byte?_of_regular {a : Attached Files} {node : Node} {content : Memory}
    (hnode : a.transport.bulkNode? .toHost = some node)
    (hfile : a.system.Regular node.file content) (i : Nat) :
    a.byte? i = content.toList[i]? := by
  obtain ⟨denied, hfile⟩ := hfile
  rw [byte?, hnode, Option.bind_some, Files.byte?, hfile]
  rfl

namespace Host

/-- The byte that the device has at a position for transfers to the host, if there is one. -/
def byte? (h : Host) (i : Nat) : Option UInt8 :=
  match h.device with
  | .simulated s => s.window.toList[i]?
  | .attached t => Attached.byte? ⟨t, h.files⟩ i

/-- From an offset on, the device holds the given bytes. -/
def Holds (h : Host) (offset : Nat) (bytes : List UInt8) : Prop :=
  ∀ i < bytes.length, h.byte? (offset + i) = bytes[i]?

/-- The window of a simulated device has its size, as it has in all that a fresh device comes to. -/
def HasWholeWindow (h : Host) : Prop :=
  ∀ s, h.device = .simulated s → s.window.size = Simulator.windowSize

theorem hasWholeWindow_of_holds {bytes : Nat → UInt8} {s : Simulator} (hs : s.Holds bytes)
    (files : Files) : HasWholeWindow ⟨files, .simulated s⟩ := by
  rintro s ⟨⟩
  exact hs.size_eq

theorem hasWholeWindow_of_attached (t : Transport) (files : Files) :
    HasWholeWindow ⟨files, .attached t⟩ := by
  rintro s ⟨⟩

/-! ## One device of the two -/

variable {α : Type} {files : Files} {ifSimulated : Action Simulator α}
  {ifAttached : Action (Attached Files) α} {x : α}

theorem yields_onDevice_simulated {s t : Simulator} (hrun : ifSimulated.Yields s x t) :
    (onDevice ifSimulated ifAttached).Yields ⟨files, .simulated s⟩ x ⟨files, .simulated t⟩ :=
  @Yields.on Simulator Host α ifSimulated (fun _ => s) (fun s h => { h with device := .simulated s })
    ⟨files, .simulated s⟩ t x hrun

theorem yields_onDevice_attached {t : Transport} {a : Attached Files}
    (hrun : ifAttached.Yields ⟨t, files⟩ x a) :
    (onDevice ifSimulated ifAttached).Yields ⟨files, .attached t⟩ x
      ⟨a.system, .attached a.transport⟩ :=
  @Yields.on (Attached Files) Host α ifAttached (fun h => ⟨t, h.files⟩)
    (fun a _ => ⟨a.system, .attached a.transport⟩) ⟨files, .attached t⟩ a x hrun

end Host

/-! ## Bulk reads -/

/-- Bytes that a memory was read for are its bytes from the offset on. -/
theorem Memory.getElem?_toList_read (m : Memory) (offset length : Nat) {i : Nat}
    (hi : i < (m.read offset length).size) :
    m.toList[offset + i]? = (m.read offset length).data.toList[i]? := by
  have hlength : i < length := by
    rw [size_read, readable] at hi
    omega
  rw [toList_read, List.getElem?_take_of_lt hlength, List.getElem?_drop]

/-- What is read from a file is what is in it. -/
theorem Files.byte?_of_pread {fs : Files} {place : Place} {length offset : Nat} {bytes : ByteArray}
    (h : fs.pread place length offset = .ok bytes) {i : Nat} (hi : i < bytes.size) :
    fs.byte? place (offset + i) = bytes.data.toList[i]? := by
  unfold byte?
  unfold pread at h
  split at h
  · next content _ hfile =>
    cases h
    rw [hfile]
    exact content.getElem?_toList_read offset length hi
  · next hfile =>
    cases h
    have hzero := (Memory.zeros length).getElem?_toList_read 0 length hi
    rw [Memory.size_read, Memory.readable] at hi
    have hlt : 0 + i < (Memory.zeros length).size := by
      show 0 + i < length
      omega
    rw [hfile, ← hzero, Memory.getElem?_toList hlt, Memory.byte_zeros]
    rfl
  · cases h
    exact absurd hi (Nat.not_lt_zero i)
  · cases h
  · cases h
  · cases h

theorem Simulator.le_of_checkSpan_eq_ok {s : Simulator} {direction : Direction} {length : Nat}
    {offset : UInt32} (h : s.checkSpan direction length offset = .ok ()) :
    offset.toNat + length ≤ windowSize := by
  by_contra hnot
  cases hopen : s.isOpen with
  | false =>
    rw [checkSpan_of_closed hopen] at h
    cases h
  | true =>
    rw [checkSpan_of_lt hopen direction (Nat.lt_of_not_le hnot)] at h
    cases h

/-- A simulated device reads its window, as a whole or not at all. -/
theorem Simulator.exists_yields_readBlock_window (s : Simulator)
    (hwhole : s.window.size = windowSize) (length : Nat) (offset : UInt32) :
    ∃ r, (FrontEnd.readBlock length offset : Action Simulator BlockRead).Yields s r s ∧
      (r.outcome = .ok () → r.arrived.size = length ∧ ∀ i < r.arrived.size,
        s.window.toList[offset.toNat + i]? = r.arrived.data.toList[i]?) := by
  cases hcheck : s.checkSpan .toHost length offset with
  | error e => exact ⟨_, yields_readBlock_of_error hcheck, fun hok => by cases hok⟩
  | ok =>
    refine ⟨_, yields_readBlock_of_ok hcheck, fun _ => ⟨?_, fun i hi => ?_⟩⟩
    · have hfits := le_of_checkSpan_eq_ok hcheck
      rw [Memory.size_read, Memory.readable, hwhole]
      omega
    · exact s.window.getElem?_toList_read offset.toNat length hi

/-- A card reads the file of its node, and a read that is short is a failure. -/
theorem Attached.exists_yields_readBlock_file (a : Attached Files) (length : Nat) (offset : UInt32) :
    ∃ r, (FrontEnd.readBlock length offset : Action (Attached Files) BlockRead).Yields a r a ∧
      (r.outcome = .ok () → r.arrived.size = length ∧ ∀ i < r.arrived.size,
        a.byte? (offset.toNat + i) = r.arrived.data.toList[i]?) := by
  cases hnode : a.transport.bulkNode? .toHost with
  | none => exact ⟨_, yields_readBlock_of_closed hnode length offset, fun hok => by cases hok⟩
  | some node =>
    cases hread : a.system.pread node.file length offset.toNat with
    | error errno =>
      have hcall : PositionedIO.pread a.system node.file length offset.toNat =
          (.error errno, a.system) := congrArg (·, a.system) hread
      exact ⟨_, yields_readBlock_received hnode hcall, fun hok => by cases hok⟩
    | ok bytes =>
      have hcall : PositionedIO.pread a.system node.file length offset.toNat =
          (.ok bytes, a.system) := congrArg (·, a.system) hread
      refine ⟨_, yields_readBlock_received hnode hcall, fun hok => ⟨?_, fun i hi => ?_⟩⟩
      · by_contra hshort
        have hreceived : (received length (.ok bytes)).2 = .error (.short bytes.size) :=
          if_neg hshort
        rw [hreceived] at hok
        cases hok
      · rw [byte?, hnode, Option.bind_some]
        exact Files.byte?_of_pread hread hi

/-- **A bulk read that succeeds brings what the device holds**, as many bytes as were asked for.  The
host is left as it was. -/
theorem Host.exists_yields_readBlock {h : Host} (hwhole : h.HasWholeWindow) (length : Nat)
    (offset : UInt32) :
    ∃ r, (FrontEnd.readBlock length offset : Action Host BlockRead).Yields h r h ∧
      (r.outcome = .ok () → r.arrived.size = length ∧
        h.Holds offset.toNat r.arrived.data.toList) := by
  obtain ⟨files, device⟩ := h
  cases device with
  | simulated s =>
    obtain ⟨r, hrun, hr⟩ := s.exists_yields_readBlock_window (hwhole s rfl) length offset
    exact ⟨r, yields_onDevice_simulated hrun, hr⟩
  | attached t =>
    obtain ⟨r, hrun, hr⟩ := Attached.exists_yields_readBlock_file ⟨t, files⟩ length offset
    exact ⟨r, yields_onDevice_attached hrun, hr⟩

end RadioFrontEnd
