import RadioFrontEnd.Proofs.Operation
import RadioFrontEnd.Proofs.Session
import RadioFrontEnd.Proofs.Simulator
import RadioFrontEnd.Proofs.Transport

/-!
# A closed front end stays closed

After a front end was closed, nothing that a host does brings it back or reaches what is behind it.
The host is not told much about that.  Registers read as zero and writes to them are dropped, so a
closed front end looks like one without firmware and with four idle FIFOs.  Only bulk transfers say
that nothing is open.

`FrontEnd.Inert` is what the two sorts of device have in common when they are closed: six facts,
one for each operation of the interface and one for closing again.  The answers of everything built
on the interface follow from it alone, so the layers above are gone through once and not once per
device.  The answers do not depend on the state, and `Operation.responseWhenClosed` lists them.

## What is left out

A call of a monitor computes its addresses and masks before it asks the device, and a closed device
does not change that.  `Operation.Allowed` therefore wants the register map of a monitor to have
them all.  Making a monitor and starting a session compute none, so these are allowed with any map.
-/

namespace RadioFrontEnd

open RadioFrontEnd.Action

/-! ## Answers of a closed front end -/

/-- What an access replies on a closed front end.  Sending more than a buffer holds is noticed
before the front end is asked. -/
def Access.replyWhenClosed : Access → Reply
  | readRegister _ => .word 0
  | writeRegister _ _ => .done
  | readBlock buffer _ => .received buffer (.error .notOpen)
  | writeBlock _ _ => .sent (.error .notOpen)
  | fill buffer _ => .received buffer.bytes.toList (.error .notOpen)
  | send buffer length offset =>
    .sent (if length ≤ buffer.size then .error .notOpen
    else .error (.transfer .toCard length offset (.short buffer.size)))

/-- What a call of a monitor gives on a closed front end: an idle FIFO, which has all its room if it
is one towards the card. -/
def Fifo.Monitor.Call.answerWhenClosed (depths : Fifo.Depths) : Call → Option Fifo.Status
  | readStatus c =>
    some {
      occupied := 0
      available := if c.isWrite then depths.get c else 0
      overflowed := false
      overThreshold := false
      underflowed := false }
  | configure _ _ | configureAll _ | reset _ | resetAll => none

/-- The range takes version zero and major version zero. -/
def FirmwareRange.TakesZero (range : FirmwareRange) : Prop :=
  (range.versionMin ≤ 0 ∧ 0 ≤ range.versionMax) ∧ range.majorMin ≤ 0 ∧ 0 ≤ range.majorMax

instance (range : FirmwareRange) : Decidable range.TakesZero :=
  inferInstanceAs (Decidable (_ ∧ _))

namespace Operation

/-- What an operation gives on a closed front end. -/
def responseWhenClosed : Operation → Response
  | access a => .reply a.replyWhenClosed
  | firmware _ => .firmware ⟨0, 0, 0⟩
  | makeMonitor map => .monitor ⟨map, .legacy⟩
  | call m k => .reading (k.answerWhenClosed m.depths)
  | start config =>
    .session (if config.strictFirmware ∧ ¬ config.firmware.TakesZero then
      .error (.unsupportedFirmware ⟨0, 0, 0⟩ config.firmware)
    else .ok ⟨⟨0, 0, 0⟩, ⟨config.registers, .legacy⟩⟩)
  | close => .done

/-- A monitor that is called has all its addresses and masks. -/
def Allowed : Operation → Prop
  | call m _ => m.map.Addressable ∧ m.map.HasMasks
  | access _ | firmware _ | makeMonitor _ | start _ | close => True

instance : DecidablePred Allowed
  | call m _ => inferInstanceAs (Decidable (m.map.Addressable ∧ m.map.HasMasks))
  | access _ | firmware _ | makeMonitor _ | start _ | close => inferInstanceAs (Decidable True)

end Operation

/-! ## What a zero word says -/

theorem Fifo.Status.decode_zero (c : Channel) (depth : UInt32) :
    decode 0 c depth =
      { occupied := 0
        available := if c.isWrite then depth else 0
        overflowed := false
        overThreshold := false
        underflowed := false } := by
  have hfree : free depth 0 = depth := by
    rw [free, if_pos (UInt32.zero_le)]
    exact UInt32.sub_zero depth
  rw [decode, UInt32.zero_and, hfree]
  rfl

theorem FirmwareRange.supports_zero_iff (range : FirmwareRange) :
    range.supports ⟨0, 0, 0⟩ = true ↔ range.TakesZero := by
  simp only [supports, Bool.and_eq_true, decide_eq_true_eq, TakesZero, and_assoc]

theorem Session.outcome_zero (config : Config) :
    outcome config (.decode 0) =
      if config.strictFirmware ∧ ¬ config.firmware.TakesZero then
        .error (.unsupportedFirmware ⟨0, 0, 0⟩ config.firmware)
      else .ok ⟨⟨0, 0, 0⟩, ⟨config.registers, .legacy⟩⟩ := by
  have hcond : (config.strictFirmware && !config.firmware.supports ⟨0, 0, 0⟩) = true ↔
      config.strictFirmware = true ∧ ¬ config.firmware.TakesZero := by
    rw [Bool.and_eq_true, Bool.not_eq_true', ← FirmwareRange.supports_zero_iff,
      Bool.not_eq_true]
  exact if_congr hcond rfl rfl

/-! ## Inert front ends -/

/-- The front end is closed: every operation of the interface gives what a closed front end gives,
and leaves the state as it is.  So does closing it again. -/
structure FrontEnd.Inert {σ : Type} [FrontEnd σ] (shut : Action σ Unit) (s : σ) : Prop where
  /-- The front end says so. -/
  isOpen_eq : FrontEnd.isOpen s = false
  /-- Every register reads as zero. -/
  readRegister : ∀ address, (FrontEnd.readRegister address).Yields s 0 s
  /-- No register is written. -/
  writeRegister : ∀ address v, (FrontEnd.writeRegister address v).Yields s () s
  /-- No block is read. -/
  readBlock : ∀ length offset,
    (FrontEnd.readBlock length offset).Yields s ⟨.empty, .error .notOpen⟩ s
  /-- No block is written. -/
  writeBlock : ∀ data offset, (FrontEnd.writeBlock data offset).Yields s (.error .notOpen) s
  /-- Closing once more changes nothing. -/
  shut : shut.Yields s () s

namespace FrontEnd.Inert

variable {σ : Type} [FrontEnd σ] {shut : Action σ Unit} {s : σ}

/-- Registers answer, in the state as it is and in no other. -/
theorem responsive (h : Inert shut s) : FrontEnd.Responsive (· = s) where
  read := by
    rintro _ address rfl
    exact ⟨0, _, h.readRegister address, rfl⟩
  write := by
    rintro _ address v rfl
    exact ⟨_, h.writeRegister address v, rfl⟩

theorem yields_access (h : Inert shut s) (a : Access) :
    a.perform.Yields s a.replyWhenClosed s := by
  have hread (buffer : List UInt8) (offset : UInt32) :
      (Access.perform (.readBlock buffer offset)).Yields s (.received buffer (.error .notOpen))
        s :=
    (h.readBlock buffer.length offset).map _
  have hwrite (data : ByteArray) (offset : UInt32) :
      (Access.perform (.writeBlock data offset)).Yields s (.sent (.error .notOpen)) s :=
    (h.writeBlock data offset).map _
  cases a with
  | readRegister address => exact (h.readRegister address).map _
  | writeRegister address v => exact (h.writeRegister address v).map _
  | readBlock buffer offset => exact hread buffer offset
  | writeBlock data offset => exact hwrite data offset
  | fill buffer offset =>
    rw [Access.perform_fill]
    exact hread buffer.bytes.toList offset
  | send buffer length offset =>
    rw [Access.replyWhenClosed]
    rcases Nat.lt_or_ge buffer.size length with hlong | hfits
    · rw [Access.perform_send_of_lt hlong, if_neg (Nat.not_le_of_lt hlong)]
      exact yields_pure _ s
    · rw [Access.perform_send_of_le hfits, if_pos hfits]
      exact hwrite (buffer.bytes.read 0 length) offset

theorem yields_call (h : Inert shut s) {m : Fifo.Monitor} (haddresses : m.map.Addressable)
    (hmasks : m.map.HasMasks) (k : Fifo.Monitor.Call) :
    (m.perform k).Yields s (k.answerWhenClosed m.depths) s := by
  obtain ⟨answer, t, hrun, rfl⟩ :=
    Fifo.Monitor.exists_yields_perform h.responsive haddresses hmasks rfl k
  cases k with
  | readStatus c =>
    have hstatus := Fifo.Monitor.yields_readStatus (haddresses.status c) (h.readRegister _)
    rw [Fifo.Status.decode_zero] at hstatus
    exact hstatus.map some
  | configure _ _ | configureAll _ | reset _ | resetAll =>
    obtain ⟨_, _, rfl⟩ := exists_of_yields_map hrun
    exact hrun

/-- **Every operation gives its answer for a closed front end and changes nothing.** -/
theorem yields_perform (h : Inert shut s) {op : Operation} (hop : op.Allowed) :
    (op.perform shut).Yields s op.responseWhenClosed s := by
  cases op with
  | access a => exact (h.yields_access a).map _
  | firmware map => exact (Firmware.yields_read (h.readRegister map.version)).map _
  | makeMonitor map =>
    exact (Fifo.Monitor.yields_forDevice (h.readRegister map.version)).map _
  | call m k => exact (h.yields_call hop.1 hop.2 k).map _
  | start config =>
    have hstart := Session.yields_start (h.readRegister config.registers.version)
    rw [Session.outcome_zero] at hstart
    exact hstart.map _
  | close => exact h.shut.map _

theorem yields_run (h : Inert shut s) {ops : List Operation} (hops : ∀ op ∈ ops, op.Allowed) :
    (ops.mapM (Operation.perform shut)).Yields s (ops.map Operation.responseWhenClosed) s :=
  yields_mapM fun op hop => h.yields_perform (hops op hop)

end FrontEnd.Inert

/-! ## The two sorts of device -/

theorem Simulator.inert {s : Simulator} (hclosed : s.isOpen = false) :
    FrontEnd.Inert (.modify Simulator.close) s where
  isOpen_eq := hclosed
  readRegister := yields_readRegister_of_closed hclosed
  writeRegister := yields_writeRegister_of_closed hclosed
  readBlock length offset :=
    yields_readBlock_of_error (checkSpan_of_closed hclosed .toHost length offset)
  writeBlock data offset :=
    yields_writeBlock_of_error (checkSpan_of_closed hclosed .toCard data.size offset)
  shut := by
    refine yields_modify ?_
    rw [close, ← hclosed]

theorem Attached.inert {a : Attached Files} (hclosed : a.transport = .closed) :
    FrontEnd.Inert Attached.close a where
  isOpen_eq := by
    show a.transport.user.isSome = false
    rw [hclosed]
    rfl
  readRegister := yields_readRegister_of_closed (by rw [hclosed]; rfl)
  writeRegister := yields_writeRegister_of_closed (by rw [hclosed]; rfl)
  readBlock := yields_readBlock_of_closed (by rw [hclosed]; rfl)
  writeBlock := yields_writeBlock_of_closed (by rw [hclosed]; rfl)
  shut := by
    have hclose := yields_close a
    rwa [← hclosed] at hclose

/-- **A closed front end is inert for ever.**  A simulated device and a card on files are closed, in
any state that they may be in.  From then on every run of operations gets the answers of a closed
front end.  It leaves the registers, the log and the window of the simulated device as they were
when it was closed, and all files behind the card. -/
theorem closed_front_end_stays_inert {ops : List Operation} (hops : ∀ op ∈ ops, op.Allowed) :
    (∀ s : Simulator, ∃ t,
      (Operation.close.perform (.modify Simulator.close)).Yields s .done t ∧
      t.isOpen = false ∧ t.registers = s.registers ∧ t.writeLog = s.writeLog ∧
      t.window = s.window ∧
      (ops.mapM (Operation.perform (.modify Simulator.close))).Yields t
        (ops.map Operation.responseWhenClosed) t) ∧
    ∀ a : Attached Files, ∃ b,
      (Operation.close.perform Attached.close).Yields a .done b ∧
      b.isOpen = false ∧ b.system = a.system ∧
      (ops.mapM (Operation.perform Attached.close)).Yields b
        (ops.map Operation.responseWhenClosed) b := by
  refine ⟨fun s => ?_, fun a => ?_⟩
  · have hinert : FrontEnd.Inert (.modify Simulator.close) s.close := Simulator.inert rfl
    exact ⟨s.close, (yields_modify rfl).map _, rfl, rfl, rfl, rfl, hinert.yields_run hops⟩
  · have hinert : FrontEnd.Inert Attached.close { a with transport := .closed } :=
      Attached.inert rfl
    exact ⟨_, (Attached.yields_close a).map _, rfl, rfl, hinert.yields_run hops⟩

/-- A device with firmware is closed, and then every layer is tried. -/
theorem closed_front_end_stays_inert_through_all_layers :
    let s := Simulator.withFirmware 0x020000D0
    let ops : List Operation := [.access (.writeRegister 0x9004 5), .makeMonitor {},
      .call ⟨{}, .v13⟩ (.readStatus .tx), .start { strictFirmware := true },
      .access (.readBlock [7] 0), .close, .access (.readRegister 0xC000)]
    (∀ op ∈ ops, op.Allowed) ∧ ∃ t,
      (Operation.close.perform (.modify Simulator.close)).Yields s .done t ∧
      t.isOpen = false ∧ t.registers = s.registers ∧ t.writeLog = s.writeLog ∧
      t.window = s.window ∧
      (ops.mapM (Operation.perform (.modify Simulator.close))).Yields t
        [.reply .done, .monitor ⟨{}, .legacy⟩, .reading (some ⟨0, 4096, false, false, false⟩),
          .session (.error (.unsupportedFirmware ⟨0, 0, 0⟩ {})),
          .reply (.received [7] (.error .notOpen)), .done, .reply (.word 0)] t := by
  intro s ops
  have hops : ∀ op ∈ ops, op.Allowed := by decide
  exact ⟨hops, (closed_front_end_stays_inert hops).1 s⟩

end RadioFrontEnd
