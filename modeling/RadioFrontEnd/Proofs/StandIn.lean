import RadioFrontEnd.Proofs.Fifo.Monitor
import RadioFrontEnd.Proofs.Mirror

/-!
# The simulated device stands in for a card on files

A host drives a front end by `Request`s: single accesses, a look at the firmware, the calls of a
monitor, and closing.  `Request.perform` is written once for every front end, and gives an `Answer`.
The main result, `simulator_stands_in_for_files`, runs the same requests on a fresh simulated device
and on a card whose nodes are two regular files, and says that all answers are equal.

## 1.  Code for any device

The calls of a monitor are written against the interface, so nothing about them is particular to a
device: if two devices match at the registers that the code accesses, then they match at the call.
The induction over the channels of `forEach` is the only one here.

## 2.  Requests

`Request.Allowed` leaves out what the two devices do differently by nature.

* A read of a status register clears flags on the simulated device, and a file has no flags.
* A block written past the end of the window is refused by the simulated device, and makes a file
  longer.
* An empty read past the end of the window is short on the simulated device and complete on a file.

## 3.  Runs

The devices need not be open.  After a request to close, both give zeros and refuse bulk transfers,
and the files keep what they hold.
-/

namespace RadioFrontEnd

open RadioFrontEnd.Action

/-! ## 1.  Code for any device -/

section AnyDevice

variable {σ τ : Type} [FrontEnd σ] [FrontEnd τ] {rel : σ → τ → Prop}

theorem Firmware.matched_read {map : RegisterMap}
    (hread : Matched rel (FrontEnd.readRegister map.version) (FrontEnd.readRegister map.version)) :
    Matched rel (Firmware.read map) (Firmware.read map) :=
  hread.bind fun word => matched_pure (Firmware.decode word)

namespace Fifo.Monitor

variable {m : Monitor}

theorem matched_configureChannel {c : Channel} {interrupt : Bool} {address : UInt32}
    (haddress : m.map.config c = .ok address)
    (hwrite : Matched rel (FrontEnd.writeRegister address (m.configWord c interrupt))
      (FrontEnd.writeRegister address (m.configWord c interrupt))) :
    Matched rel (m.configureChannel c interrupt) (m.configureChannel c interrupt) := by
  refine (matched_report _ _).bind fun _ => ?_
  exact hwrite.after_ofExcept haddress

theorem matched_resetChannel {c : Channel} {mask : UInt32} (hmask : m.map.resetMask c = .ok mask)
    (hread : Matched rel (FrontEnd.readRegister m.map.reset) (FrontEnd.readRegister m.map.reset))
    (hwrite : ∀ v, Matched rel (FrontEnd.writeRegister m.map.reset v)
      (FrontEnd.writeRegister m.map.reset v)) :
    Matched rel (m.resetChannel c) (m.resetChannel c) := by
  refine Matched.after_ofExcept hmask ?_
  refine hread.bind fun value => ?_
  refine (hwrite _).bind fun _ => ?_
  refine (hwrite _).bind fun _ => ?_
  exact matched_report _ _

omit [FrontEnd σ] [FrontEnd τ] in
theorem matched_forEach {f : Channel → Action σ Unit} {g : Channel → Action τ Unit}
    {cs : List Channel} (h : ∀ c, Matched rel (f c) (g c)) :
    Matched rel (forEach f cs) (forEach g cs) := by
  induction cs with
  | nil => exact matched_pure ()
  | cons c cs ih => exact (h c).bind fun _ => ih

end Fifo.Monitor
end AnyDevice

/-! ## 2.  Requests -/

/-- Something that a host asks of a front end. -/
inductive Request where
  /-- Read a register. -/
  | readRegister (address : UInt32)
  /-- Write a register. -/
  | writeRegister (address value : UInt32)
  /-- Read a block. -/
  | readBlock (length : Nat) (offset : UInt32)
  /-- Write a block. -/
  | writeBlock (data : ByteArray) (offset : UInt32)
  /-- Read the firmware identity. -/
  | firmware
  /-- Make a call of the monitor. -/
  | monitor (call : Fifo.Monitor.Call)
  /-- Close the device. -/
  | close

/-- What a host gets for a request. -/
inductive Answer where
  /-- The request gives nothing. -/
  | done
  /-- The content of a register. -/
  | word (content : UInt32)
  /-- The bytes of a block, or why the read failed. -/
  | received (bytes : Except FrontEndError ByteArray)
  /-- Whether a block was written, or why not. -/
  | sent (outcome : Except FrontEndError Unit)
  /-- The firmware identity. -/
  | firmware (identity : Firmware)
  /-- What the monitor gives: a reading, if the call is for one. -/
  | reading (status : Option Fifo.Status)

namespace Request

/-- Do what a request asks for, on a device that is closed in the given way. -/
def perform {σ : Type} [FrontEnd σ] (m : Fifo.Monitor) (shut : Action σ Unit) :
    Request → Action σ Answer
  | readRegister address => .word <$> FrontEnd.readRegister address
  | writeRegister address v => (fun _ => .done) <$> FrontEnd.writeRegister address v
  | readBlock length offset =>
    .received <$> BlockRead.received <$> FrontEnd.readBlock length offset
  | writeBlock data offset => .sent <$> FrontEnd.writeBlock data offset
  | firmware => .firmware <$> Firmware.read m.map
  | monitor call => .reading <$> m.perform call
  | close => (fun _ => .done) <$> shut

/-- The requests for which a simulated device stands in for a card on files. -/
def Allowed (map : RegisterMap) : Request → Prop
  | readRegister address => address.toNat % 4 = 0 ∧ ∀ c, map.statusAt c ≠ address
  | writeRegister address _ => address.toNat % 4 = 0
  | readBlock length _ => 1 ≤ length
  | writeBlock data offset => offset.toNat + data.size ≤ Simulator.windowSize
  | monitor (.readStatus _) => False
  | monitor _ | firmware | close => True

instance (map : RegisterMap) : DecidablePred (Allowed map)
  | readRegister address =>
    inferInstanceAs (Decidable (address.toNat % 4 = 0 ∧ ∀ c, map.statusAt c ≠ address))
  | writeRegister address _ => inferInstanceAs (Decidable (address.toNat % 4 = 0))
  | readBlock length _ => inferInstanceAs (Decidable (1 ≤ length))
  | writeBlock data offset =>
    inferInstanceAs (Decidable (offset.toNat + data.size ≤ Simulator.windowSize))
  | monitor (.readStatus _) => .isFalse id
  | monitor (.configure _ _) | monitor (.configureAll _) | monitor (.reset _)
  | monitor .resetAll | firmware | close => .isTrue trivial

end Request

/-- Every register is on a word boundary. -/
structure RegisterMap.WordAligned (map : RegisterMap) : Prop where
  /-- The status registers are. -/
  status : ∀ c, (map.statusAt c).toNat % 4 = 0
  /-- The configuration registers are. -/
  config : ∀ c, (map.configAt c).toNat % 4 = 0
  /-- The reset register is. -/
  reset : map.reset.toNat % 4 = 0
  /-- The version register is. -/
  version : map.version.toNat % 4 = 0

/-- The registers of the map can be mirrored in a file, and a monitor reads a status register only to
read a status. -/
structure RegisterMap.Mirrorable (map : RegisterMap) : Prop where
  /-- The addresses exist. -/
  addressable : map.Addressable
  /-- The reset bits are bits of a word. -/
  hasMasks : map.HasMasks
  /-- The registers are on word boundaries. -/
  wordAligned : map.WordAligned
  /-- The reset register is not a status register. -/
  reset_ne : ∀ c, map.statusAt c ≠ map.reset
  /-- The version register is not a status register. -/
  version_ne : ∀ c, map.statusAt c ≠ map.version

namespace Mirrors

variable {m : Fifo.Monitor} {registerFile windowFile : Place}

theorem matched_configureChannel (hmap : m.map.Mirrorable) (c : Channel) (interrupt : Bool) :
    Matched (Mirrors m.map registerFile windowFile)
      (m.configureChannel c interrupt) (m.configureChannel c interrupt) :=
  Fifo.Monitor.matched_configureChannel (hmap.addressable.config c)
    (matched_writeRegister (hmap.wordAligned.config c) _)

theorem matched_resetChannel (hmap : m.map.Mirrorable) (c : Channel) :
    Matched (Mirrors m.map registerFile windowFile) (m.resetChannel c) (m.resetChannel c) :=
  Fifo.Monitor.matched_resetChannel (hmap.hasMasks.resetMask_eq c)
    (matched_readRegister hmap.addressable.status hmap.wordAligned.reset hmap.reset_ne)
    (matched_writeRegister hmap.wordAligned.reset)

theorem matched_configureAll (hmap : m.map.Mirrorable) (interrupt : Bool) :
    Matched (Mirrors m.map registerFile windowFile)
      (m.configureAll interrupt) (m.configureAll interrupt) :=
  Fifo.Monitor.matched_forEach fun c => matched_configureChannel hmap c interrupt

theorem matched_resetAll (hmap : m.map.Mirrorable) :
    Matched (Mirrors m.map registerFile windowFile) m.resetAll m.resetAll :=
  Fifo.Monitor.matched_forEach fun c => matched_resetChannel hmap c

theorem matched_readVersion (hmap : m.map.Mirrorable) :
    Matched (Mirrors m.map registerFile windowFile) (Firmware.read m.map) (Firmware.read m.map) :=
  Firmware.matched_read
    (matched_readRegister hmap.addressable.status hmap.wordAligned.version hmap.version_ne)

/-- **One request gets the same answer from both devices, and they mirror each other after it.** -/
theorem matched_perform (hmap : m.map.Mirrorable) {r : Request} (hr : r.Allowed m.map) :
    Matched (Mirrors m.map registerFile windowFile)
      (r.perform m (.modify Simulator.close)) (r.perform m Attached.close) := by
  cases r with
  | readRegister address =>
    exact (matched_readRegister hmap.addressable.status hr.1 hr.2).map Answer.word
  | writeRegister address v => exact (matched_writeRegister hr v).map _
  | readBlock length offset => exact (matched_readBlock hr offset).map Answer.received
  | writeBlock data offset => exact (matched_writeBlock hr).map Answer.sent
  | firmware => exact (matched_readVersion hmap).map Answer.firmware
  | monitor call =>
    refine Matched.map ?_ Answer.reading
    cases call with
    | configure c interrupt => exact (matched_configureChannel hmap c interrupt).map _
    | configureAll interrupt => exact (matched_configureAll hmap interrupt).map _
    | readStatus c => exact hr.elim
    | reset c => exact (matched_resetChannel hmap c).map _
    | resetAll => exact (matched_resetAll hmap).map _
  | close => exact matched_close.map _

/-- An empty register file and a window of zeros mirror a fresh device. -/
theorem fresh {map : RegisterMap} {a : Attached Files}
    {registers window : Memory} (hnodes : a.transport.OnFiles registerFile windowFile)
    (hregisters : a.system.Regular registerFile registers) (hempty : registers.Same (.zeros 0))
    (hwindow : a.system.Regular windowFile window)
    (hzeros : window.Same (.zeros Simulator.windowSize)) :
    Mirrors map registerFile windowFile (.fresh map) a := by
  refine
    { map_eq := rfl
      ne := ?_
      opened := fun _ => hnodes
      closed := fun hclosed => absurd hclosed.symm Bool.false_ne_true
      registers := ⟨registers, hregisters, .fresh hempty map⟩
      window := ⟨window, hwindow, hzeros⟩
      size_window := rfl }
  -- one file cannot be empty and have the size of the window
  rintro rfl
  have hsize : registers.size = window.size := congrArg Memory.size (hregisters.unique hwindow)
  rw [hempty.size_eq, hzeros.size_eq] at hsize
  exact absurd hsize (by decide)

end Mirrors

/-! ## 3.  Runs -/

/-- The registers of the standard map can be mirrored. -/
theorem RegisterMap.mirrorable_default : ({} : RegisterMap).Mirrorable where
  addressable := by decide
  hasMasks := by decide
  wordAligned := ⟨by decide, by decide, by decide, by decide⟩
  reset_ne := by decide
  version_ne := by decide

/-- **The simulated device stands in for a card on files.**  On a fresh simulated device and on a
card with an empty register file and a window file of zeros, every run of allowed requests ends
without a fault and gets the same answers, and the devices hold the same at the end. -/
theorem simulator_stands_in_for_files {m : Fifo.Monitor} (hmap : m.map.Mirrorable)
    {a : Attached Files} {registerFile windowFile : Place} {registers window : Memory}
    (hnodes : a.transport.OnFiles registerFile windowFile)
    (hregisters : a.system.Regular registerFile registers) (hempty : registers.Same (.zeros 0))
    (hwindow : a.system.Regular windowFile window)
    (hzeros : window.Same (.zeros Simulator.windowSize))
    {requests : List Request} (hallowed : ∀ r ∈ requests, r.Allowed m.map) :
    ∃ answers s' a',
      (requests.mapM (Request.perform m (.modify Simulator.close))).Yields (.fresh m.map)
        answers s' ∧
      (requests.mapM (Request.perform m Attached.close)).Yields a answers a' ∧
      Mirrors m.map registerFile windowFile s' a' := by
  have hstart : Mirrors m.map registerFile windowFile (.fresh m.map) a :=
    Mirrors.fresh hnodes hregisters hempty hwindow hzeros
  have hstep : ∀ r ∈ requests, Matched (Mirrors m.map registerFile windowFile)
      (r.perform m (.modify Simulator.close)) (r.perform m Attached.close) :=
    fun r hr => Mirrors.matched_perform hmap (hallowed r hr)
  exact Matched.mapM hstep _ _ hstart

/-- A card on two files of the `tmp` directory. -/
def cardOnTwoFiles : Attached Files where
  transport := ⟨some ⟨"/tmp/user", ["tmp", "user"]⟩, some ⟨"/tmp/h2c", ["tmp", "window"]⟩,
    some ⟨"/tmp/c2h", ["tmp", "window"]⟩⟩
  system := ((Files.fresh "work").set ["tmp", "window"]
    { kind := .regular (.zeros Simulator.windowSize) }).set ["tmp", "user"]
    { kind := .regular (.zeros 0) }

/-- Both devices are reset, carry a block, fail to read past the window, and are closed. -/
theorem simulator_stands_in_for_files_until_closed :
    let m : Fifo.Monitor := ⟨{}, .v13⟩
    let requests : List Request :=
      [.firmware, .monitor .resetAll, .monitor (.configure .rx true), .readRegister 0xA028,
        .writeBlock ⟨#[1, 2, 3]⟩ 0xFFFFD, .readBlock 4 0xFFFFC, .readBlock 8 0xFFFFC, .close,
        .readRegister 0xA028, .readBlock 1 0]
    ∃ answers s' a',
      (requests.mapM (Request.perform m (.modify Simulator.close))).Yields (.fresh {})
        answers s' ∧
      (requests.mapM (Request.perform m Attached.close)).Yields cardOnTwoFiles answers a' ∧
      Mirrors {} ["tmp", "user"] ["tmp", "window"] s' a' := by
  intro m requests
  have hnodes : cardOnTwoFiles.transport.OnFiles ["tmp", "user"] ["tmp", "window"] :=
    ⟨⟨_, rfl, rfl⟩, ⟨_, rfl, rfl⟩, ⟨_, rfl, rfl⟩⟩
  have hregisters : cardOnTwoFiles.system.Regular ["tmp", "user"] (.zeros 0) := by
    refine ⟨false, ?_⟩
    rw [cardOnTwoFiles, Files.get?_set_file, if_pos rfl]
  have hwindow : cardOnTwoFiles.system.Regular ["tmp", "window"] (.zeros Simulator.windowSize) := by
    refine ⟨false, ?_⟩
    rw [cardOnTwoFiles, Files.get?_set_file, if_neg (by decide), Files.get?_set_file, if_pos rfl]
  have hallowed : ∀ r ∈ requests, r.Allowed m.map := by decide
  exact simulator_stands_in_for_files RegisterMap.mirrorable_default hnodes hregisters (.refl _)
    hwindow (.refl _) hallowed

end RadioFrontEnd
