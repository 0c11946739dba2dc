import RadioFrontEnd.Proofs.Session
import RadioFrontEnd.Proofs.Simulator

/-!
# Two ways to a monitor

A host can have a monitor made for a device (`Fifo.Monitor.forDevice`), or start a session, which
comes with one.  The first reads the firmware in order to choose a depth table.  The second has read
the firmware already when it chooses, and must not read it again: a read is not without effect, since
the version register may lie on a status register, whose flags go with the first read.

So it is not enough that the two choose the same table.  They have to ask the device for the same
things.  A device does not tell what it was asked for, and reads are the one thing that the simulated
device has no log of.  `Watched` is a device with a log of all that is asked of it, and it answers
what the device answers.  What drives a device drives a watched one as well, so the log of a start
can be read off there.

A monitor is a value, and what happens to the device later does not reach it.  From the equality of
the two monitors and of the two devices follows that of everything after, whatever is done through
the monitor and whatever the hardware loads in between.
-/

namespace RadioFrontEnd

open RadioFrontEnd.Action

/-! ## Watched devices -/

/-- Something that a device is asked for. -/
inductive Asked where
  /-- The content of a register. -/
  | readRegister (address : UInt32)
  /-- A new content of a register. -/
  | writeRegister (address value : UInt32)
  /-- A block to the card. -/
  | writeBlock (data : ByteArray) (offset : UInt32)
  /-- A block from the card. -/
  | readBlock (length : Nat) (offset : UInt32)

/-- A device, and what it was asked for, oldest first. -/
structure Watched (σ : Type) where
  /-- The device. -/
  device : σ
  /-- What it was asked for. -/
  asked : List Asked

namespace Watched

variable {σ α : Type}

/-- Note what is asked, and have the device answer it. -/
def ask (what : Asked) (a : Action σ α) : Action (Watched σ) α := do
  .modify fun w => { w with asked := w.asked ++ [what] }
  a.on device fun s w => { w with device := s }

instance [FrontEnd σ] : FrontEnd (Watched σ) where
  readRegister address := ask (.readRegister address) (FrontEnd.readRegister address)
  writeRegister address v := ask (.writeRegister address v) (FrontEnd.writeRegister address v)
  writeBlock data offset := ask (.writeBlock data offset) (FrontEnd.writeBlock data offset)
  readBlock length offset := ask (.readBlock length offset) (FrontEnd.readBlock length offset)
  isOpen w := FrontEnd.isOpen w.device

/-- A watched device answers what the device answers. -/
theorem yields_ask {a : Action σ α} {s t : σ} {x : α} (h : a.Yields s x t) (what : Asked)
    (past : List Asked) : (ask what a).Yields ⟨s, past⟩ x ⟨t, past ++ [what]⟩ := by
  have hon : (a.on device fun s (w : Watched σ) => { w with device := s }).Yields
      ⟨s, past ++ [what]⟩ x ⟨t, past ++ [what]⟩ := Yields.on h
  exact (yields_modify rfl).bind hon

end Watched

/-! ## What comes after -/

/-- Something that happens to a simulated device with a monitor on it. -/
inductive Occurrence where
  /-- The host makes a call of the monitor. -/
  | call (k : Fifo.Monitor.Call)
  /-- The hardware loads a register, be it the version register. -/
  | load (address value : UInt32)
  /-- The host closes the device. -/
  | close

/-- What the host gets when it happens: the answer to a call, or the fault that stopped it. -/
def Occurrence.happen (m : Fifo.Monitor) :
    Occurrence → Action Simulator (Except Fault (Option Fifo.Status))
  | call k => (m.perform k).attempt
  | load address v => (fun _ => .ok none) <$> modify (·.load address v)
  | close => (fun _ => .ok none) <$> modify Simulator.close

theorem Occurrence.exists_yields_happen (m : Fifo.Monitor) (o : Occurrence) (s : Simulator) :
    ∃ answer t, (o.happen m).Yields s answer t := by
  cases o with
  | call k => exact exists_yields_attempt (m.perform k) s
  | load address v => exact ⟨_, _, (yields_modify rfl).map _⟩
  | close => exact ⟨_, _, (yields_modify rfl).map _⟩

/-- Have a monitor made for a device, and let things happen. -/
def Fifo.Monitor.makeThen (map : RegisterMap) (run : List Occurrence) :
    Action Simulator (List (Except Fault (Option Fifo.Status))) := do
  let m ← forDevice map
  run.mapM (·.happen m)

/-- Start a session, and let things happen if it started. -/
def Session.startThen (config : Config) (run : List Occurrence) :
    Action Simulator (Except FrontEndError (List (Except Fault (Option Fifo.Status)))) := do
  match ← start config with
  | .error e => return .error e
  | .ok session => return .ok (← run.mapM (·.happen session.monitor))

/-! ## The two ways agree -/

/-- What happens after a start happens likewise after the monitor of the session was made. -/
theorem Session.exists_yields_startThen {config : Config} {s t : Simulator} {session : Session}
    (hstart : (start config).Yields s (.ok session) t)
    (hmake : (Fifo.Monitor.forDevice config.registers).Yields s session.monitor t)
    (run : List Occurrence) :
    ∃ answers u, (startThen config run).Yields s (.ok answers) u ∧
      (Fifo.Monitor.makeThen config.registers run).Yields s answers u := by
  obtain ⟨answers, u, hrun⟩ :=
    exists_yields_mapM_of_ends (Occurrence.exists_yields_happen session.monitor) run t
  exact ⟨answers, u, hstart.bind (hrun.bind (yields_pure _ u)), hmake.bind hrun⟩

/-- **A session has the monitor that would be made for its device.**  On a simulated device whose
status registers exist, in whatever state it is, a start ends, and it asks the device for the version
register and for nothing else.  If the session starts, its monitor is the one that is made for the
device with the registers of the configuration, and to make it would leave the same device.  So it
does not matter which of the two a host does first: whatever happens then, calls of the monitor and
loads of any register, gives the same answers and leaves the same device. -/
theorem session_has_the_monitor_of_its_device {s : Simulator} (hstatus : s.map.HasStatus)
    (config : Config) :
    ∃ r t, (Session.start config).Yields s r t ∧
      (∀ past, (Session.start config).Yields (Watched.mk s past) r
        ⟨t, past ++ [.readRegister config.registers.version]⟩) ∧
      ∀ session, r = .ok session →
        (Fifo.Monitor.forDevice config.registers).Yields s session.monitor t ∧
        session.monitor.map = config.registers ∧
        ∀ run, ∃ answers u, (Session.startThen config run).Yields s (.ok answers) u ∧
          (Fifo.Monitor.makeThen config.registers run).Yields s answers u := by
  obtain ⟨word, t, hread, -⟩ := (Simulator.responsive hstatus).read s config.registers.version rfl
  have hstart := Session.yields_start hread
  refine ⟨_, t, hstart, fun past => ?_, fun session hsession => ?_⟩
  · exact Session.yields_start (Watched.yields_ask hread _ past)
  · rw [hsession] at hstart
    have hmonitor := Session.monitor_of_outcome_eq_ok hsession
    have hmake : (Fifo.Monitor.forDevice config.registers).Yields s session.monitor t :=
      hmonitor ▸ Fifo.Monitor.yields_forDevice hread
    exact ⟨hmake, Session.map_of_outcome_eq_ok hsession,
      Session.exists_yields_startThen hstart hmake⟩

/-- The version register is the status register of the transmitter, so the one read of a start takes
the flags with it; and the hardware loads it again before the status is read. -/
theorem session_has_the_monitor_of_its_device_on_status_register :
    let config : Config := { registers := { version := 0x9004 } }
    let s := (Simulator.fresh config.registers).load 0x9004 0x022000D0
    s.map.HasStatus ∧
      ∃ session t, (Session.start config).Yields s (.ok session) t ∧
        (Session.start config).Yields (Watched.mk s []) (.ok session)
          ⟨t, [.readRegister 0x9004]⟩ ∧
        (Fifo.Monitor.forDevice config.registers).Yields s session.monitor t ∧
        ∃ answers u,
          (Session.startThen config [.load 0x9004 7, .call (.readStatus .tx)]).Yields s
            (.ok answers) u ∧
          (Fifo.Monitor.makeThen config.registers [.load 0x9004 7, .call (.readStatus .tx)]).Yields
            s answers u := by
  intro config s
  have hstatus : s.map.HasStatus := by
    have haddresses : config.registers.Addressable := by decide
    exact haddresses.status
  obtain ⟨r, t, hstart, hwatched, hsame⟩ := session_has_the_monitor_of_its_device hstatus config
  have hword : s.peek config.registers.version = 0x022000D0 := by decide
  obtain ⟨_, hread, -⟩ := Simulator.exists_yields_readRegister rfl hstatus config.registers.version
  rw [hword] at hread
  have hr : r = .ok ⟨⟨2, 13, 1⟩, config.registers, .v13⟩ :=
    (hstart.unique (Session.yields_start hread)).1
  obtain ⟨hmake, -, hruns⟩ := hsame _ hr
  subst hr
  exact ⟨hstatus, _, t, hstart, hwatched [], hmake, hruns _⟩

end RadioFrontEnd
