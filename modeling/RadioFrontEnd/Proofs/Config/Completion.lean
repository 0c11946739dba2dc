import RadioFrontEnd.Proofs.Config.Validation
import RadioFrontEnd.Proofs.Session
import RadioFrontEnd.Proofs.Simulator

/-!
# How far a valid configuration carries

A host that starts from a valid configuration relies on it: no call of the monitor should be stopped
by a register that has no address, or by a reset bit that is none.  This file settles how much of
that `Config.validate` gives.

The rules try the fields one by one.  For the reset bits that is enough, since a mask comes from one
bit, and every bit is tried against the width of the register (`Config.IsUsable.bit_lt`).  For the
addresses it is not.  The registers of a channel are sums of two fields and an index, and no rule
looks at a sum: a monitor on the last word of the address space lies on a word boundary and is
valid, and there is room for the status register of one channel only
(`valid_config_stops_at_the_last_word`).

What is missing is one inequality, that the last of the sums is an address.  With it, a start and
all calls after it end without a fault, on a device with any content.  Without it, no session ever
gets through the configuration of all channels, so no weaker condition would do.
-/

namespace RadioFrontEnd

open RadioFrontEnd.Action

/-! ## The address of the last register -/

/-- A channel has a configuration register only if the unbounded sum of its parts is below
`2 ^ 32`. -/
theorem RegisterMap.lt_of_config_eq_ok {map : RegisterMap} {c : Channel} {address : UInt32}
    (h : map.config c = .ok address) :
    map.monitorBase.toNat + 4 * c.index.toNat + map.configOffset.toNat < UInt32.size := by
  unfold config at h
  cases hstatus : map.status c with
  | error fault =>
    rw [hstatus] at h
    cases h
  | ok statusAddress =>
    rw [hstatus] at h
    have hfirst : map.monitorBase.toNat + (4 * c.index).toNat = statusAddress.toNat :=
      Word.add_eq_ok_iff.mp hstatus
    have hsecond : statusAddress.toNat + map.configOffset.toNat = address.toNat :=
      Word.add_eq_ok_iff.mp h
    rw [toNat_four_mul_index] at hfirst
    have haddress : address.toNat < UInt32.size := address.toNat_lt
    omega

/-! ## Sessions on any device -/

section AnyDevice

variable {σ : Type} [FrontEnd σ] {s t : σ}

/-- Start a session, and make calls of its monitor if it started. -/
def Session.drive (config : Config) (calls : List Fifo.Monitor.Call) :
    Action σ (Except FrontEndError (List (Option Fifo.Status))) := do
  match ← start config with
  | .error e => return .error e
  | .ok session => return .ok (← calls.mapM session.monitor.perform)

/-- A start and any calls after it end without a fault, if the addresses and masks exist and the
device answers. -/
theorem Session.exists_yields_drive {config : Config} {P : σ → Prop}
    (hdevice : FrontEnd.Responsive P) (haddresses : config.registers.Addressable)
    (hmasks : config.registers.HasMasks) (hs : P s) (calls : List Fifo.Monitor.Call) :
    ∃ answers t, (drive config calls).Yields s answers t := by
  obtain ⟨word, t, hread, ht⟩ := hdevice.read s config.registers.version hs
  have hstart := yields_start hread
  cases hsession : outcome config (.decode word) with
  | error e =>
    rw [hsession] at hstart
    exact ⟨.error e, t, hstart.bind (yields_pure _ t)⟩
  | ok session =>
    rw [hsession] at hstart
    have hmap := map_of_outcome_eq_ok hsession
    obtain ⟨answers, u, hcalls, -⟩ := exists_yields_mapM (P := fun _ => P) ht
      (fun _ call _ hv => Fifo.Monitor.exists_yields_perform hdevice (hmap ▸ haddresses)
        (hmap ▸ hmasks) hv call) calls
    exact ⟨.ok answers, u, hstart.bind (hcalls.bind (yields_pure _ u))⟩

theorem Session.map_of_yields_start {config : Config} {session : Session}
    (h : (start config).Yields s (.ok session) t) : session.monitor.map = config.registers := by
  obtain ⟨firmware, u, hfirmware, -⟩ := exists_of_yields_bind h
  obtain ⟨word, v, hread, -⟩ := exists_of_yields_bind hfirmware
  exact map_of_outcome_eq_ok ((yields_start hread).unique h).1

/-- A session that configured all channels has an address for the last register. -/
theorem Session.lt_of_yields_drive_configureAll {config : Config} {interrupt : Bool}
    {answers : List (Option Fifo.Status)}
    (h : (drive config [.configureAll interrupt]).Yields s (.ok answers) t) :
    config.registers.monitorBase.toNat + 12 + config.registers.configOffset.toNat
      < UInt32.size := by
  obtain ⟨started, u, hstart, hrest⟩ := exists_of_yields_bind h
  cases started with
  | error e => exact absurd (hrest.unique (yields_pure _ u)).1 nofun
  | ok session =>
    obtain ⟨_, v, hcalls, -⟩ := exists_of_yields_bind hrest
    rw [List.mapM_cons] at hcalls
    obtain ⟨_, w, hcall, -⟩ := exists_of_yields_bind hcalls
    obtain ⟨_, hconfigure, -⟩ := exists_of_yields_map hcall
    obtain ⟨_, _, hspk⟩ :=
      Fifo.Monitor.exists_of_yields_forEach hconfigure .spk (Channel.mem_all .spk)
    obtain ⟨address, haddress⟩ := Fifo.Monitor.config_eq_ok_of_yields hspk
    rw [map_of_yields_start hstart] at haddress
    exact RegisterMap.lt_of_config_eq_ok haddress

end AnyDevice

/-- **A valid configuration lacks one inequality.**  Its reset bits are bits of a word.  If the last
configuration register has an address, then on a simulated device with the registers of the
configuration, whatever it holds, a start and any calls of the monitor after it end without a fault.
If it has none, then no start is ever followed by a configuration of all channels. -/
theorem valid_config_completes_iff_last_register_exists {config : Config}
    (hvalid : config.validate = .ok ()) :
    (∀ c, config.registers.resetBit c < 32) ∧
    (config.registers.monitorBase.toNat + 12 + config.registers.configOffset.toNat < UInt32.size →
      ∀ s : Simulator, s.map = config.registers → ∀ calls,
        ∃ answers t, (Session.drive config calls).Yields s answers t) ∧
    ∀ (s : Simulator) (interrupt : Bool) (answers : List (Option Fifo.Status)) (t : Simulator),
      (Session.drive config [.configureAll interrupt]).Yields s (.ok answers) t →
        config.registers.monitorBase.toNat + 12 + config.registers.configOffset.toNat
          < UInt32.size := by
  have hmasks : config.registers.HasMasks := ((Config.validate_eq_ok_iff config).mp hvalid).bit_lt
  refine ⟨hmasks, ?_, ?_⟩
  · intro hlast s hmap calls
    have haddresses : config.registers.Addressable := RegisterMap.addressable_iff.mpr hlast
    exact Session.exists_yields_drive (Simulator.responsive haddresses.status) haddresses hmasks
      hmap calls
  · intro s interrupt answers t hrun
    exact Session.lt_of_yields_drive_configureAll hrun

/-- The monitor is placed so that the last configuration register is the last word of all. -/
theorem valid_config_completes_iff_last_register_exists_at_the_end :
    let config : Config :=
      { registers := { monitorBase := 0xFFFFFFE0, rxResetBit := 31 }, strictFirmware := true }
    config.validate = .ok () ∧
    ∃ answers t, (Session.drive config [.resetAll, .configureAll true, .readStatus .spk]).Yields
      ((Simulator.fresh config.registers).load 0xC000 0x02200080) answers t := by
  intro config
  have hvalid : config.validate = .ok () := by decide
  exact ⟨hvalid, (valid_config_completes_iff_last_register_exists hvalid).2.1 (by decide) _ rfl _⟩

/-- **A valid configuration can stop a start.**  With the monitor on the last word of the address
space every rule of validation is kept, but only the first channel has a status register, so a fresh
device cannot tell whether the version register is one. -/
theorem valid_config_stops_at_the_last_word :
    let config : Config := { registers := { monitorBase := 0xFFFFFFFC } }
    let s := Simulator.fresh config.registers
    config.validate = .ok () ∧ (Session.start config).Faults s .addOverflow s := by
  intro config s
  have hread : (FrontEnd.readRegister config.registers.version : Action Simulator UInt32).Faults s
      .addOverflow s :=
    Simulator.faults_readRegister rfl (by decide)
  exact ⟨by decide, (hread.bind _).bind _⟩

end RadioFrontEnd
