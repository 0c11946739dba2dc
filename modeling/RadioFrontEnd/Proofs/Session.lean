import RadioFrontEnd.Proofs.Fifo.Monitor
import RadioFrontEnd.Proofs.Firmware
import RadioFrontEnd.Session

/-!
# What a start comes to

A start reads one register, the version register, and everything else about it is decided by the
word that the read gives.  `Session.outcome` is that decision as a function of the firmware, and
`Session.yields_start` says that a start is the read and then this decision.  The reports on the way
leave no trace in the state.

The same holds of a monitor that is made for a device (`Fifo.Monitor.yields_forDevice`): its depth
table is the one for the version in that word.  Nothing here asks what sort of device it is.
-/

namespace RadioFrontEnd

open RadioFrontEnd.Action

variable {σ : Type} {s t : σ}

/-- Whatever is reported about it, the table is the one for the version. -/
theorem Fifo.Depths.yields_resolve (fw : Firmware) (s : σ) :
    (Depths.resolve fw).Yields s (.ofVersion fw.version) s := by
  have hrest : (do
      report .debug "FIFO depth table resolved"
      return .ofVersion fw.version : Action σ Depths).Yields s (.ofVersion fw.version) s :=
    (yields_report _ _ s).bind (yields_pure _ s)
  unfold Depths.resolve
  split_ifs
  · exact (yields_report _ _ s).bind hrest
  · exact (yields_report _ _ s).bind hrest
  · exact hrest

variable [FrontEnd σ] {map : RegisterMap} {word : UInt32}

theorem Firmware.yields_read (hread : (FrontEnd.readRegister map.version).Yields s word t) :
    (Firmware.read map).Yields s (.decode word) t :=
  hread.bind (yields_pure _ t)

/-- A monitor that is made for a device has the depth table for its firmware. -/
theorem Fifo.Monitor.yields_forDevice
    (hread : (FrontEnd.readRegister map.version).Yields s word t) :
    (Monitor.forDevice map).Yields s ⟨map, .ofVersion (Firmware.decode word).version⟩ t := by
  have hdepths : (Depths.forDevice map).Yields s (.ofVersion (Firmware.decode word).version) t :=
    (Firmware.yields_read hread).bind (Depths.yields_resolve _ t)
  exact hdepths.bind (yields_pure _ t)

namespace Session

/-- What a start gives, once the firmware is known. -/
def outcome (config : Config) (fw : Firmware) : Except FrontEndError Session :=
  if config.strictFirmware && !config.firmware.supports fw then
    .error (.unsupportedFirmware fw config.firmware)
  else .ok ⟨fw, config.registers, .ofVersion fw.version⟩

theorem outcome_of_not_contains {config : Config} {fw : Firmware}
    (hstrict : config.strictFirmware = true) (hrange : ¬ config.firmware.Contains fw) :
    outcome config fw = .error (.unsupportedFirmware fw config.firmware) := by
  rw [outcome, hstrict, eq_false_of_ne_true fun h => hrange (FirmwareRange.supports_iff.mp h)]
  rfl

theorem outcome_of_contains {config : Config} {fw : Firmware}
    (haccepted : config.strictFirmware = true → config.firmware.Contains fw) :
    outcome config fw = .ok ⟨fw, config.registers, .ofVersion fw.version⟩ := by
  have hcond : ¬ (config.strictFirmware && !config.firmware.supports fw) = true := by
    rw [Bool.and_eq_true, Bool.not_eq_true']
    rintro ⟨hstrict, hunsupported⟩
    rw [FirmwareRange.supports_iff.mpr (haccepted hstrict)] at hunsupported
    cases hunsupported
  exact if_neg hcond

/-- The monitor of a session has the registers of the configuration and the table for the firmware. -/
theorem monitor_of_outcome_eq_ok {config : Config} {fw : Firmware} {session : Session}
    (h : outcome config fw = .ok session) :
    session.monitor = ⟨config.registers, .ofVersion fw.version⟩ := by
  unfold outcome at h
  split at h
  · cases h
  · cases h
    rfl

/-- The monitor of a session works with the registers of the configuration. -/
theorem map_of_outcome_eq_ok {config : Config} {fw : Firmware} {session : Session}
    (h : outcome config fw = .ok session) : session.monitor.map = config.registers := by
  rw [monitor_of_outcome_eq_ok h]

omit [FrontEnd σ] in
theorem yields_ofFirmware (config : Config) (fw : Firmware) (s : σ) :
    (ofFirmware config fw).Yields s ⟨fw, config.registers, .ofVersion fw.version⟩ s :=
  (Fifo.Depths.yields_resolve fw s).bind (yields_pure _ s)

/-- **A start is one read of the version register, and a decision about what it gives.** -/
theorem yields_start {config : Config}
    (hread : (FrontEnd.readRegister config.registers.version).Yields s word t) :
    (start config).Yields s (outcome config (.decode word)) t := by
  have hmade := yields_ofFirmware config (.decode word) t
  refine (Firmware.yields_read hread).bind ((yields_report _ _ t).bind ?_)
  unfold FirmwareRange.check outcome
  cases config.firmware.supports (.decode word) with
  | true =>
    rw [Bool.not_true, Bool.and_false]
    exact hmade.bind (yields_pure _ t)
  | false =>
    rw [Bool.not_false, Bool.and_true]
    cases config.strictFirmware with
    | true => exact (yields_report _ _ t).bind (yields_pure _ t)
    | false => exact (yields_report _ _ t).bind (hmade.bind (yields_pure _ t))

end Session
end RadioFrontEnd
