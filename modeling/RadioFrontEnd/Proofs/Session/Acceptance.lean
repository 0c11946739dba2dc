import RadioFrontEnd.Proofs.Config.Validation
import RadioFrontEnd.Proofs.Session
import RadioFrontEnd.Proofs.Simulator

/-!
# Firmware that some board has

A configuration is refused if it accepts no firmware, that is, if one of its ranges is out of order.
A range can be in order, though, and still accept no firmware that a board can tell: a major version
has seven bits in the version word and eight in the configuration.  So a valid configuration is
accepted by some board exactly if its least major version is below 128
(`valid_config_accepts_some_board_iff`).  With any other one, a strict start fails on every device.
-/

namespace RadioFrontEnd

open RadioFrontEnd.Action

theorem FirmwareRange.check_eq_ok_iff {range : FirmwareRange} {fw : Firmware} :
    range.check fw = .ok () ↔ range.Contains fw := by
  rw [check, ← supports_iff]
  split_ifs with hsupports
  · exact iff_of_true rfl hsupports
  · exact iff_of_false nofun hsupports

/-- If all is in order but the firmware, then validation looks at the two ranges. -/
theorem Config.validate_eq_ok_iff_of_rest {c : Config}
    (hrest : ({ c with firmware := {} } : Config).validate = .ok ()) :
    c.validate = .ok () ↔ c.firmware.versionMin ≤ c.firmware.versionMax ∧
      c.firmware.majorMin ≤ c.firmware.majorMax := by
  obtain ⟨huser, hlt, hinjective, hversion, hbase, hoffset, hreset, -, -⟩ :=
    (validate_eq_ok_iff _).mp hrest
  rw [validate_eq_ok_iff]
  constructor
  · intro h
    exact ⟨h.versions, h.majors⟩
  · rintro ⟨hversions, hmajors⟩
    exact ⟨huser, hlt, hinjective, hversion, hbase, hoffset, hreset, hversions, hmajors⟩

/-- A simulated device can tell any word. -/
theorem Simulator.exists_yields_readRegister_of_load (address word : UInt32) :
    ∃ s t : Simulator, s.isOpen = true ∧
      (FrontEnd.readRegister address : Action Simulator UInt32).Yields s word t := by
  have hstatus : ((fresh {}).load address word).map.HasStatus := fun c => by cases c <;> rfl
  obtain ⟨t, hread, -⟩ := exists_yields_readRegister rfl hstatus address
  rw [peek_load, if_pos rfl] at hread
  exact ⟨_, t, rfl, hread⟩

namespace Session

/-- A strict start succeeds exactly if the firmware of the device lies in both ranges. -/
theorem exists_yields_start_strict_iff {σ : Type} [FrontEnd σ] {s t : σ} {c : Config}
    {word : UInt32} (hstrict : c.strictFirmware = true)
    (hread : (FrontEnd.readRegister c.registers.version : Action σ UInt32).Yields s word t) :
    (∃ session u, (start c).Yields s (.ok session) u) ↔
      c.firmware.check (.decode word) = .ok () := by
  have hstart := yields_start hread
  rw [FirmwareRange.check_eq_ok_iff]
  by_cases hrange : c.firmware.Contains (.decode word)
  · rw [outcome_of_contains fun _ => hrange] at hstart
    exact iff_of_true ⟨_, t, hstart⟩ hrange
  · rw [outcome_of_not_contains hstrict hrange] at hstart
    refine iff_of_false ?_ hrange
    rintro ⟨session, u, hsession⟩
    cases (hstart.unique hsession).1

end Session

/-- **Some board is accepted exactly if the configuration is valid and its least major version has
seven bits.**  Here all of the configuration but the firmware is in order, and then it is valid
exactly if both ranges are in order.  Any word is told by some device, and a strict start on a device
that tells it succeeds exactly if its firmware is accepted. -/
theorem valid_config_accepts_some_board_iff {c : Config}
    (hrest : ({ c with firmware := {} } : Config).validate = .ok ()) :
    (c.validate = .ok () ↔ c.firmware.versionMin ≤ c.firmware.versionMax ∧
      c.firmware.majorMin ≤ c.firmware.majorMax) ∧
    (c.validate = .ok () ∧ c.firmware.majorMin.toNat < 128 ↔
      ∃ word, c.firmware.check (.decode word) = .ok ()) ∧
    ∀ word,
      (∃ s t : Simulator, s.isOpen = true ∧
        (FrontEnd.readRegister c.registers.version : Action Simulator UInt32).Yields s word t) ∧
      ∀ (σ : Type) [FrontEnd σ] (s t : σ),
        (FrontEnd.readRegister c.registers.version : Action σ UInt32).Yields s word t →
        ((∃ session u, (Session.start { c with strictFirmware := true }).Yields s (.ok session) u) ↔
          c.firmware.check (.decode word) = .ok ()) := by
  have hvalid := Config.validate_eq_ok_iff_of_rest hrest
  refine ⟨hvalid, ?_, fun word => ⟨?_, fun σ _ s t hread => ?_⟩⟩
  · rw [hvalid, and_assoc, ← FirmwareRange.exists_contains_decode_iff]
    exact exists_congr fun word => FirmwareRange.check_eq_ok_iff.symm
  · exact Simulator.exists_yields_readRegister_of_load c.registers.version word
  · exact Session.exists_yields_start_strict_iff (c := { c with strictFirmware := true }) rfl hread

/-- The least major version is the last one that a word has room for. -/
theorem valid_config_accepts_some_board_at_the_last_major_version :
    let c : Config := { firmware := { majorMin := 127, majorMax := 255 } }
    c.validate = .ok () ∧ (∃ word, c.firmware.check (.decode word) = .ok ()) ∧
    ∃ (s : Simulator) (session : Session) (u : Simulator), s.isOpen = true ∧
      (Session.start { c with strictFirmware := true }).Yields s (.ok session) u := by
  intro c
  obtain ⟨-, hboard, hdevice⟩ := @valid_config_accepts_some_board_iff c (by decide)
  have hvalid : c.validate = .ok () := by decide
  obtain ⟨word, hword⟩ := hboard.mp ⟨hvalid, by decide⟩
  obtain ⟨⟨s, t, hopen, hread⟩, hstart⟩ := hdevice word
  obtain ⟨session, u, hsession⟩ := (hstart Simulator s t hread).mpr hword
  exact ⟨hvalid, ⟨word, hword⟩, s, session, u, hopen, hsession⟩

/-- With the next major version the configuration is still valid, and no word is accepted. -/
theorem valid_config_accepts_no_board :
    let c : Config := { firmware := { majorMin := 128, majorMax := 255 } }
    ({ c with firmware := {} } : Config).validate = .ok () ∧ c.validate = .ok () ∧
    ¬ ∃ word, c.firmware.check (.decode word) = .ok () := by
  intro c
  refine ⟨by decide, by decide, ?_⟩
  rintro ⟨word, hword⟩
  obtain ⟨-, -, hroom⟩ :=
    FirmwareRange.exists_contains_decode_iff.mp ⟨word, FirmwareRange.check_eq_ok_iff.mp hword⟩
  exact absurd hroom (by decide)

end RadioFrontEnd
