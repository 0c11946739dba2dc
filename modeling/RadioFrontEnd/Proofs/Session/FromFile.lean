import RadioFrontEnd.Proofs.Config.RoundTrip
import RadioFrontEnd.Proofs.Opening

/-!
# Starting from a configuration file

A start from a file goes through three stages: the configuration is loaded, the nodes that it names
are opened in turn, and the firmware is checked.  Any combination of faults may be there, in the file
and in the nodes.  `Session.Starts` says case by case what a start gives then, without reading any of
the functions that do it: the obstacle that is met first, or the session.  It does not say what the
files are afterwards, as they stay what they were (`first_obstacle_stops_the_start`).

The stages are done one at a time; opening the nodes is a matter of its own.  A node that can be
opened need not be a card, or even a regular file.  Its version register is still a word of its bytes
(`Attached.yields_readRegister_fromBytes`): a file that is no regular one has no bytes, and so is too
short for any register.
-/

namespace RadioFrontEnd

open RadioFrontEnd.Action

/-! ## The register of any file -/

/-- The bytes of a file.  A file that is no regular one has none. -/
def Files.bytesAt (fs : Files) (place : Place) : List UInt8 :=
  match fs.get? place with
  | some ⟨.regular content, _⟩ => content.toList
  | _ => []

namespace Word

theorem fromBytes_nil (position : Nat) : fromBytes [] position = 0 := by
  rw [fromBytes, if_neg (by rw [List.length_nil]; omega)]

/-- What the system answers is the word among the bytes of the file, whatever sort of file it is. -/
theorem ofAnswer_pread (fs : Files) (place : Place) (position : Nat) :
    ofAnswer (fs.pread place 4 position) = fromBytes (fs.bytesAt place) position := by
  rw [Files.pread, Files.bytesAt]
  rcases fs.get? place with _ | ⟨kind, denied⟩
  · exact (fromBytes_nil position).symm
  · cases kind with
    | regular content =>
      exact (ofAnswer_read content position).trans (content.fromBytes_toList position).symm
    | directory | pipe | null => exact (fromBytes_nil position).symm
    | full =>
      -- it has zeros without end, and so the answer is four of them
      exact (fromBytes_nil position).symm

end Word

/-- Whatever the register node is, a register is a word of its bytes. -/
theorem Attached.yields_readRegister_fromBytes {a : Attached Files} {user : Node}
    (huser : a.transport.user = some user) (address : UInt32) :
    (FrontEnd.readRegister address : Action (Attached Files) UInt32).Yields a
      (Word.fromBytes (a.system.bytesAt user.file) address.toNat) a := by
  rw [← Word.ofAnswer_pread]
  exact yields_readRegister_ofAnswer huser rfl

/-! ## The stages of a start -/

/-- The firmware that a register node tells, whatever file it is. -/
def Firmware.ofFile (fs : Files) (place : Place) (map : RegisterMap) : Firmware :=
  .decode (Word.fromBytes (fs.bytesAt place) map.version.toNat)

namespace Session

/-- What a start from a configuration file gives: the obstacle that is met first, or the session. -/
inductive Starts (fs : Files) (path : String) : Except StartupError (Transport × Session) → Prop
  /-- The configuration has a fault. -/
  | config {cause : ConfigError} (hconfig : Config.Gives fs path (.error cause)) :
    Starts fs path (.error (.config cause))
  /-- A node cannot be opened. -/
  | unavailable {config : Config} {node : String} {cause : FileError}
      (hconfig : Config.Gives fs path (.ok config))
      (hnode : config.device.FailsAt fs node cause) :
    Starts fs path (.error (.frontEnd (.unavailable node cause)))
  /-- The firmware lies outside the ranges, and the configuration insists on them. -/
  | unsupported {config : Config} {w : Wiring} {fw : Firmware}
      (hconfig : Config.Gives fs path (.ok config)) (hnodes : w.Opens fs config.device)
      (hfirmware : fw = .ofFile fs w.user config.registers)
      (hstrict : config.strictFirmware = true) (hrange : ¬ config.firmware.Contains fw) :
    Starts fs path (.error (.frontEnd (.unsupportedFirmware fw config.firmware)))
  /-- Nothing is in the way. -/
  | started {config : Config} {w : Wiring} {fw : Firmware}
      (hconfig : Config.Gives fs path (.ok config)) (hnodes : w.Opens fs config.device)
      (hfirmware : fw = .ofFile fs w.user config.registers)
      (haccepted : config.strictFirmware = true → config.firmware.Contains fw) :
    Starts fs path
      (.ok (w.transport config.device, ⟨fw, config.registers, .ofVersion fw.version⟩))

variable {fs fs' : Files} {path : String} {r : Except StartupError (Transport × Session)}

/-- With all nodes open, the start is the decision about the firmware in the register node. -/
theorem yields_openNodes_of_opens {config : Config} {w : Wiring}
    (hnodes : w.Opens fs config.device) :
    (openNodes config).Yields fs
      ((outcome config (.ofFile fs w.user config.registers)).map (w.transport config.device, ·))
      fs := by
  have hread : (FrontEnd.readRegister config.registers.version :
      Action (Attached Files) UInt32).Yields ⟨w.transport config.device, fs⟩
      (Word.fromBytes (fs.bytesAt w.user) config.registers.version.toNat)
      ⟨w.transport config.device, fs⟩ :=
    @Attached.yields_readRegister_fromBytes ⟨w.transport config.device, fs⟩
      ⟨config.device.user, w.user⟩ rfl config.registers.version
  exact hnodes.yields_openNodes.bind ((Yields.on (yields_start hread)).bind (yields_pure _ fs))

theorem Starts.yields (h : Starts fs path r) : (fromConfigFile path).Yields fs r fs := by
  have hload {result : Except ConfigError Config} (hgives : Config.Gives fs path result) :
      (Config.loadFrom path).Yields fs result fs :=
    hgives.fromFile_eq ▸ Config.loadFrom_yields_fromFile fs path
  cases h with
  | config hconfig => exact (hload hconfig).bind (yields_pure _ fs)
  | unavailable hconfig hnode =>
    have hopen : (openNodes _).Yields fs _ fs :=
      (Transport.yields_openNodes_of_failsAt hnode).bind (yields_pure _ fs)
    exact (hload hconfig).bind (hopen.bind (yields_pure _ fs))
  | unsupported hconfig hnodes hfirmware hstrict hrange =>
    subst hfirmware
    have hopen := yields_openNodes_of_opens hnodes
    rw [outcome_of_not_contains hstrict hrange] at hopen
    exact (hload hconfig).bind (hopen.bind (yields_pure _ fs))
  | started hconfig hnodes hfirmware haccepted =>
    subst hfirmware
    have hopen := yields_openNodes_of_opens hnodes
    rw [outcome_of_contains haccepted] at hopen
    exact (hload hconfig).bind (hopen.bind (yields_pure _ fs))

theorem exists_starts (fs : Files) (path : String) : ∃ r, Starts fs path r := by
  have hgives := Config.gives_fromFile fs path
  cases hfile : Config.fromFile fs path with
  | error cause => exact ⟨_, .config (hfile ▸ hgives)⟩
  | ok config =>
    rw [hfile] at hgives
    obtain ⟨node, cause, hnode⟩ | ⟨w, hnodes⟩ := config.device.failsAt_or_opens fs
    · exact ⟨_, .unavailable hgives hnode⟩
    by_cases hrange :
        config.strictFirmware = true → config.firmware.Contains (.ofFile fs w.user config.registers)
    · exact ⟨_, .started hgives hnodes rfl hrange⟩
    · obtain ⟨hstrict, hoff⟩ := Classical.not_imp.mp hrange
      exact ⟨_, .unsupported hgives hnodes rfl hstrict hoff⟩

/-- **The first obstacle stops the start.**  Whatever the files are, a start from a configuration
file ends, with what `Starts` says and in no other way: with the fault of the configuration, or with
the first node that cannot be opened, or with the firmware if it is refused, or with the session.
All files are what they were.  And if the configuration has a fault, then the start is the loading
of the configuration and nothing else, with all that is reported on the way; so no node is opened,
as the opening of a node is reported. -/
theorem first_obstacle_stops_the_start (files : Files) (path : String) :
    (∃ r, Starts files path r) ∧
    (∀ r files', (fromConfigFile path).Yields files r files' ↔
      Starts files path r ∧ files' = files) ∧
    ∀ cause, (Config.loadFrom path).Yields files (.error cause) files →
      (fromConfigFile path).run files =
        ((fun _ => .error (.config cause)) <$> Config.loadFrom path).run files := by
  refine ⟨exists_starts files path, fun r files' => ⟨fun h => ?_, ?_⟩, fun cause hload => ?_⟩
  · obtain ⟨r', hstarts⟩ := exists_starts files path
    obtain ⟨rfl, rfl⟩ := h.unique hstarts.yields
    exact ⟨hstarts, rfl⟩
  · rintro ⟨hstarts, rfl⟩
    exact hstarts.yields
  · obtain ⟨events, he⟩ := hload
    rw [map_eq_pure_bind, fromConfigFile, run_bind, run_bind, he]

/-- A host with a card of three nodes, and a file beside them. -/
def besideCard (file : File) : Files := Files.withThreeNodes.set ["work", "rc"] file

theorem locate_besideCard (file : File) :
    (besideCard file).locate "rc" = .ok ["work", "rc"] ∧
    (besideCard file).bytesAt ["work", "io"] = [1, 2, 3, 4] ∧
    (besideCard file).openNode "io" = .ok ["work", "io"] ∧
    (besideCard file).openNode "tx" = .ok ["work", "tx"] ∧
    (besideCard file).openNode "rx" = .ok ["work", "rx"] ∧
    (besideCard file).openNode "gone" = .error (.system .noEntry) := by
  refine ⟨?_, ?_, ?_, ?_, ?_, ?_⟩ <;> cbv

/-- The host whose file has the text of a configuration. -/
def configured (config : Config) : Files :=
  besideCard { kind := .regular (.ofBytes config.toText.toUTF8) }

theorem gives_configured {config : Config} (hascii : config.IsAscii)
    (hvalid : config.validate = .ok ()) : Config.Gives (configured config) "rc" (.ok config) := by
  have hread : (configured config).readText "rc" = .ok config.toText :=
    Files.readText_of_text (locate_besideCard _).1 rfl
  exact .valid hread (Config.ofText_toText hascii) hvalid

/-- A configuration that does not accept the firmware in the register node. -/
def strictConfig (toHost : String) : Config where
  device := ⟨"io", some "tx", some toHost⟩
  registers := { version := 0 }
  strictFirmware := true

theorem gives_strictConfig {toHost : String} (hhost : Config.IsAsciiText toHost)
    (hvalid : (strictConfig toHost).validate = .ok ()) :
    Config.Gives (configured (strictConfig toHost)) "rc" (.ok (strictConfig toHost)) := by
  have huser : Config.IsAsciiText "io" := by decide
  refine gives_configured ⟨huser, ?_, ?_, ?_⟩ hvalid
  · rintro _ ⟨⟩
    decide
  · rintro _ ⟨⟩
    exact hhost
  · rintro _ ⟨⟩

/-- The firmware is refused, but not if the last node cannot be opened. -/
theorem first_obstacle_stops_the_start_before_the_firmware :
    (fromConfigFile "rc").Yields (configured (strictConfig "rx"))
      (.error (.frontEnd (.unsupportedFirmware ⟨0, 0x3020, 2⟩ {}))) (configured (strictConfig "rx")) ∧
    (fromConfigFile "rc").Yields (configured (strictConfig "gone"))
      (.error (.frontEnd (.unavailable "gone" (.system .noEntry))))
      (configured (strictConfig "gone")) := by
  obtain ⟨-, hstarts, -⟩ := first_obstacle_stops_the_start (configured (strictConfig "rx")) "rc"
  obtain ⟨-, hstops, -⟩ := first_obstacle_stops_the_start (configured (strictConfig "gone")) "rc"
  refine ⟨(hstarts _ _).mpr ⟨?_, rfl⟩, (hstops _ _).mpr ⟨?_, rfl⟩⟩
  · have hgives := gives_strictConfig (by decide) (show (strictConfig "rx").validate = .ok () by decide)
    obtain ⟨-, hbytes, hio, htx, hrx, -⟩ := locate_besideCard
      { kind := .regular (.ofBytes (strictConfig "rx").toText.toUTF8) }
    have hfirmware : ⟨0, 0x3020, 2⟩ =
        Firmware.ofFile (configured (strictConfig "rx")) ["work", "io"] { version := 0 } := by
      rw [Firmware.ofFile, configured, hbytes]
      decide
    have hnodes : Wiring.Opens ⟨["work", "io"], some ["work", "tx"], some ["work", "rx"]⟩
        (configured (strictConfig "rx")) (strictConfig "rx").device := ⟨hio, .some htx, .some hrx⟩
    refine .unsupported hgives hnodes hfirmware rfl ?_
    rw [← FirmwareRange.supports_iff]
    decide
  · have hgives :=
      gives_strictConfig (by decide) (show (strictConfig "gone").validate = .ok () by decide)
    obtain ⟨-, -, hio, htx, -, hgone⟩ := locate_besideCard
      { kind := .regular (.ofBytes (strictConfig "gone").toText.toUTF8) }
    refine .unavailable hgives ⟨⟨["io", "tx"], [], rfl, ?_⟩, hgone⟩
    rw [List.forall_mem_cons, List.forall_mem_singleton]
    exact ⟨⟨_, hio⟩, ⟨_, htx⟩⟩

end Session
end RadioFrontEnd
