import Mathlib.Data.List.Nodup
import RadioFrontEnd.Config.Validation
import RadioFrontEnd.Proofs.Word

/-!
# Which configurations are valid

The rules for configurations are a list (`Config.rules`): each says when a configuration breaks it,
and what is told about it then.  A configuration may break many of them, and what is told is about
the first.  `Rule.verdict` is the answer that such a list gives, and `validate_eq_verdict` says that
validation gives it.

## Distinct bits

That is plain for every rule but one.  The rules for the reset bits compare a channel with each one
before it.  Validation never compares two channels: it marks the bits in a mask as it goes, and looks
up each bit there.  `Marks` is what the mask and the channels have in common, and it is kept from
channel to channel.

Marking a bit is a shift, and a shift past the mask would be a fault and no answer.  `shiftBits` is
the check with each of its shifts made in this sense, two for every channel, and `shiftBits_eq_ok`
says that none of them goes past the mask: a bit is tried against the width of the register before
anything is shifted by it.
-/

namespace RadioFrontEnd.Config

/-! ## Rules in order -/

/-- A rule for configurations, in view of one of them. -/
structure Rule where
  /-- The configuration breaks the rule. -/
  isBroken : Bool
  /-- What is told about it then. -/
  violation : Violation

namespace Rule

/-- What a list of rules says about a configuration: the first that is broken is told about. -/
def verdict (rules : List Rule) : Except Violation Unit :=
  match rules.find? isBroken with
  | some r => .error r.violation
  | none => .ok ()

theorem verdict_cons (r : Rule) (rules : List Rule) :
    verdict (r :: rules) = if r.isBroken then .error r.violation else verdict rules := by
  rw [verdict, List.find?_cons]
  cases r.isBroken <;> rfl

theorem verdict_append (rules more : List Rule) :
    verdict (rules ++ more) = (do verdict rules; verdict more) := by
  rw [verdict, verdict, List.find?_append]
  cases rules.find? isBroken <;> rfl

theorem verdict_eq_ok_iff {rules : List Rule} :
    verdict rules = .ok () ↔ ∀ r ∈ rules, r.isBroken = false := by
  rw [verdict]
  cases hfind : rules.find? isBroken with
  | none => simpa using List.find?_eq_none.mp hfind
  | some r =>
    have hbroken : r.isBroken = true := List.find?_some hfind
    refine ⟨nofun, fun h => ?_⟩
    rw [h r (List.mem_of_find?_eq_some hfind)] at hbroken
    cases hbroken

/-- What is told is told by a broken rule with only kept ones before it. -/
theorem verdict_eq_error_iff {rules : List Rule} {v : Violation} :
    verdict rules = .error v ↔
      ∃ before r after, rules = before ++ r :: after ∧ (∀ q ∈ before, q.isBroken = false) ∧
        r.isBroken = true ∧ r.violation = v := by
  constructor
  · intro h
    rw [verdict] at h
    cases hfind : rules.find? isBroken with
    | none =>
      rw [hfind] at h
      cases h
    | some r =>
      rw [hfind] at h
      cases h
      obtain ⟨hbroken, before, after, hrules, hbefore⟩ := List.find?_eq_some_iff_append.mp hfind
      exact ⟨before, r, after, hrules, fun q hq => by simpa using hbefore q hq, hbroken, rfl⟩
  · rintro ⟨before, r, after, rfl, hbefore, hbroken, rfl⟩
    rw [verdict_append, verdict_eq_ok_iff.mpr hbefore]
    show verdict (r :: after) = _
    rw [verdict_cons, if_pos hbroken]

end Rule

/-- The rules for the reset bits of some channels, given the channels before them: the bit of a
channel lies in the register, and it is the bit of no channel before. -/
def bitRules (map : RegisterMap) : (earlier : List Channel) → List Channel → List Rule
  | _, [] => []
  | earlier, c :: cs =>
    ⟨32 ≤ map.resetBit c, .bitOutside (map.resetBit c) c⟩ ::
      ⟨earlier.any (map.resetBit · == map.resetBit c), .bitShared (map.resetBit c) c⟩ ::
      bitRules map (earlier ++ [c]) cs

/-- The rule for the address of a register: it is a multiple of four. -/
def addressRule (register : String) (address : UInt32) : Rule :=
  ⟨¬ 4 ∣ address.toNat, .unaligned register address⟩

/-- The rules for a configuration, in the order in which they count. -/
def rules (c : Config) : List Rule :=
  [⟨c.device.user = "", .noUserNode⟩] ++
  bitRules c.registers [] [.rx, .tx, .mic, .spk] ++
  [addressRule "sw_version" c.registers.version,
    addressRule "fifo_monitor_base" c.registers.monitorBase,
    addressRule "fifo_config_offset" c.registers.configOffset,
    addressRule "fifo_reset" c.registers.reset] ++
  [⟨c.firmware.versionMax < c.firmware.versionMin ∨ c.firmware.majorMax < c.firmware.majorMin,
    .noFirmware c.firmware⟩]

/-! ## Marked bits -/

/-- The mask has the bits of some channels, and no others. -/
def Marks (map : RegisterMap) (mask : UInt32) (cs : List Channel) : Prop :=
  ∀ bit < 32, Word.hasBit mask bit.toNat = cs.any (map.resetBit · == bit)

variable {map : RegisterMap} {mask : UInt32}

theorem marks_nil (map : RegisterMap) : Marks map 0 [] :=
  fun bit _ => Word.hasBit_zero bit.toNat

/-- To mark the bit of a channel adds the channel. -/
theorem Marks.concat {cs : List Channel} (h : Marks map mask cs) {c : Channel}
    (hc : map.resetBit c < 32) : Marks map (mask ||| 1 <<< map.resetBit c) (cs ++ [c]) := by
  intro bit hbit
  have hsame : decide ((map.resetBit c).toNat = bit.toNat) = (map.resetBit c == bit) := by
    rw [Bool.eq_iff_iff, decide_eq_true_iff, beq_iff_eq, UInt32.toNat_inj]
  rw [Word.hasBit_or, h bit hbit, Word.hasBit_one_shiftLeft hc, hsame, List.any_append,
    List.any_cons, List.any_nil, Bool.or_false]

/-- To look up a bit in the mask is to compare it with the bits of all channels marked there. -/
theorem Marks.and_ne_zero_iff {cs : List Channel} (h : Marks map mask cs) {bit : UInt32}
    (hbit : bit < 32) :
    mask &&& 1 <<< bit ≠ 0 ↔ cs.any (map.resetBit · == bit) = true := by
  rw [← bne_iff_ne, Word.and_one_shiftLeft_bne_zero hbit, h bit hbit]

theorem checkBits_eq_verdict {earlier : List Channel} (h : Marks map mask earlier)
    (cs : List Channel) : checkBits map mask cs = Rule.verdict (bitRules map earlier cs) := by
  induction cs generalizing mask earlier with
  | nil => rfl
  | cons c cs ih =>
    rw [checkBits, bitRules, Rule.verdict_cons, Rule.verdict_cons]
    by_cases hc : map.resetBit c < 32
    · have hmask : map.resetMask c = .ok (1 <<< map.resetBit c) :=
        Word.bit_eq_ok_iff.mpr ⟨hc, rfl⟩
      have hinside : decide (32 ≤ map.resetBit c) = false :=
        decide_eq_false (UInt32.not_le.mpr hc)
      simp only [hmask, hinside, Bool.false_eq_true, if_false, h.and_ne_zero_iff hc,
        ih (h.concat hc)]
    · have hmask : ∃ fault, map.resetMask c = .error fault :=
        ⟨.shiftOverflow, if_neg hc⟩
      obtain ⟨fault, hmask⟩ := hmask
      have houtside : decide (32 ≤ map.resetBit c) = true := decide_eq_true (UInt32.not_lt.mp hc)
      simp only [hmask, houtside, if_true]

/-- The check of the reset bits as a sequence of steps, in which a shift past the mask is a fault.
Each bit is tried against the width first, then looked up in the mask, then marked there. -/
def shiftBits (map : RegisterMap) :
    (mask : UInt32) → List Channel → Except Fault (Except Violation Unit)
  | _, [] => return .ok ()
  | mask, c :: cs => do
    if 32 ≤ map.resetBit c then
      return .error (.bitOutside (map.resetBit c) c)
    if mask &&& (← Word.bit (map.resetBit c)) ≠ 0 then
      return .error (.bitShared (map.resetBit c) c)
    shiftBits map (mask ||| (← Word.bit (map.resetBit c))) cs

/-- **No shift goes past the mask**, whatever the bits are. -/
theorem shiftBits_eq_ok (map : RegisterMap) (mask : UInt32) (cs : List Channel) :
    shiftBits map mask cs = .ok (checkBits map mask cs) := by
  induction cs generalizing mask with
  | nil => rfl
  | cons c cs ih =>
    rw [shiftBits, checkBits]
    by_cases hc : map.resetBit c < 32
    · have hbit : Word.bit (map.resetBit c) = .ok (1 <<< map.resetBit c) :=
        Word.bit_eq_ok_iff.mpr ⟨hc, rfl⟩
      have hmask : map.resetMask c = .ok (1 <<< map.resetBit c) := hbit
      rw [if_neg (UInt32.not_le.mpr hc), hbit, hmask]
      simp only [bind, Except.bind, pure, Except.pure, ih]
      split <;> rfl
    · have hmask : map.resetMask c = .error .shiftOverflow := if_neg hc
      rw [if_pos (UInt32.not_lt.mp hc), hmask]
      rfl

/-! ## The whole of validation -/

theorem checkAddresses_eq_verdict (addresses : List (String × UInt32)) :
    checkAddresses addresses = Rule.verdict (addresses.map fun a => addressRule a.1 a.2) := by
  induction addresses with
  | nil => rfl
  | cons a addresses ih =>
    obtain ⟨register, address⟩ := a
    have hbroken : (addressRule register address).isBroken = true ↔ address % 4 ≠ 0 := by
      rw [addressRule, decide_eq_true_iff, Nat.dvd_iff_mod_eq_zero, ne_eq, ← UInt32.toNat_inj,
        UInt32.toNat_mod]
      rfl
    rw [checkAddresses, List.map_cons, Rule.verdict_cons, ih]
    simp only [hbroken]
    rfl

theorem checkFirmware_eq_verdict (range : FirmwareRange) :
    checkFirmware range = Rule.verdict
      [⟨range.versionMax < range.versionMin ∨ range.majorMax < range.majorMin,
        .noFirmware range⟩] := by
  rw [checkFirmware, FirmwareRange.isEmpty, Rule.verdict_cons, Bool.decide_or]
  rfl

theorem checkDevice_eq_verdict (paths : NodePaths) :
    checkDevice paths = Rule.verdict [⟨paths.user = "", .noUserNode⟩] := by
  rw [checkDevice, Rule.verdict_cons]
  simp only [decide_eq_true_eq]
  rfl

theorem validate_eq_verdict (c : Config) : c.validate = Rule.verdict c.rules := by
  have hbits : checkBits c.registers 0 Channel.all =
      Rule.verdict (bitRules c.registers [] [.rx, .tx, .mic, .spk]) :=
    checkBits_eq_verdict (marks_nil c.registers) Channel.all
  rw [validate, rules, Rule.verdict_append, Rule.verdict_append, Rule.verdict_append,
    checkDevice_eq_verdict, hbits, checkAddresses_eq_verdict, checkFirmware_eq_verdict]
  simp only [bind_assoc]
  rfl

/-- What a configuration has to be for a host to work with it. -/
structure IsUsable (c : Config) : Prop where
  /-- There is a path for the register node. -/
  user_ne : c.device.user ≠ ""
  /-- The reset bits lie in the reset register. -/
  bit_lt : ∀ channel, c.registers.resetBit channel < 32
  /-- No two channels share a reset bit. -/
  bit_injective : Function.Injective c.registers.resetBit
  /-- The version register lies on a word boundary. -/
  version_aligned : 4 ∣ c.registers.version.toNat
  /-- The status registers lie on word boundaries. -/
  monitorBase_aligned : 4 ∣ c.registers.monitorBase.toNat
  /-- So do the configuration registers. -/
  configOffset_aligned : 4 ∣ c.registers.configOffset.toNat
  /-- The reset register lies on a word boundary. -/
  reset_aligned : 4 ∣ c.registers.reset.toNat
  /-- Some version is accepted. -/
  versions : c.firmware.versionMin ≤ c.firmware.versionMax
  /-- Some major version is accepted. -/
  majors : c.firmware.majorMin ≤ c.firmware.majorMax

/-- Some channels keep the rules for their bits exactly if these lie in the register and, together
with those of the channels before, are all different. -/
theorem bitRules_kept_iff {earlier cs : List Channel} (h : (earlier.map map.resetBit).Nodup) :
    (∀ r ∈ bitRules map earlier cs, r.isBroken = false) ↔
      (∀ c ∈ cs, map.resetBit c < 32) ∧ ((earlier ++ cs).map map.resetBit).Nodup := by
  induction cs generalizing earlier with
  | nil => simp [bitRules, h]
  | cons c cs ih =>
    have hfresh : earlier.any (map.resetBit · == map.resetBit c) = false ↔
        ((earlier ++ [c]).map map.resetBit).Nodup := by
      rw [List.map_append, List.map_singleton, List.nodup_append_comm, List.singleton_append,
        List.nodup_cons, and_iff_left h, List.mem_map, ← Bool.not_eq_true, List.any_eq_true]
      simp only [beq_iff_eq]
    rw [bitRules, List.forall_mem_cons, List.forall_mem_cons, List.forall_mem_cons, hfresh,
      decide_eq_false_iff_not, UInt32.not_le, List.append_cons earlier c cs, and_assoc]
    refine and_congr_right fun _ => ?_
    constructor
    · rintro ⟨hnodup, hrest⟩
      exact (ih hnodup).mp hrest
    · rintro ⟨hbits, hall⟩
      have hnodup : ((earlier ++ [c]).map map.resetBit).Nodup := by
        rw [List.map_append] at hall
        exact hall.of_append_left
      exact ⟨hnodup, (ih hnodup).mpr ⟨hbits, hall⟩⟩

theorem nodup_resetBits_iff (map : RegisterMap) :
    (Channel.all.map map.resetBit).Nodup ↔ Function.Injective map.resetBit := by
  constructor
  · intro h c d hcd
    exact List.inj_on_of_nodup_map h c.mem_all d.mem_all hcd
  · intro h
    exact List.Nodup.map h (by decide)

theorem validate_eq_ok_iff (c : Config) : c.validate = .ok () ↔ c.IsUsable := by
  have hbits : (∀ r ∈ bitRules c.registers [] [.rx, .tx, .mic, .spk], r.isBroken = false) ↔
      (∀ channel, c.registers.resetBit channel < 32) ∧
        Function.Injective c.registers.resetBit := by
    rw [@bitRules_kept_iff c.registers [] _ List.nodup_nil, ← nodup_resetBits_iff]
    exact and_congr_left fun _ => ⟨fun h d => h d d.mem_all, fun h d _ => h d⟩
  rw [validate_eq_verdict, Rule.verdict_eq_ok_iff, rules]
  simp only [List.forall_mem_append, hbits, List.forall_mem_cons, addressRule,
    decide_eq_false_iff_not, not_not, not_or, UInt16.not_lt, UInt8.not_lt]
  constructor
  · rintro ⟨⟨⟨⟨huser, -⟩, hlt, hinjective⟩, hversion, hbase, hoffset, hreset, -⟩,
      ⟨hversions, hmajors⟩, -⟩
    exact ⟨huser, hlt, hinjective, hversion, hbase, hoffset, hreset, hversions, hmajors⟩
  · rintro ⟨huser, hlt, hinjective, hversion, hbase, hoffset, hreset, hversions, hmajors⟩
    have hnone : ∀ r ∈ ([] : List Rule), r.isBroken = false := nofun
    exact ⟨⟨⟨⟨huser, hnone⟩, hlt, hinjective⟩, hversion, hbase, hoffset, hreset, hnone⟩,
      ⟨hversions, hmajors⟩, hnone⟩

/-- **Validation accepts the configurations of use, and tells of the first broken rule otherwise.**
The rules are tried in their order, and what is told is told by a broken rule before which every
rule is kept.  The reset bits are marked in a mask on the way, and no shift goes past that mask. -/
theorem first_broken_rule_decides (c : Config) :
    (c.validate = .ok () ↔ c.IsUsable) ∧
    (∀ v, c.validate = .error v ↔
      ∃ before r after, c.rules = before ++ r :: after ∧ (∀ q ∈ before, q.isBroken = false) ∧
        r.isBroken = true ∧ r.violation = v) ∧
    shiftBits c.registers 0 Channel.all = .ok (checkBits c.registers 0 Channel.all) := by
  refine ⟨validate_eq_ok_iff c, fun v => ?_, shiftBits_eq_ok c.registers 0 Channel.all⟩
  rw [validate_eq_verdict]
  exact Rule.verdict_eq_error_iff

/-- The receiver has a bit outside the register, the microphone shares one with the transmitter, and
the version register lies off a word boundary: the receiver is told about. -/
example :
    validate { registers := { rxResetBit := 35, micResetBit := 2, version := 0xC001 } } =
      .error (.bitOutside 35 .rx) := by
  decide

end RadioFrontEnd.Config
