import Mathlib
import RadioFrontEnd.Proofs.Config.Numbers
import RadioFrontEnd.Proofs.Yaml.KeyLimit

/-!
# Partial configurations

A document need not give a whole configuration.  Here it is a list of parts, in any order: sections
of numbers, the flag for strict firmware, and keys that nobody knows.  What comes out has every part
that is given and the standard value of every other (`Overlays`), and it comes out of exactly the
documents that are `Fit`.

A missed key would be no error: the standard value would stand in its place, and the document would
be read all the same.  So the statement is about every value of the result, given or not.

The parts are taken one after the other.  Each step keeps what the parts before have made, because a
known key does not come twice (`Overlays.concat`); the whole document follows by induction from the
last part on.

Keys cannot be arbitrarily long, and numbers cannot be padded with zeros.  A word is told from a key
only at its colon, and the scanner does not wait for the colon longer than `Scanner.maxKey`
characters; a padded number is a text.
-/

namespace RadioFrontEnd.Config

open Yaml (Decoder Document Literal Outline Scanner)

/-! ## Parts of a document -/

/-- The ways to write a truth value. -/
def truthWords : Bool → List String
  | true => ["true", "True", "TRUE"]
  | false => ["false", "False", "FALSE"]

/-- A truth value as it is written. -/
structure Truth where
  /-- The truth value. -/
  value : Bool
  /-- What is written. -/
  text : String
  /-- It is one of the ways. -/
  text_mem : text ∈ truthWords value

/-- A part of a partial configuration: what stands under one of its keys. -/
inductive Part where
  /-- Numbers of the register map. -/
  | registers (s : Section)
  /-- Numbers of the range of firmware. -/
  | firmware (s : Section)
  /-- Does other firmware stop the start? -/
  | strictFirmware (t : Truth)
  /-- An integer under another key. -/
  | other (key : String) (l : Literal)

namespace Part

/-- The key of a part. -/
def key : Part → String
  | registers _ => "registers"
  | firmware _ => "firmware"
  | strictFirmware _ => "strict_firmware"
  | other key _ => key

/-- What stands under the key, with its layout. -/
def outline : Part → Outline
  | registers s | firmware s => s.outline
  | strictFirmware t => .scalar .plain t.text
  | other _ l => .scalar .plain l.text

/-- The part with its key. -/
def entry (p : Part) : String × Outline := (p.key, p.outline)

/-- The integers of a section, and nothing for what is none. -/
def entries : Part → List (String × Literal)
  | registers s | firmware s => s.entries
  | strictFirmware _ | other _ _ => []

/-- The truth value, which is false for what is none. -/
def truth : Part → Bool
  | strictFirmware t => t.value
  | registers _ | firmware _ | other _ _ => false

/-- Keys that are free to choose are as they have to be, and other parts have unknown keys. -/
def IsProper (isKey : List Char → Prop) : Part → Prop
  | registers s | firmware s => ∀ entry ∈ s.entries, isKey entry.1.toList
  | strictFirmware _ => True
  | other key _ => isKey key.toList ∧ ∀ f ∈ fields, f.key ≠ key

/-- The numbers of a section are ones that it takes, and none comes twice. -/
def IsFit : Part → Prop
  | registers s => NumberKey.Fit registerKeys s.entries
  | firmware s => NumberKey.Fit firmwareKeys s.entries
  | strictFirmware _ | other _ _ => True

instance (isKey : List Char → Prop) [DecidablePred isKey] : DecidablePred (IsProper isKey)
  | registers s | firmware s =>
    inferInstanceAs (Decidable (∀ entry ∈ s.entries, isKey entry.1.toList))
  | strictFirmware _ => isTrue trivial
  | other key _ => inferInstanceAs (Decidable (isKey key.toList ∧ ∀ f ∈ fields, f.key ≠ key))

instance : DecidablePred IsFit
  | registers s => inferInstanceAs (Decidable (NumberKey.Fit registerKeys s.entries))
  | firmware s => inferInstanceAs (Decidable (NumberKey.Fit firmwareKeys s.entries))
  | strictFirmware _ | other _ _ => isTrue trivial

/-- What a part changes in a configuration. -/
def change (p : Part) (c : Config) : Config :=
  match p with
  | registers s => { c with registers := NumberKey.overlay registerKeys s.entries {} }
  | firmware s => { c with firmware := NumberKey.overlay firmwareKeys s.entries {} }
  | strictFirmware t => { c with strictFirmware := t.value }
  | other _ _ => c

end Part

/-- The text with some parts. -/
def textOf (parts : List Part) : String := Outline.render (parts.map Part.entry)

/-- The part under a key. -/
def partUnder (key : String) (parts : List Part) : Option Part := parts.find? (·.key = key)

/-- No known key comes twice, and every section is fit. -/
def Fit (parts : List Part) : Prop :=
  ((parts.map Part.key).filter fun key => fields.any (·.key = key)).Nodup ∧
    ∀ p ∈ parts, p.IsFit

instance (parts : List Part) : Decidable (Fit parts) := instDecidableAnd

/-- A configuration has the values that the parts give, and the standard ones elsewhere. -/
structure Overlays (parts : List Part) (c : Config) : Prop where
  /-- Device nodes are not given. -/
  device : c.device = {}
  /-- The registers. -/
  registers : NumberKey.Overlays registerKeys
    (((partUnder "registers" parts).map Part.entries).getD []) {} c.registers
  /-- The firmware. -/
  firmware : NumberKey.Overlays firmwareKeys
    (((partUnder "firmware" parts).map Part.entries).getD []) {} c.firmware
  /-- The flag for strict firmware. -/
  strictFirmware : c.strictFirmware =
    ((partUnder "strict_firmware" parts).map Part.truth).getD false
  /-- How events are shown is not given. -/
  logging : c.logging = {}

/-- The parts determine the whole configuration. -/
theorem Overlays.unique {parts : List Part} {c c' : Config} (h : Overlays parts c)
    (h' : Overlays parts c') : c = c' := by
  have hregisters := registers_eq (h.registers.get_eq h'.registers)
  have hfirmware := firmware_eq (h.firmware.get_eq h'.firmware)
  have hstrict := h.strictFirmware.trans h'.strictFirmware.symm
  have hdevice := h.device.trans h'.device.symm
  have hlogging := h.logging.trans h'.logging.symm
  cases c
  cases c'
  simp only [Config.mk.injEq]
  exact ⟨hdevice, hregisters, hfirmware, hstrict, hlogging⟩

/-! ## One part more -/

section Concat

variable {parts : List Part} {p : Part} {key : String}

theorem partUnder_concat_of_ne (h : p.key ≠ key) :
    partUnder key (parts ++ [p]) = partUnder key parts := by
  rw [partUnder, List.find?_append, List.find?_singleton, decide_eq_false h]
  exact Option.or_none

theorem partUnder_concat_of_new (h : p.key ∉ parts.map Part.key) :
    partUnder p.key (parts ++ [p]) = some p := by
  have hnone : parts.find? (·.key = p.key) = none := by
    rw [List.find?_eq_none]
    intro q hq hkey
    exact h (List.mem_map.mpr ⟨q, hq, of_decide_eq_true hkey⟩)
  rw [partUnder, List.find?_append, List.find?_singleton, decide_eq_true rfl, hnone]
  rfl

/-- **A part more is laid over what the parts before have made.** -/
theorem Overlays.concat {c : Config} {isKey : List Char → Prop} (h : Overlays parts c)
    (hproper : p.IsProper isKey) (hfit : p.IsFit)
    (hnew : fields.any (·.key = p.key) = true → p.key ∉ parts.map Part.key) :
    Overlays (parts ++ [p]) (p.change c) := by
  obtain ⟨hdevice, hregisters, hfirmware, hstrict, hlogging⟩ := h
  have hkept {name : String} (hne : p.key ≠ name) :
      partUnder name (parts ++ [p]) = partUnder name parts := partUnder_concat_of_ne hne
  -- A part with a known key is found under it because the key is new, and nothing else moves.
  cases p with
  | registers s =>
    have hknown : fields.any (·.key = "registers") = true := by decide
    have hfound : partUnder "registers" (parts ++ [.registers s]) = some (.registers s) :=
      partUnder_concat_of_new (hnew hknown)
    refine ⟨hdevice, ?_, ?_, ?_, hlogging⟩
    · rw [hfound]
      exact NumberKey.overlays_overlay registerKeys_lawful hfit {}
    · rwa [hkept (show "registers" ≠ "firmware" by decide)]
    · rwa [hkept (show "registers" ≠ "strict_firmware" by decide)]
  | firmware s =>
    have hknown : fields.any (·.key = "firmware") = true := by decide
    have hfound : partUnder "firmware" (parts ++ [.firmware s]) = some (.firmware s) :=
      partUnder_concat_of_new (hnew hknown)
    refine ⟨hdevice, ?_, ?_, ?_, hlogging⟩
    · rwa [hkept (show "firmware" ≠ "registers" by decide)]
    · rw [hfound]
      exact NumberKey.overlays_overlay firmwareKeys_lawful hfit {}
    · rwa [hkept (show "firmware" ≠ "strict_firmware" by decide)]
  | strictFirmware t =>
    have hknown : fields.any (·.key = "strict_firmware") = true := by decide
    have hfound : partUnder "strict_firmware" (parts ++ [.strictFirmware t]) =
        some (.strictFirmware t) :=
      partUnder_concat_of_new (hnew hknown)
    refine ⟨hdevice, ?_, ?_, ?_, hlogging⟩
    · rwa [hkept (show "strict_firmware" ≠ "registers" by decide)]
    · rwa [hkept (show "strict_firmware" ≠ "firmware" by decide)]
    · rw [hfound]
      rfl
  | other key l =>
    have hne {name : String} (hname : fields.any (·.key = name) = true) :
        (Part.other key l).key ≠ name := by
      rintro rfl
      obtain ⟨f, hf, hkey⟩ := List.any_eq_true.mp hname
      exact hproper.2 f hf (of_decide_eq_true hkey)
    refine ⟨hdevice, ?_, ?_, ?_, hlogging⟩
    · rwa [hkept (hne (by decide))]
    · rwa [hkept (hne (by decide))]
    · rwa [hkept (hne (by decide))]

end Concat

/-- What some parts make of the standard configuration. -/
def overlay (parts : List Part) : Config := parts.foldl (fun c p => p.change c) {}

theorem fit_of_fit_concat {parts : List Part} {p : Part} (h : Fit (parts ++ [p])) :
    Fit parts ∧ p.IsFit ∧
      (fields.any (·.key = p.key) = true → p.key ∉ parts.map Part.key) := by
  obtain ⟨honce, hfit⟩ := h
  rw [List.map_append, List.filter_append, List.nodup_append] at honce
  rw [List.forall_mem_append, List.forall_mem_singleton] at hfit
  refine ⟨⟨honce.1, hfit.1⟩, hfit.2, fun hknown hmem => ?_⟩
  refine honce.2.2 p.key (List.mem_filter.mpr ⟨hmem, hknown⟩) p.key ?_ rfl
  rw [List.map_singleton, List.filter_singleton, hknown]
  exact List.mem_singleton_self _

/-- **Parts that fit are laid over the standard configuration.** -/
theorem overlays_overlay {parts : List Part} {isKey : List Char → Prop}
    (hproper : ∀ p ∈ parts, p.IsProper isKey) (hfit : Fit parts) :
    Overlays parts (overlay parts) := by
  -- The parts are taken from the first on, so the last one meets what all the others have made.
  induction parts using List.reverseRecOn with
  | nil => exact ⟨rfl, fun _ _ => rfl, fun _ _ => rfl, rfl, rfl⟩
  | append_singleton parts p ih =>
    obtain ⟨hparts, hp, hnew⟩ := fit_of_fit_concat hfit
    rw [List.forall_mem_append, List.forall_mem_singleton] at hproper
    rw [overlay, List.foldl_append]
    exact (ih hproper.1 hparts).concat hproper.2 hp hnew

/-! ## What is read -/

theorem registers_mem : .nested "registers" "struct RegisterMap" registerFields {} (·.registers)
    (fun x c => { c with registers := x }) ∈ fields := by
  simp [fields]

theorem firmware_mem : .nested "firmware" "struct FirmwareSupport" firmwareFields {} (·.firmware)
    (fun x c => { c with firmware := x }) ∈ fields := by
  simp [fields]

theorem strictFirmware_mem : .flag "strict_firmware" (·.strictFirmware)
    (fun x c => { c with strictFirmware := x }) ∈ fields := by
  simp [fields]

theorem nodup_keys : (fields.map (·.key)).Nodup := by decide

theorem isKey_of_mem_fields : ∀ f ∈ fields, Scanner.IsKey f.key.toList := by decide

namespace Part

variable {p : Part}

/-- A truth value is read as it is written. -/
theorem readBoolean?_text (t : Truth) : Yaml.Value.readBoolean? t.text = some t.value := by
  obtain ⟨value, text, hmem⟩ := t
  cases value with
  | true => exact if_pos (List.contains_iff_mem.mpr hmem)
  | false =>
    have hall : (truthWords false).all (Yaml.Value.readBoolean? · = some false) = true := by decide
    exact of_decide_eq_true (List.all_eq_true.mp hall text hmem)

theorem isWord_text (t : Truth) : Yaml.IsWord t.text.toList := by
  obtain ⟨value, text, hmem⟩ := t
  have hall : (truthWords value).all (fun s => decide (Yaml.IsWord s.toList)) = true := by
    cases value <;> decide
  exact of_decide_eq_true (List.all_eq_true.mp hall text hmem)

/-- A part that fits changes the configuration. -/
theorem changes_change {isKey : List Char → Prop} (hproper : p.IsProper isKey) (hfit : p.IsFit) :
    Decoder.Changes (Field.entriesOf fields) p.entry p.change := by
  cases p with
  | registers s =>
    have htakes := NumberKey.section_takes registerKeys_lawful hfit "struct RegisterMap" {}
    rw [← registerFields_eq] at htakes
    exact Field.changes_of_takes nodup_keys registers_mem (Field.of_takes htakes)
  | firmware s =>
    have htakes := NumberKey.section_takes firmwareKeys_lawful hfit "struct FirmwareSupport" {}
    rw [← firmwareFields_eq] at htakes
    exact Field.changes_of_takes nodup_keys firmware_mem (Field.of_takes htakes)
  | strictFirmware t =>
    have htakes := Decoder.boolean_takes_of_readBoolean? (readBoolean?_text t)
    exact Field.changes_of_takes nodup_keys strictFirmware_mem (Field.of_takes htakes)
  | other key l => exact Field.changes_of_unknown hproper.2

/-- A part that does not fit is refused. -/
theorem isRefused_of_not_fit (hfit : ¬ p.IsFit) :
    Decoder.IsRefused (Field.entriesOf fields) p.entry := by
  cases p with
  | registers s =>
    have hrefuses := NumberKey.section_refuses registerKeys_lawful hfit "struct RegisterMap" {}
    rw [← registerFields_eq] at hrefuses
    exact Field.isRefused_of_refuses nodup_keys registers_mem (Field.of_refuses hrefuses)
  | firmware s =>
    have hrefuses := NumberKey.section_refuses firmwareKeys_lawful hfit "struct FirmwareSupport" {}
    rw [← firmwareFields_eq] at hrefuses
    exact Field.isRefused_of_refuses nodup_keys firmware_mem (Field.of_refuses hrefuses)
  | strictFirmware t => exact absurd trivial hfit
  | other key l => exact absurd trivial hfit

/-- A part can be written if its keys can. -/
theorem isLegible (hproper : p.IsProper Scanner.IsKey) :
    Scanner.IsKey p.key.toList ∧ p.outline.IsLegible := by
  cases p with
  | registers s => exact ⟨isKey_of_mem_fields _ registers_mem, Section.isLegible hproper⟩
  | firmware s => exact ⟨isKey_of_mem_fields _ firmware_mem, Section.isLegible hproper⟩
  | strictFirmware t =>
    rw [outline, Outline.IsLegible]
    exact ⟨isKey_of_mem_fields _ strictFirmware_mem, Yaml.Tree.suits_of_isWord (isWord_text t)⟩
  | other key l =>
    rw [outline, Outline.IsLegible]
    exact ⟨hproper.1, l.suits_text⟩

end Part

section Parts

variable {parts : List Part}

theorem knownKeys_entry (parts : List Part) :
    Decoder.knownKeys (Field.entriesOf fields) (parts.map Part.entry) =
      (parts.map Part.key).filter fun key => fields.any (·.key = key) := by
  rw [Field.knownKeys_entriesOf, List.map_map]
  rfl

theorem entries_ne_nil (hne : parts ≠ []) : parts.map Part.entry ≠ [] := by
  rw [ne_eq, List.map_eq_nil_iff]
  exact hne

theorem areLegible_entries (hproper : ∀ p ∈ parts, p.IsProper Scanner.IsKey) :
    Outline.AreLegible (parts.map Part.entry) := by
  rw [Outline.areLegible_iff, List.forall_mem_map]
  exact fun p hp => Part.isLegible (hproper p hp)

theorem decodeAll_takes_parts {isKey : List Char → Prop} (hproper : ∀ p ∈ parts, p.IsProper isKey)
    (hfit : Fit parts) (expected : String) (depth : Nat) :
    (Field.decodeAll expected fields {}).Takes (.record depth (parts.map Part.entry))
      (overlay parts) :=
  Decoder.record_takes_map (fun p hp => Part.changes_change (hproper p hp) (hfit.2 p hp))
    (knownKeys_entry parts ▸ hfit.1) expected {} depth

theorem decodeAll_refuses_parts {isKey : List Char → Prop}
    (hproper : ∀ p ∈ parts, p.IsProper isKey) (hfit : ¬ Fit parts) (expected : String)
    (depth : Nat) :
    (Field.decodeAll expected fields {}).Refuses (.record depth (parts.map Part.entry)) := by
  rw [Fit, ← knownKeys_entry] at hfit
  exact Decoder.record_refuses_map (fun p hp => Part.changes_change (hproper p hp))
    (fun _ _ => Part.isRefused_of_not_fit) hfit expected {} depth

theorem ofText_textOf_of_fit (hne : parts ≠ []) (hproper : ∀ p ∈ parts, p.IsProper Scanner.IsKey)
    (hfit : Fit parts) : ofText (textOf parts) = .ok (overlay parts) :=
  Document.decode_ofText_render (entries_ne_nil hne) (areLegible_entries hproper)
    (decodeAll_takes_parts hproper hfit "struct SaturnConfig" 0) {}

theorem exists_ofText_textOf_eq_error (hne : parts ≠ [])
    (hproper : ∀ p ∈ parts, p.IsProper Scanner.IsKey) (hfit : ¬ Fit parts) :
    ∃ e, ofText (textOf parts) = .error e :=
  Document.exists_decode_ofText_render_eq_error (entries_ne_nil hne) (areLegible_entries hproper)
    (decodeAll_refuses_parts hproper hfit "struct SaturnConfig" 0) {}

/-- **A partial document overlays the standard configuration, and no number is cut.**  If no known
key comes twice and every number is one that its key takes, then the document is read, with what is
given in its place and the standard value everywhere else.  Otherwise the document is refused. -/
theorem partial_document_overlays_the_standard_configuration (hne : parts ≠ [])
    (hproper : ∀ p ∈ parts, p.IsProper Scanner.IsKey) :
    (Fit parts → ∃ c, ofText (textOf parts) = .ok c ∧ Overlays parts c) ∧
      (¬ Fit parts → ∃ e, ofText (textOf parts) = .error e) :=
  ⟨fun hfit => ⟨overlay parts, ofText_textOf_of_fit hne hproper hfit,
    overlays_overlay hproper hfit⟩, exists_ofText_textOf_eq_error hne hproper⟩

/-- Numbers in all notations, in sections that are out of order, with keys that nobody knows. -/
def motley : List Part := [
  .firmware ⟨2, [("version_max", .ofInt .hexadecimal 30), ("colour", .ofInt .decimal (-4))],
    by decide, by decide⟩,
  .other "note" (.ofInt .binary 5),
  .registers ⟨4, [("fifo_reset", .ofInt .octal 41000), ("sw_version", .ofInt .decimal 7)],
    by decide, by decide⟩,
  .strictFirmware ⟨true, "TRUE", by decide⟩]

/-- The standard configuration under the motley parts. -/
def motleyConfig : Config :=
  { registers := { version := 7, reset := 41000 }
    firmware := { versionMax := 30 }
    strictFirmware := true }

/-- The motley document is laid over the standard configuration. -/
theorem motley_document_overlays_the_standard_configuration :
    textOf motley = "firmware:\n  version_max: 0x1e\n  colour: -4\nnote: 0b101\n" ++
      "registers:\n    fifo_reset: 0o120050\n    sw_version: 7\nstrict_firmware: TRUE\n" ∧
    (∀ p ∈ motley, p.IsProper Scanner.IsKey) ∧ Fit motley ∧
    ofText (textOf motley) = .ok motleyConfig := by
  have hproper : ∀ p ∈ motley, p.IsProper Scanner.IsKey := by decide
  have hfit : Fit motley := by decide
  have hover : Overlays motley motleyConfig := ⟨rfl, by decide, by decide, by decide, rfl⟩
  obtain ⟨hread, -⟩ := partial_document_overlays_the_standard_configuration (by decide) hproper
  obtain ⟨c, hc, hc'⟩ := hread hfit
  rw [hover.unique hc']
  exact ⟨by cbv, hproper, hfit, hc⟩

/-! ## Where a document is refused all the same

Two things are no fault of a document as it is meant, and it is refused all the same: a key that is
longer than the scanner waits for, even if nobody knows it, and a number with a needless zero in
front, even if it is small enough. -/

/-- A key of one character more than the scanner waits for. -/
def longKey : String := .ofList (List.replicate (Scanner.maxKey + 1) 'a')

/-- An unknown key that is too long, before the flag for strict firmware. -/
def longKeyed : List Part :=
  [.other longKey (.ofInt .decimal 1), .strictFirmware ⟨true, "true", by decide⟩]

/-- A number with needless zeros in front. -/
def padded : Literal :=
  ⟨.unsigned, .decimal, ['0', '0', '7'], by decide, List.forall_iff_forall_mem.mp (by decide)⟩

/-- A register with the padded number. -/
def paddedRegister : List Part := [.registers ⟨2, [("sw_version", padded)], by decide, by decide⟩]

theorem length_longKey : longKey.toList.length = Scanner.maxKey + 1 := by
  rw [longKey, String.toList_ofList, List.length_replicate]

theorem isWord_longKey : Yaml.IsWord longKey.toList := by
  refine ⟨fun h => ?_, fun c hc => ?_⟩
  · have hlength := length_longKey
    rw [h] at hlength
    cases hlength
  · rw [longKey, String.toList_ofList] at hc
    rw [List.eq_of_mem_replicate hc]
    decide

theorem longKey_unknown : ∀ f ∈ fields, f.key ≠ longKey := by
  intro f hf heq
  have hlength := (isKey_of_mem_fields f hf).2
  rw [heq, length_longKey] at hlength
  exact absurd hlength (Nat.not_succ_le_self _)

theorem fit_longKeyed : Fit longKeyed := by
  have hne : longKey ≠ "strict_firmware" := (longKey_unknown _ strictFirmware_mem).symm
  have honce : (longKeyed.map Part.key).Nodup := by
    simpa [longKeyed, Part.key] using hne
  refine ⟨honce.filter _, ?_⟩
  simp only [longKeyed, List.forall_mem_cons]
  exact ⟨trivial, trivial, by simp⟩

theorem exists_ofText_longKeyed_eq_error : ∃ e, ofText (textOf longKeyed) = .error e := by
  have hlong : Scanner.maxKey < longKey.toList.length := by
    rw [length_longKey]
    exact Nat.lt_succ_self _
  have hflag : Outline.AreLegible [(Part.strictFirmware ⟨true, "true", by decide⟩).entry] := by
    rw [Outline.areLegible_iff, List.forall_mem_singleton]
    exact Part.isLegible trivial
  have hnumber : (Part.other longKey (.ofInt .decimal 1)).outline.IsLegible := by
    rw [Part.outline, Outline.IsLegible]
    exact Literal.suits_text _
  exact Document.exists_decode_eq_error_of_long_key isWord_longKey hlong hnumber hflag
    "struct SaturnConfig" (Field.entriesOf fields) {}

/-- **Long keys and needless zeros are refused.**  In the first document every key is a word and all
values fit; in the second the number is below the bound of its register. -/
theorem long_keys_and_needless_zeros_are_refused :
    ((∀ p ∈ longKeyed, p.IsProper Yaml.IsWord) ∧ Fit longKeyed ∧
      ∃ e, ofText (textOf longKeyed) = .error e) ∧
    (padded.text = "007" ∧ padded.value = 7 ∧
      ∃ e, ofText (textOf paddedRegister) = .error e) := by
  have hproper : ∀ p ∈ longKeyed, p.IsProper Yaml.IsWord := by
    simp only [longKeyed, List.forall_mem_cons]
    exact ⟨⟨isWord_longKey, longKey_unknown⟩, trivial, by simp⟩
  exact ⟨⟨hproper, fit_longKeyed, exists_ofText_longKeyed_eq_error⟩, by decide, by decide,
    exists_ofText_textOf_eq_error (by decide) (by decide) (by decide)⟩

end Parts

end RadioFrontEnd.Config
