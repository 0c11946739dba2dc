import Mathlib
import RadioFrontEnd.Proofs.Config.Search
import RadioFrontEnd.Proofs.Yaml.Decoder

/-!
# Configurations saved and loaded

A configuration is written with every key and read over the standard configuration.  A key that got
lost on the way, or a text that was taken for a missing one, would be no error then: the standard
value would stand in its place.  So it is not enough that reading succeeds.  `Field.Restores` says
what each key has to do: from what it writes for a record, it reads the change that puts the part of
the record back.

The changes of all keys of a section together give the section, whatever they start from; for each
section that is one line of its parts in order.  Sections are themselves parts of the configuration,
and so the whole is a section as well.

Texts are the only parts that can go wrong.  They are printable ASCII here (`IsAscii`), which makes
each one a line.  Nothing else is asked of them: whether a text reads as a number, a truth value,
nothing or a comment, ends in spaces or is empty, is up to the style that it is written in.
-/

namespace RadioFrontEnd.Config

open RadioFrontEnd.Action
open Yaml (Decoder Document Node Outline Tree IsLine)

/-! ## Keys that read back what they write -/

namespace Field

variable {ρ σ α : Type} {key expected : String} {r : ρ}

/-- From what the key writes for a record, it reads a change. -/
def Restores (f : Field ρ) (r : ρ) (change : ρ → ρ) : Prop :=
  f.decode.Takes (f.write r).outline change

/-- A key takes what is written for a component, and puts the component back. -/
theorem of_takes {decode : Decoder α} {write : α → Tree} {get : ρ → α} {set : α → ρ → ρ}
    {o : Outline} {x : α} (h : decode.Takes o x) :
    (of key decode write get set).decode.Takes o (set x) := by
  intro d path node hnode
  show (decode d path node).map set = _
  rw [h d path node hnode]
  rfl

/-- A key refuses what is refused for its component. -/
theorem of_refuses {decode : Decoder α} {write : α → Tree} {get : ρ → α} {set : α → ρ → ρ}
    {o : Outline} (h : decode.Refuses o) : (of key decode write get set).decode.Refuses o := by
  intro d path node hnode
  obtain ⟨e, he⟩ := h d path node hnode
  refine ⟨e, ?_⟩
  show (decode d path node).map set = _
  rw [he]
  rfl

theorem of_restores {decode : Decoder α} {write : α → Tree} {get : ρ → α} {set : α → ρ → ρ} {x : α}
    (h : decode.Takes (write (get r)).outline x) :
    (of key decode write get set).Restores r (set x) :=
  of_takes h

theorem natural_restores {bound : Nat} {toNat : α → Nat} {ofNat : Nat → α} {get : ρ → α}
    {set : α → ρ → ρ} (hbound : bound ≤ UInt64.size) (hlt : ∀ x, toNat x < bound)
    (hback : ∀ x, ofNat (toNat x) = x) :
    (of key (Decoder.natural bound expected) .natural (toNat ∘ get) (set ∘ ofNat)).Restores r
      (set (get r)) := by
  have htake := Decoder.natural_takes hbound (hlt (get r)) expected
  rw [← hback (get r)]
  exact of_restores htake

theorem word_restores {get : ρ → UInt32} {set : UInt32 → ρ → ρ} :
    (word key get set).Restores r (set (get r)) :=
  natural_restores (by decide) UInt32.toNat_lt fun _ => UInt32.ofNat_toNat

theorem half_restores {get : ρ → UInt16} {set : UInt16 → ρ → ρ} :
    (half key get set).Restores r (set (get r)) :=
  natural_restores (by decide) UInt16.toNat_lt fun _ => UInt16.ofNat_toNat

theorem byte_restores {get : ρ → UInt8} {set : UInt8 → ρ → ρ} :
    (byte key get set).Restores r (set (get r)) :=
  natural_restores (by decide) UInt8.toNat_lt fun _ => UInt8.ofNat_toNat

theorem flag_restores {get : ρ → Bool} {set : Bool → ρ → ρ} :
    (flag key get set).Restores r (set (get r)) :=
  of_restores (Decoder.boolean_takes (get r))

theorem text_restores {get : ρ → String} {set : String → ρ → ρ} :
    (text key expected get set).Restores r (set (get r)) :=
  of_restores (Decoder.text_takes expected (get r) (Yaml.Written.style (get r)))

theorem text?_restores {get : ρ → Option String} {set : Option String → ρ → ρ} :
    (text? key expected get set).Restores r (set (get r)) :=
  of_restores (Decoder.optional_takes expected (get r))

theorem oneOf_restores {all : List α} {name : α → String} {get : ρ → α} {set : α → ρ → ρ}
    (h : ∀ x, (all.map fun x => (name x, x)).lookup (name x) = some x) :
    (oneOf key all name get set).Restores r (set (get r)) :=
  of_restores (Decoder.oneOf_takes (h (get r)) (Yaml.Written.style (name (get r))))

theorem of_find?_eq_some {xs : List α} {name : α → String} {key : String} {x : α}
    (h : xs.find? (name · = key) = some x) : x ∈ xs ∧ name x = key := by
  have hname := List.find?_some h
  exact ⟨List.mem_of_find?_eq_some h, of_decide_eq_true hname⟩

/-- What has a key of its own is found by its key. -/
theorem find?_eq_of_nodup {xs : List α} {name : α → String} (hnames : (xs.map name).Nodup) {x : α}
    (hx : x ∈ xs) : xs.find? (name · = name x) = some x := by
  have hsome : (xs.find? (name · = name x)).isSome = true :=
    List.find?_isSome.mpr ⟨x, hx, by simp only [decide_true]⟩
  obtain ⟨y, hfind⟩ := Option.isSome_iff_exists.mp hsome
  obtain ⟨hy, hname⟩ := of_find?_eq_some hfind
  rw [hfind, List.inj_on_of_nodup_map hnames hy hx hname]

/-- The keys of a list of fields, for the reader of a record. -/
def entriesOf (fields : List (Field ρ)) : List (Decoder.Entry ρ) :=
  fields.map fun f => ⟨f.key, f.decode⟩

theorem find?_entriesOf (fields : List (Field ρ)) (key : String) :
    (entriesOf fields).find? (·.key = key) =
      (fields.find? (·.key = key)).map fun f => ⟨f.key, f.decode⟩ :=
  List.find?_map

theorem knownKeys_entriesOf (fields : List (Field ρ)) (entries : List (String × Outline)) :
    Decoder.knownKeys (entriesOf fields) entries =
      (entries.map (·.1)).filter fun key => fields.any (·.key = key) := by
  refine List.filter_congr fun key _ => ?_
  rw [find?_entriesOf, Option.isSome_map, List.isSome_find?]

section Entry

variable {fields : List (Field ρ)} {o : Outline}

/-- Under a key of the list, an entry that is taken changes the record. -/
theorem changes_of_takes (hkeys : (fields.map (·.key)).Nodup) {f : Field ρ} (hf : f ∈ fields)
    {change : ρ → ρ} (h : f.decode.Takes o change) :
    Decoder.Changes (entriesOf fields) (f.key, o) change := by
  rw [Decoder.Changes, find?_entriesOf, find?_eq_of_nodup hkeys hf]
  exact h

/-- Under any other key, it leaves the record as it is. -/
theorem changes_of_unknown (h : ∀ f ∈ fields, f.key ≠ key) :
    Decoder.Changes (entriesOf fields) (key, o) id := by
  have hnone : fields.find? (·.key = key) = none :=
    List.find?_eq_none.mpr fun f hf => by simpa only [decide_eq_true_eq] using h f hf
  rw [Decoder.Changes, find?_entriesOf, hnone]
  rfl

/-- Under a key of the list, an entry may be refused. -/
theorem isRefused_of_refuses (hkeys : (fields.map (·.key)).Nodup) {f : Field ρ} (hf : f ∈ fields)
    (h : f.decode.Refuses o) : Decoder.IsRefused (entriesOf fields) (f.key, o) := by
  refine ⟨⟨f.key, f.decode⟩, ?_, h⟩
  rw [find?_entriesOf, find?_eq_of_nodup hkeys hf]
  rfl

end Entry

/-- If each key restores its part, and the parts together are the record, then the list of keys
restores the record. -/
theorem decodeAll_takes {fields : List (Field ρ)} {changes : List (ρ → ρ)} {start : ρ}
    (hfields : List.Forall₂ (fun f change => f.Restores r change) fields changes)
    (hkeys : (fields.map (·.key)).Nodup)
    (hall : changes.foldl (fun acc change => change acc) start = r) :
    (decodeAll expected fields start).Takes (Tree.mapping (writeAll fields r)).outline r := by
  have hentries : Tree.outlines (writeAll fields r) =
      fields.map fun f => (f.key, (f.write r).outline) := by
    rw [Tree.outlines_eq_map, writeAll, List.map_map]
    rfl
  have hchanges : List.Forall₂ (Decoder.Changes (entriesOf fields))
      (fields.map fun f => (f.key, (f.write r).outline)) changes := by
    obtain ⟨hlength, hzip⟩ := List.forall₂_iff_zip.mp hfields
    rw [List.forall₂_map_left_iff, List.forall₂_iff_zip]
    refine ⟨hlength, fun {f change} hmem => ?_⟩
    exact changes_of_takes hkeys (List.of_mem_zip hmem).1 (hzip hmem)
  have hnodup : (Decoder.knownKeys (entriesOf fields)
      (fields.map fun f => (f.key, (f.write r).outline))).Nodup := by
    rw [Decoder.knownKeys, List.map_map]
    exact hkeys.filter _
  have htake := Decoder.record_takes hchanges hnodup expected start 2
  rw [hall] at htake
  rw [Tree.outline, hentries]
  exact htake

theorem nested_restores {fields : List (Field σ)} {start : σ} {get : ρ → σ} {set : σ → ρ → ρ}
    (h : ∀ x, (decodeAll expected fields start).Takes (Tree.mapping (writeAll fields x)).outline x) :
    (nested key expected fields start get set).Restores r (set (get r)) :=
  of_restores (h (get r))

end Field

/-! ## The sections -/

section Sections

open RadioFrontEnd.Config.Field

variable {expected : String}

theorem device_takes (p : NodePaths) :
    (decodeAll expected deviceFields {}).Takes (Tree.mapping (writeAll deviceFields p)).outline p :=
  decodeAll_takes (.cons text_restores (.cons text?_restores (.cons text?_restores .nil)))
    (by decide) rfl

theorem registers_takes (m : RegisterMap) :
    (decodeAll expected registerFields {}).Takes
      (Tree.mapping (writeAll registerFields m)).outline m :=
  decodeAll_takes (.cons word_restores (.cons word_restores (.cons word_restores
    (.cons word_restores (.cons word_restores (.cons word_restores (.cons word_restores
    (.cons word_restores (.cons word_restores .nil))))))))) (by decide) rfl

theorem firmware_takes (range : FirmwareRange) :
    (decodeAll expected firmwareFields {}).Takes
      (Tree.mapping (writeAll firmwareFields range)).outline range :=
  decodeAll_takes (.cons half_restores (.cons half_restores (.cons byte_restores
    (.cons byte_restores .nil)))) (by decide) rfl

theorem lookup_level (x : LogLevel) :
    (LogLevel.all.map fun x => (x.name, x)).lookup x.name = some x := by
  cases x <;> rfl

theorem lookup_format (x : LogFormat) :
    (LogFormat.all.map fun x => (x.name, x)).lookup x.name = some x := by
  cases x <;> rfl

theorem logging_takes (l : LogSettings) :
    (decodeAll expected loggingFields {}).Takes
      (Tree.mapping (writeAll loggingFields l)).outline l :=
  decodeAll_takes (.cons (oneOf_restores lookup_level) (.cons (oneOf_restores lookup_format)
    (.cons flag_restores (.cons flag_restores (.cons flag_restores
    (.cons text?_restores .nil)))))) (by decide) rfl

theorem config_takes (c : Config) :
    (decodeAll expected fields {}).Takes (Tree.mapping (writeAll fields c)).outline c :=
  decodeAll_takes (.cons (nested_restores device_takes) (.cons (nested_restores registers_takes)
    (.cons (nested_restores firmware_takes) (.cons flag_restores
    (.cons (nested_restores logging_takes) .nil))))) (by decide) rfl

end Sections

/-! ## Configurations that can be written -/

/-- All characters of the text are printable and in the ASCII range. -/
def IsAsciiText (s : String) : Prop := ∀ c ∈ s.toList, 0x20 ≤ c.toNat ∧ c.toNat ≤ 0x7E

instance (s : String) : Decidable (IsAsciiText s) :=
  decidable_of_iff (s.toList.all fun c => 0x20 ≤ c.toNat ∧ c.toNat ≤ 0x7E)
    (by simp only [IsAsciiText, List.all_eq_true, decide_eq_true_eq])

/-- All the texts of a configuration are printable ASCII. -/
structure IsAscii (c : Config) : Prop where
  user : IsAsciiText c.device.user
  toCard : ∀ s ∈ c.device.toCard, IsAsciiText s
  toHost : ∀ s ∈ c.device.toHost, IsAsciiText s
  filter : ∀ s ∈ c.logging.filter, IsAsciiText s

theorem isLine_of_isAsciiText {s : String} (h : IsAsciiText s) : IsLine s.toList :=
  fun c hc => Yaml.isInline_of_ascii (h c hc).1 (h c hc).2

theorem areLegible_writeAll {ρ : Type} {fields : List (Field ρ)} {r : ρ}
    (hkeys : ∀ f ∈ fields, Yaml.Scanner.IsKey f.key.toList)
    (hvalues : ∀ f ∈ fields, (f.write r).IsLegible) :
    Tree.AreLegible (Field.writeAll fields r) := by
  induction fields with
  | nil =>
    rw [Field.writeAll, List.map_nil, Tree.AreLegible]
    trivial
  | cons f fields ih =>
    rw [Field.writeAll, List.map_cons, Tree.AreLegible]
    rw [List.forall_mem_cons] at hkeys hvalues
    exact ⟨hkeys.1, hvalues.1, ih hkeys.2 hvalues.2⟩

theorem isLegible_section {ρ : Type} {fields : List (Field ρ)} {r : ρ} (hne : fields ≠ [])
    (hkeys : ∀ f ∈ fields, Yaml.Scanner.IsKey f.key.toList)
    (hvalues : ∀ f ∈ fields, (f.write r).IsLegible) :
    (Tree.mapping (Field.writeAll fields r)).IsLegible := by
  rw [Tree.IsLegible]
  refine ⟨?_, areLegible_writeAll hkeys hvalues⟩
  rw [Field.writeAll, ne_eq, List.map_eq_nil_iff]
  exact hne

theorem isLegible_text {s : String} (h : IsAsciiText s) : (Tree.text s).IsLegible := by
  rw [Tree.IsLegible]
  exact isLine_of_isAsciiText h

theorem isLegible_text? {s : Option String} (h : ∀ x ∈ s, IsAsciiText x) :
    ((s.map Tree.text).getD .null).IsLegible := by
  cases s with
  | none =>
    show Tree.null.IsLegible
    rw [Tree.IsLegible]
    trivial
  | some s => exact isLegible_text (h s rfl)

/-- A configuration of printable ASCII is legible. -/
theorem areLegible_fields {c : Config} (h : c.IsAscii) :
    Tree.AreLegible (Field.writeAll fields c) := by
  have hdevice : ∀ f ∈ deviceFields, (f.write c.device).IsLegible := by
    simp only [deviceFields, List.forall_mem_cons]
    exact ⟨isLegible_text h.user, isLegible_text? h.toCard, isLegible_text? h.toHost, by simp⟩
  have hregisters : ∀ f ∈ registerFields, (f.write c.registers).IsLegible := by
    simp [registerFields, Field.word, Field.of, Tree.IsLegible]
  have hfirmware : ∀ f ∈ firmwareFields, (f.write c.firmware).IsLegible := by
    simp [firmwareFields, Field.half, Field.byte, Field.of, Tree.IsLegible]
  have hlogging : ∀ f ∈ loggingFields, (f.write c.logging).IsLegible := by
    have hlevel (x : LogLevel) : IsAsciiText x.name := by cases x <;> decide
    have hformat (x : LogFormat) : IsAsciiText x.name := by cases x <;> decide
    simp only [loggingFields, List.forall_mem_cons]
    refine ⟨isLegible_text (hlevel _), isLegible_text (hformat _), ?_, ?_, ?_,
      isLegible_text? h.filter, by simp⟩ <;>
      simp [Field.flag, Field.of, Tree.IsLegible]
  apply areLegible_writeAll
  · decide
  · simp only [fields, List.forall_mem_cons]
    refine ⟨isLegible_section (by decide) (by decide) hdevice,
      isLegible_section (by decide) (by decide) hregisters,
      isLegible_section (by decide) (by decide) hfirmware, ?_,
      isLegible_section (by decide) (by decide) hlogging, by simp⟩
    simp [Field.flag, Field.of, Tree.IsLegible]

/-! ## Saving and loading -/

/-- What is written for a configuration reads back as the configuration. -/
theorem ofText_toText {c : Config} (h : c.IsAscii) : ofText c.toText = .ok c := by
  have hne : Tree.outlines (Field.writeAll fields c) ≠ [] :=
    Tree.outlines_ne_nil (by simp [Field.writeAll, fields])
  have hlegible := areLegible_fields h
  rw [ofText, toText, Tree.render_eq hlegible]
  exact Document.decode_ofText_render hne (Tree.laidOut_entries _ hlegible).1 (config_takes c) {}

variable {c : Config} {files files' : Files} {path : String}

theorem save_yields (h : files.writeText path c.toText = .ok files') :
    (save c path).Yields files (.ok ()) files' := by
  refine (yields_get files).bind ?_
  rw [h]
  exact (yields_set files files').bind (yields_pure (Except.ok ()) files')

/-- A file with the text of a configuration gives the configuration, unless it is of no use. -/
theorem loadFrom_yields (hread : files.readText path = .ok c.toText)
    (hback : ofText c.toText = .ok c) :
    (loadFrom path).Yields files ((c.validate.mapError .invalid).map fun _ => c) files := by
  have hfile : fromFile files path = (c.validate.mapError .invalid).map fun _ => c := by
    cases hcheck : c.validate with
    | error violation => exact (Gives.invalid hread hback hcheck).fromFile_eq
    | ok u => exact (Gives.valid hread hback hcheck).fromFile_eq
  rw [← hfile]
  exact loadFrom_yields_fromFile files path

/-- **Saving and loading a configuration is lossless.**  The text that is written reads as the very
configuration, with what is absent in it absent; and a file where it was saved loads as the
configuration, or as the first rule that it breaks. -/
theorem saving_and_loading_is_lossless {c : Config} (h : c.IsAscii) :
    ofText c.toText = .ok c ∧
      ∀ (files : Files) (path : String), files.HasRoom path →
        ∃ files', (save c path).Yields files (.ok ()) files' ∧
          files'.readText path = .ok c.toText ∧
          (loadFrom path).Yields files' ((c.validate.mapError .invalid).map fun _ => c) files' := by
  have hback : ofText c.toText = .ok c := ofText_toText h
  refine ⟨hback, ?_⟩
  intro files path hroom
  obtain ⟨files', hwrite, hread⟩ := hroom.exists_writeText_eq c.toText
  exact ⟨files', save_yields hwrite, hread, loadFrom_yields hread hback⟩

/-- A configuration whose texts look like something else: nothing, a number, a truth value, a
comment. -/
def misleading : Config :=
  { device := { user := "null", toCard := some "", toHost := none }
    strictFirmware := true
    logging := { filter := some " it's: '0x1F' #\"~ " } }

/-- In a directory of its own, the misleading configuration is saved and loaded, and it is of use. -/
theorem saving_and_loading_is_lossless_for_misleading_texts :
    ofText misleading.toText = .ok misleading ∧
      ∃ files', (save misleading "rc").Yields (.fresh "work") (.ok ()) files' ∧
        files'.readText "rc" = .ok misleading.toText ∧
        (loadFrom "rc").Yields files' (.ok misleading) files' := by
  have hascii : misleading.IsAscii :=
    ⟨by decide, by rintro _ ⟨⟩; decide, by rintro _ ⟨⟩, by rintro _ ⟨⟩; decide⟩
  have hroom : (Files.fresh "work").HasRoom "rc" :=
    ⟨by decide, ["work", "rc"], by cbv, .inl (by cbv)⟩
  have hvalid : misleading.validate = .ok () := by decide
  obtain ⟨hback, hfiles⟩ := saving_and_loading_is_lossless hascii
  have hsaved := hfiles (.fresh "work") "rc" hroom
  rw [hvalid] at hsaved
  exact ⟨hback, hsaved⟩

end RadioFrontEnd.Config
