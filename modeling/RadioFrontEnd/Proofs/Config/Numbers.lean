import Mathlib
import RadioFrontEnd.Proofs.Config.RoundTrip

/-!
# Sections of numbers

Two sections of a configuration hold nothing but numbers, each under a key of its own and below a
bound of its own.  A `NumberKey` is such a key, and the two sections are lists of them
(`registerKeys`, `firmwareKeys`); that these are the keys that the reader knows is a matter of
unfolding (`registerFields_eq`, `firmwareFields_eq`).

A section need not give every number, and it may have keys that nobody knows.  `Overlays` says what
comes out then, key by key: the number that is given, or the one that was there before.  Only a
section that is `Fit` comes out at all.  It has no known key twice, and each literal under a known
key is a natural number below the bound of the key.

The entries of a section are taken in order, and what is taken does not depend on the order because
the keys are told apart: to set one number leaves the others as they are (`Lawful.get_set_of_ne`).
-/

namespace RadioFrontEnd.Config

open Yaml (Decoder Literal Outline Scanner)

/-- A key for a number of a record. -/
structure NumberKey (ρ : Type) where
  /-- The key. -/
  key : String
  /-- All numbers are below this. -/
  bound : Nat
  /-- What messages call such a number. -/
  expected : String
  /-- The number in a record. -/
  get : ρ → Nat
  /-- The record with another number. -/
  set : Nat → ρ → ρ

/-- A section as it is written: keys with integers, so many columns deeper than what is around. -/
structure Section where
  /-- How much deeper the entries stand. -/
  depth : Nat
  /-- The entries in order. -/
  entries : List (String × Literal)
  /-- They are deeper. -/
  depth_pos : 0 < depth
  /-- There is an entry. -/
  entries_ne_nil : entries ≠ []

/-- An integer under a key, with its layout. -/
def numberEntry (entry : String × Literal) : String × Outline :=
  (entry.1, .scalar .plain entry.2.text)

/-- The section with its layout. -/
def Section.outline (s : Section) : Outline := .record s.depth (s.entries.map numberEntry)

/-- A section can be written if every key can. -/
theorem Section.isLegible {s : Section} (h : ∀ entry ∈ s.entries, Scanner.IsKey entry.1.toList) :
    s.outline.IsLegible := by
  rw [outline, Outline.IsLegible, Outline.areLegible_iff, List.forall_mem_map]
  refine ⟨s.depth_pos, ?_, fun entry hentry => ⟨h entry hentry, ?_⟩⟩
  · rw [ne_eq, List.map_eq_nil_iff]
    exact s.entries_ne_nil
  · rw [numberEntry, Outline.IsLegible]
    exact entry.2.suits_text

namespace NumberKey

variable {ρ : Type}

/-- A key for a component of a type of numbers. -/
def component {α : Type} (key : String) (bound : Nat) (expected : String) (toNat : α → Nat)
    (ofNat : Nat → α) (get : ρ → α) (set : α → ρ → ρ) : NumberKey ρ :=
  ⟨key, bound, expected, toNat ∘ get, set ∘ ofNat⟩

/-- A key for a 32-bit word. -/
def word (key : String) : (get : ρ → UInt32) → (set : UInt32 → ρ → ρ) → NumberKey ρ :=
  component key UInt32.size "u32" UInt32.toNat UInt32.ofNat

/-- A key for a number of 16 bits. -/
def half (key : String) : (get : ρ → UInt16) → (set : UInt16 → ρ → ρ) → NumberKey ρ :=
  component key UInt16.size "u16" UInt16.toNat UInt16.ofNat

/-- A key for a number of 8 bits. -/
def byte (key : String) : (get : ρ → UInt8) → (set : UInt8 → ρ → ρ) → NumberKey ρ :=
  component key UInt8.size "u8" UInt8.toNat UInt8.ofNat

/-- The key as the reader has it. -/
def field (k : NumberKey ρ) : Field ρ :=
  .of k.key (Decoder.natural k.bound k.expected) .natural k.get k.set

/-! ## What comes out -/

/-- No known key comes twice, and the integers under them are natural numbers below their bounds. -/
def Fit (keys : List (NumberKey ρ)) (entries : List (String × Literal)) : Prop :=
  ((entries.map (·.1)).filter fun key => keys.any (·.key = key)).Nodup ∧
    ∀ entry ∈ entries, ∀ k ∈ keys, k.key = entry.1 → entry.2.IsBelow k.bound

instance (keys : List (NumberKey ρ)) (entries : List (String × Literal)) :
    Decidable (Fit keys entries) := instDecidableAnd

/-- Under every key, a record has the number that is given there, or else the one of the record
before. -/
def Overlays (keys : List (NumberKey ρ)) (entries : List (String × Literal)) (before after : ρ) :
    Prop :=
  ∀ k ∈ keys,
    (k.get after : Int) = ((entries.lookup k.key).map Literal.value).getD (k.get before)

instance (keys : List (NumberKey ρ)) (entries : List (String × Literal)) (before after : ρ) :
    Decidable (Overlays keys entries before after) :=
  inferInstanceAs (Decidable (∀ k ∈ keys,
    (k.get after : Int) = ((entries.lookup k.key).map Literal.value).getD (k.get before)))

/-- What an entry changes. -/
def change (keys : List (NumberKey ρ)) (entry : String × Literal) : ρ → ρ :=
  ((keys.find? (·.key = entry.1)).map fun k => k.set entry.2.value.toNat).getD id

/-- What some entries make of a record. -/
def overlay (keys : List (NumberKey ρ)) (entries : List (String × Literal)) (before : ρ) : ρ :=
  entries.foldl (fun r entry => change keys entry r) before

section Fit

variable {keys : List (NumberKey ρ)} {entry : String × Literal} {entries : List (String × Literal)}

theorem Fit.of_cons (h : Fit keys (entry :: entries)) : Fit keys entries := by
  obtain ⟨honce, hbelow⟩ := h
  refine ⟨?_, (List.forall_mem_cons.mp hbelow).2⟩
  rw [List.map_cons, List.filter_cons] at honce
  split at honce
  · exact (List.nodup_cons.mp honce).2
  · exact honce

/-- A known key does not come again. -/
theorem Fit.lookup_eq_none {k : NumberKey ρ} (hk : k ∈ keys) {l : Literal}
    (h : Fit keys ((k.key, l) :: entries)) : entries.lookup k.key = none := by
  have hknown : keys.any (·.key = k.key) = true :=
    List.any_eq_true.mpr ⟨k, hk, by simp only [decide_true]⟩
  have honce := h.1
  rw [List.map_cons, List.filter_cons_of_pos (by exact hknown), List.nodup_cons, List.mem_filter,
    not_and] at honce
  rw [List.lookup_eq_none_iff]
  intro entry hentry
  rw [bne_iff_ne]
  intro heq
  exact honce.1 (List.mem_map.mpr ⟨entry, hentry, heq.symm⟩) hknown

end Fit

/-- What is laid over a record has numbers of its own under none of the keys. -/
theorem Overlays.get_eq {keys : List (NumberKey ρ)} {entries : List (String × Literal)}
    {before r r' : ρ} (h : Overlays keys entries before r) (h' : Overlays keys entries before r') :
    ∀ k ∈ keys, k.get r = k.get r' :=
  fun k hk => Int.ofNat_inj.mp ((h k hk).trans (h' k hk).symm)

/-- The keys are told apart, and what is set under one is what is there afterwards. -/
structure Lawful (keys : List (NumberKey ρ)) : Prop where
  /-- Keys that are called the same are the same. -/
  nodup : (keys.map (·.key)).Nodup
  /-- No number is past what the reader can hold. -/
  bound_le : ∀ k ∈ keys, k.bound ≤ UInt64.size
  /-- A number below the bound is kept. -/
  get_set : ∀ k ∈ keys, ∀ n < k.bound, ∀ r, k.get (k.set n r) = n
  /-- The other numbers are left alone. -/
  get_set_of_ne : ∀ k ∈ keys, ∀ k' ∈ keys, k'.key ≠ k.key → ∀ n r, k.get (k'.set n r) = k.get r

theorem field_takes {k : NumberKey ρ} {l : Literal} (hbound : k.bound ≤ UInt64.size)
    (h : l.IsBelow k.bound) : k.field.decode.Takes (.scalar .plain l.text) (k.set l.value.toNat) :=
  Field.of_takes (Decoder.natural_takes_literal hbound h k.expected)

theorem field_refuses {k : NumberKey ρ} {l : Literal} (h : ¬ l.IsBelow k.bound) :
    k.field.decode.Refuses (.scalar .plain l.text) :=
  Field.of_refuses (Decoder.natural_refuses_literal h k.expected)

section Laws

variable {keys : List (NumberKey ρ)} {entries : List (String × Literal)} (h : Lawful keys)

include h

theorem Lawful.find?_eq {k : NumberKey ρ} (hk : k ∈ keys) :
    keys.find? (·.key = k.key) = some k :=
  Field.find?_eq_of_nodup h.nodup hk

/-- Under its own key, an entry sets the number. -/
theorem get_change_self {k : NumberKey ρ} (hk : k ∈ keys) {l : Literal} (hl : l.IsBelow k.bound)
    (r : ρ) :
    (k.get (change keys (k.key, l) r) : Int) = l.value := by
  obtain ⟨-, hnonneg, hlt⟩ := hl
  have hbound : l.value.toNat < k.bound := (Int.toNat_lt hnonneg).mpr hlt
  rw [change, h.find?_eq hk, Option.map_some, Option.getD_some, h.get_set k hk _ hbound]
  exact Int.toNat_of_nonneg hnonneg

/-- Under every other key, it leaves the number as it is. -/
theorem get_change_of_ne {k : NumberKey ρ} (hk : k ∈ keys) {entry : String × Literal}
    (hne : entry.1 ≠ k.key) (r : ρ) : k.get (change keys entry r) = k.get r := by
  rw [change]
  cases hfind : keys.find? (·.key = entry.1) with
  | none => rfl
  | some k' =>
    obtain ⟨hk', hname⟩ := Field.of_find?_eq_some hfind
    exact h.get_set_of_ne k hk k' hk' (hname ▸ hne) _ r

/-- **Entries that fit are laid over a record.** -/
theorem overlays_overlay (hfit : Fit keys entries) (before : ρ) :
    Overlays keys entries before (overlay keys entries before) := by
  intro k hk
  induction entries generalizing before with
  | nil => rfl
  | cons entry entries ih =>
    obtain ⟨name, l⟩ := entry
    have hrest := ih hfit.of_cons (change keys (name, l) before)
    rw [overlay, List.foldl_cons, List.lookup_cons]
    by_cases hname : name = k.key
    · -- the key does not come again, so what is set here stays
      subst hname
      have hbelow := hfit.2 (k.key, l) List.mem_cons_self k hk rfl
      rw [hfit.lookup_eq_none hk, get_change_self h hk hbelow] at hrest
      rw [beq_self_eq_true]
      exact hrest
    · rw [get_change_of_ne h hk hname] at hrest
      rw [beq_false_of_ne (Ne.symm hname)]
      exact hrest

/-! ## What is read -/

omit h in
theorem knownKeys_numberEntry (keys : List (NumberKey ρ)) (entries : List (String × Literal)) :
    Decoder.knownKeys (Field.entriesOf (keys.map field)) (entries.map numberEntry) =
      (entries.map (·.1)).filter fun key => keys.any (·.key = key) := by
  rw [Field.knownKeys_entriesOf, List.map_map]
  refine List.filter_congr fun key _ => ?_
  rw [List.any_map]
  rfl

theorem Lawful.nodup_field : ((keys.map field).map (·.key)).Nodup := by
  rw [List.map_map]
  exact h.nodup

/-- An entry whose integer is below the bound of its key changes the record. -/
theorem changes_change {entry : String × Literal}
    (hbelow : ∀ k ∈ keys, k.key = entry.1 → entry.2.IsBelow k.bound) :
    Decoder.Changes (Field.entriesOf (keys.map field)) (numberEntry entry) (change keys entry) := by
  rw [change]
  cases hfind : keys.find? (·.key = entry.1) with
  | none =>
    refine Field.changes_of_unknown ?_
    rw [List.forall_mem_map]
    exact fun k hk => of_decide_eq_false (Bool.not_eq_true _ ▸ List.find?_eq_none.mp hfind k hk)
  | some k =>
    obtain ⟨hk, hname⟩ := Field.of_find?_eq_some hfind
    have htake := field_takes (h.bound_le k hk) (hbelow k hk hname)
    have hchanges := Field.changes_of_takes h.nodup_field (List.mem_map_of_mem hk) htake
    rwa [show k.field.key = entry.1 from hname] at hchanges

/-- An entry whose integer is not is refused. -/
theorem isRefused_of_not_isBelow {entry : String × Literal} {k : NumberKey ρ} (hk : k ∈ keys)
    (hname : k.key = entry.1) (hnot : ¬ entry.2.IsBelow k.bound) :
    Decoder.IsRefused (Field.entriesOf (keys.map field)) (numberEntry entry) := by
  have hrefused := Field.isRefused_of_refuses h.nodup_field (List.mem_map_of_mem hk)
    (field_refuses hnot)
  rwa [show k.field.key = entry.1 from hname] at hrefused

/-- **A section that fits is laid over the start.** -/
theorem section_takes {s : Section} (hfit : Fit keys s.entries) (expected : String) (start : ρ) :
    (Field.decodeAll expected (keys.map field) start).Takes s.outline
      (overlay keys s.entries start) := by
  refine Decoder.record_takes_map (fun entry hentry => changes_change h (hfit.2 entry hentry)) ?_
    expected start s.depth
  exact (knownKeys_numberEntry keys s.entries).symm ▸ hfit.1

/-- **A section that does not fit is refused.** -/
theorem section_refuses {s : Section} (hfit : ¬ Fit keys s.entries) (expected : String)
    (start : ρ) : (Field.decodeAll expected (keys.map field) start).Refuses s.outline := by
  have hrefused (entry : String × Literal)
      (hnot : ¬ ∀ k ∈ keys, k.key = entry.1 → entry.2.IsBelow k.bound) :
      Decoder.IsRefused (Field.entriesOf (keys.map field)) (numberEntry entry) := by
    push Not at hnot
    obtain ⟨k, hk, hname, hnot⟩ := hnot
    exact isRefused_of_not_isBelow h hk hname hnot
  rw [Fit, ← knownKeys_numberEntry] at hfit
  exact Decoder.record_refuses_map (fun _ _ => changes_change h) (fun entry _ => hrefused entry)
    hfit expected start s.depth

end Laws

/-! ## The two sections -/

/-- What is set comes back, if it does so on the way to the component and in the record. -/
theorem get_set_component {α : Type} {key expected : String} {bound : Nat} {toNat : α → Nat}
    {ofNat : Nat → α} {get : ρ → α} {set : α → ρ → ρ} (hback : ∀ n < bound, toNat (ofNat n) = n)
    (h : ∀ x r, get (set x r) = x) :
    ∀ n < bound, ∀ r, (component key bound expected toNat ofNat get set).get
      ((component key bound expected toNat ofNat get set).set n r) = n := by
  intro n hn r
  show toNat (get (set (ofNat n) r)) = n
  rw [h, hback n hn]

theorem get_set_word {key : String} {get : ρ → UInt32} {set : UInt32 → ρ → ρ}
    (h : ∀ x r, get (set x r) = x) :
    ∀ n < UInt32.size, ∀ r, (word key get set).get ((word key get set).set n r) = n :=
  get_set_component (fun _ hn => UInt32.toNat_ofNat_of_lt' hn) h

theorem get_set_half {key : String} {get : ρ → UInt16} {set : UInt16 → ρ → ρ}
    (h : ∀ x r, get (set x r) = x) :
    ∀ n < UInt16.size, ∀ r, (half key get set).get ((half key get set).set n r) = n :=
  get_set_component (fun _ hn => UInt16.toNat_ofNat_of_lt' hn) h

theorem get_set_byte {key : String} {get : ρ → UInt8} {set : UInt8 → ρ → ρ}
    (h : ∀ x r, get (set x r) = x) :
    ∀ n < UInt8.size, ∀ r, (byte key get set).get ((byte key get set).set n r) = n :=
  get_set_component (fun _ hn => UInt8.toNat_ofNat_of_lt' hn) h

end NumberKey

/-- The numbers of a register map. -/
def registerKeys : List (NumberKey RegisterMap) := [
  .word "sw_version" (·.version) fun x m => { m with version := x },
  .word "fifo_monitor_base" (·.monitorBase) fun x m => { m with monitorBase := x },
  .word "fifo_config_offset" (·.configOffset) fun x m => { m with configOffset := x },
  .word "fifo_reset" (·.reset) fun x m => { m with reset := x },
  .word "reset_bit_rx_ddc" (·.rxResetBit) fun x m => { m with rxResetBit := x },
  .word "reset_bit_tx_duc" (·.txResetBit) fun x m => { m with txResetBit := x },
  .word "reset_bit_mic_codec" (·.micResetBit) fun x m => { m with micResetBit := x },
  .word "reset_bit_spk_codec" (·.spkResetBit) fun x m => { m with spkResetBit := x },
  .word "stream_axi_base" (·.streamBase) fun x m => { m with streamBase := x }]

/-- The numbers of a range of firmware. -/
def firmwareKeys : List (NumberKey FirmwareRange) := [
  .half "version_min" (·.versionMin) fun x r => { r with versionMin := x },
  .half "version_max" (·.versionMax) fun x r => { r with versionMax := x },
  .byte "major_min" (·.majorMin) fun x r => { r with majorMin := x },
  .byte "major_max" (·.majorMax) fun x r => { r with majorMax := x }]

theorem registerFields_eq : registerFields = registerKeys.map NumberKey.field := rfl

theorem firmwareFields_eq : firmwareFields = firmwareKeys.map NumberKey.field := rfl

theorem registerKeys_lawful : NumberKey.Lawful registerKeys where
  nodup := by decide
  bound_le := by
    simp only [registerKeys, List.forall_mem_cons]
    exact ⟨by decide, by decide, by decide, by decide, by decide, by decide, by decide, by decide,
      by decide, by simp⟩
  get_set := by
    simp only [registerKeys, List.forall_mem_cons]
    refine ⟨?_, ?_, ?_, ?_, ?_, ?_, ?_, ?_, ?_, by simp⟩ <;>
      exact NumberKey.get_set_word fun _ _ => rfl
  get_set_of_ne := by
    simp [registerKeys, NumberKey.word, NumberKey.component]

theorem firmwareKeys_lawful : NumberKey.Lawful firmwareKeys where
  nodup := by decide
  bound_le := by
    simp only [firmwareKeys, List.forall_mem_cons]
    exact ⟨by decide, by decide, by decide, by decide, by simp⟩
  get_set := by
    simp only [firmwareKeys, List.forall_mem_cons]
    exact ⟨NumberKey.get_set_half fun _ _ => rfl, NumberKey.get_set_half fun _ _ => rfl,
      NumberKey.get_set_byte fun _ _ => rfl, NumberKey.get_set_byte fun _ _ => rfl, by simp⟩
  get_set_of_ne := by
    simp [firmwareKeys, NumberKey.half, NumberKey.byte, NumberKey.component]

/-! ## Numbers make up the record -/

/-- A register map is its numbers. -/
theorem registers_eq {m m' : RegisterMap} (h : ∀ k ∈ registerKeys, k.get m = k.get m') :
    m = m' := by
  simp only [registerKeys, List.forall_mem_cons, NumberKey.word, NumberKey.component,
    Function.comp_apply, UInt32.toNat_inj] at h
  obtain ⟨h₁, h₂, h₃, h₄, h₅, h₆, h₇, h₈, h₉, -⟩ := h
  cases m
  cases m'
  simp only [RegisterMap.mk.injEq]
  exact ⟨h₁, h₂, h₃, h₄, h₅, h₆, h₇, h₈, h₉⟩

/-- A range of firmware is its numbers. -/
theorem firmware_eq {r r' : FirmwareRange} (h : ∀ k ∈ firmwareKeys, k.get r = k.get r') :
    r = r' := by
  simp only [firmwareKeys, List.forall_mem_cons, NumberKey.half, NumberKey.byte,
    NumberKey.component, Function.comp_apply, UInt16.toNat_inj, UInt8.toNat_inj] at h
  obtain ⟨h₁, h₂, h₃, h₄, -⟩ := h
  cases r
  cases r'
  simp only [FirmwareRange.mk.injEq]
  exact ⟨h₁, h₂, h₃, h₄⟩

end RadioFrontEnd.Config
