import RadioFrontEnd.RegisterMap

/-!
# Register maps whose addresses exist

The addresses of a channel are checked sums, so `RegisterMap.status` and `RegisterMap.config` may be
faults.  The plain sums are `statusAt` and `configAt`.  `Addressable` says of a map that the checked
sums are the plain ones, for all four channels; `addressable_iff` says which maps those are.  The
same for masks: `maskOf` is the mask of a channel whose bit is a bit of a word.
-/

namespace RadioFrontEnd

/-- What holds of every channel can be told channel by channel. -/
instance {p : Channel → Prop} [DecidablePred p] : Decidable (∀ c, p c) :=
  decidable_of_iff (∀ c ∈ Channel.all, p c) ⟨fun h c => h c c.mem_all, fun h c _ => h c⟩

/-- What holds of some channel can be told by trying them all. -/
instance {p : Channel → Prop} [DecidablePred p] : Decidable (∃ c, p c) :=
  decidable_of_iff (∃ c ∈ Channel.all, p c)
    ⟨fun ⟨c, _, hc⟩ => ⟨c, hc⟩, fun ⟨c, hc⟩ => ⟨c, c.mem_all, hc⟩⟩

/-- The checked sum is the plain one exactly when that does not wrap around. -/
theorem Word.add_eq_ok_add_iff {a b : UInt32} :
    Word.add a b = .ok (a + b) ↔ a.toNat + b.toNat < UInt32.size := by
  have hsize : UInt32.size = 2 ^ 32 := rfl
  rw [Word.add_eq_ok_iff, UInt32.toNat_add]
  omega

namespace RegisterMap

variable {map : RegisterMap}

/-- The status register of a channel as a plain sum. -/
def statusAt (map : RegisterMap) (c : Channel) : UInt32 :=
  map.monitorBase + 4 * c.index

/-- The configuration register of a channel as a plain sum. -/
def configAt (map : RegisterMap) (c : Channel) : UInt32 :=
  map.statusAt c + map.configOffset

/-- The mask of a channel as a plain shift. -/
def maskOf (map : RegisterMap) (c : Channel) : UInt32 :=
  1 <<< map.resetBit c

/-- Every channel has a status register. -/
def HasStatus (map : RegisterMap) : Prop :=
  ∀ c, map.status c = .ok (map.statusAt c)

/-- Every channel has a status register and a configuration register. -/
structure Addressable (map : RegisterMap) : Prop where
  /-- The status registers exist. -/
  status : map.HasStatus
  /-- The configuration registers exist. -/
  config : ∀ c, map.config c = .ok (map.configAt c)

/-- Every reset bit is a bit of a word. -/
def HasMasks (map : RegisterMap) : Prop :=
  ∀ c, map.resetBit c < 32

instance (map : RegisterMap) : Decidable map.HasMasks :=
  inferInstanceAs (Decidable (∀ c, map.resetBit c < 32))

/-! ## When addresses exist -/

theorem toNat_four_mul_index (c : Channel) : (4 * c.index).toNat = 4 * c.index.toNat := by
  cases c <;> rfl

theorem toNat_index_le (c : Channel) : c.index.toNat ≤ 3 := by
  cases c <;> decide

theorem status_eq_ok_iff (map : RegisterMap) (c : Channel) :
    map.status c = .ok (map.statusAt c) ↔
      map.monitorBase.toNat + 4 * c.index.toNat < UInt32.size := by
  rw [status, statusAt, Word.add_eq_ok_add_iff, toNat_four_mul_index]

theorem HasStatus.toNat_statusAt (h : map.HasStatus) (c : Channel) :
    (map.statusAt c).toNat = map.monitorBase.toNat + 4 * c.index.toNat := by
  rw [statusAt, UInt32.toNat_add, toNat_four_mul_index]
  exact Nat.mod_eq_of_lt ((status_eq_ok_iff map c).mp (h c))

/-- Different channels have different status registers. -/
theorem HasStatus.statusAt_injective (h : map.HasStatus) : Function.Injective map.statusAt := by
  intro c d hcd
  have hsum := congrArg UInt32.toNat hcd
  rw [h.toNat_statusAt, h.toNat_statusAt] at hsum
  exact Channel.index_inj.mp (UInt32.toNat_inj.mp (by omega))

theorem HasStatus.config_eq_ok_iff (h : map.HasStatus) (c : Channel) :
    map.config c = .ok (map.configAt c) ↔
      (map.statusAt c).toNat + map.configOffset.toNat < UInt32.size := by
  have hconfig : map.config c = Word.add (map.statusAt c) map.configOffset := by
    rw [config, h c]
    rfl
  rw [hconfig, configAt, Word.add_eq_ok_add_iff]

/-- The registers exist exactly when the last one does. -/
theorem addressable_iff :
    map.Addressable ↔ map.monitorBase.toNat + 12 + map.configOffset.toNat < UInt32.size := by
  constructor
  · intro h
    have hlast := (h.status.config_eq_ok_iff .spk).mp (h.config .spk)
    rw [h.status.toNat_statusAt] at hlast
    exact hlast
  · intro h
    have hstatus : map.HasStatus := fun c => by
      have hc := toNat_index_le c
      exact (status_eq_ok_iff map c).mpr (by omega)
    refine ⟨hstatus, fun c => (hstatus.config_eq_ok_iff c).mpr ?_⟩
    have hc := toNat_index_le c
    rw [hstatus.toNat_statusAt]
    omega

instance (map : RegisterMap) : Decidable map.Addressable :=
  decidable_of_iff _ addressable_iff.symm

theorem Addressable.toNat_configAt (h : map.Addressable) (c : Channel) :
    (map.configAt c).toNat = (map.statusAt c).toNat + map.configOffset.toNat := by
  rw [configAt, UInt32.toNat_add]
  exact Nat.mod_eq_of_lt ((h.status.config_eq_ok_iff c).mp (h.config c))

/-- Different channels have different configuration registers. -/
theorem Addressable.configAt_injective (h : map.Addressable) :
    Function.Injective map.configAt := by
  intro c d hcd
  have hsum := congrArg UInt32.toNat hcd
  rw [h.toNat_configAt, h.toNat_configAt] at hsum
  exact h.status.statusAt_injective (UInt32.toNat_inj.mp (by omega))

/-! ## Masks -/

theorem HasMasks.resetMask_eq (h : map.HasMasks) (c : Channel) :
    map.resetMask c = .ok (map.maskOf c) :=
  Word.bit_eq_ok_iff.mpr ⟨h c, rfl⟩

/-! ## Status addresses -/

/-- Whether an address is a status address can always be told. -/
theorem HasStatus.isStatus_eq (h : map.HasStatus) (address : UInt32) :
    map.isStatus address = .ok (Channel.all.any fun c => map.statusAt c == address) := by
  rw [isStatus]
  induction Channel.all with
  | nil => rfl
  | cons c cs ih =>
    rw [List.anyM, h c, List.any_cons]
    cases hc : map.statusAt c == address with
    | true => simp only [pure, Except.pure, bind, Except.bind, hc, Bool.true_or]
    | false => simp only [pure, Except.pure, bind, Except.bind, hc, Bool.false_or, ← ih]

theorem HasStatus.isStatus_statusAt (h : map.HasStatus) (c : Channel) :
    map.isStatus (map.statusAt c) = .ok true := by
  rw [h.isStatus_eq]
  exact congrArg Except.ok (List.any_eq_true.mpr ⟨c, Channel.mem_all c, beq_self_eq_true _⟩)

theorem HasStatus.isStatus_of_ne (h : map.HasStatus) {address : UInt32}
    (hne : ∀ c, map.statusAt c ≠ address) : map.isStatus address = .ok false := by
  rw [h.isStatus_eq]
  exact congrArg Except.ok (List.any_eq_false.mpr fun c _ => by simpa using hne c)

end RegisterMap
end RadioFrontEnd
