import RadioFrontEnd.Proofs.Fifo.Status
import RadioFrontEnd.Proofs.Session
import RadioFrontEnd.Proofs.Simulator

/-!
# Too old a depth table is safe

A depth table is chosen by the firmware version, and a version that cannot be read counts as zero.
Then the table is the oldest one, on whatever board.  A host that fills a FIFO by such a table must
not be told of room that is not there.

## Why it never is

The FIFOs only ever grew: with a newer version no channel has a smaller depth (`ofVersion_mono`).
The version enters a reading through the depth alone, and the depth enters it through `free` alone.
What is free is a difference that stops at zero (`toNat_free`), so it grows with the depth for every
occupancy, also for one past both depths.  For a stream to the host the depth is not looked at.

`Status.AtMost` puts this into one word: two readings that tell the same, except that the first may
have less available.  Readings of one status word by an older and by a newer table are of this sort
(`decode_atMost`), so those of two monitors are, whichever device they are taken from.
-/

namespace RadioFrontEnd.Fifo

open RadioFrontEnd.Action

/-! ## Depths and versions -/

/-- **The FIFOs only ever grew**, each of them. -/
theorem Depths.ofVersion_mono {v w : UInt16} (h : v ≤ w) (c : Channel) :
    (ofVersion v).get c ≤ (ofVersion w).get c := by
  have hfirst : ∀ c, legacy.get c ≤ v10.get c := by decide
  have hsecond : ∀ c, v10.get c ≤ v13.get c := by decide
  have hold {n : UInt16} (hw : w ≤ n) : v ≤ n := UInt16.le_trans h hw
  unfold ofVersion
  by_cases hlegacy : w ≤ 9
  · rw [if_pos (hold hlegacy), if_pos hlegacy]
    exact UInt32.le_refl _
  · rw [if_neg hlegacy]
    by_cases hmiddle : w ≤ 12
    · rw [if_pos (hold hmiddle), if_pos hmiddle]
      split
      · exact hfirst c
      · exact UInt32.le_refl _
    · rw [if_neg hmiddle]
      split_ifs
      · exact UInt32.le_trans (hfirst c) (hsecond c)
      · exact hsecond c
      · exact UInt32.le_refl _

namespace Status

theorem free_le_free {d e : UInt32} (h : d ≤ e) (occupied : UInt32) :
    free d occupied ≤ free e occupied := by
  rw [UInt32.le_iff_toNat_le] at h ⊢
  rw [toNat_free, toNat_free]
  exact Nat.sub_le_sub_right h occupied.toNat

/-! ## Readings by two tables -/

/-- Two readings that tell the same, except that the first may have less available. -/
structure AtMost (low high : Status) : Prop where
  /-- The first has no more available. -/
  available_le : low.available ≤ high.available
  /-- Both tell the same occupancy. -/
  occupied_eq : low.occupied = high.occupied
  /-- Both tell of an overflow, or neither does. -/
  overflowed_eq : low.overflowed = high.overflowed
  /-- Both tell of a passed threshold, or neither does. -/
  overThreshold_eq : low.overThreshold = high.overThreshold
  /-- Both tell of an underflow, or neither does. -/
  underflowed_eq : low.underflowed = high.underflowed

/-- With less depth, a status word is read the same, except that less may be available. -/
theorem decode_atMost {d e : UInt32} (h : d ≤ e) (raw : UInt32) (c : Channel) :
    (decode raw c d).AtMost (decode raw c e) := by
  refine ⟨?_, rfl, rfl, rfl, rfl⟩
  unfold decode
  cases c.isWrite with
  | true => exact free_le_free h _
  | false => exact UInt32.le_refl _

end Status

/-! ## Monitors -/

section Monitors

variable {σ : Type} [FrontEnd σ] {map : RegisterMap} {s t : σ} {raw : UInt32}

/-- Two monitors with one register map, the first with the table for an older version, read a status
alike, except that the first may have less available. -/
theorem Monitor.yields_readStatus_atMost {v w : UInt16} (h : v ≤ w) {c : Channel}
    {address : UInt32} (haddress : map.status c = .ok address)
    (hread : (FrontEnd.readRegister address).Yields s raw t) :
    let old := Status.decode raw c ((Depths.ofVersion v).get c)
    let new := Status.decode raw c ((Depths.ofVersion w).get c)
    (Monitor.readStatus ⟨map, .ofVersion v⟩ c).Yields s old t ∧
      (Monitor.readStatus ⟨map, .ofVersion w⟩ c).Yields s new t ∧ old.AtMost new :=
  ⟨yields_readStatus haddress hread, yields_readStatus haddress hread,
    Status.decode_atMost (Depths.ofVersion_mono h c) raw c⟩

/-- A monitor that is made while the version register reads as zero has the oldest table. -/
theorem Monitor.yields_forDevice_of_zero
    (hlost : (FrontEnd.readRegister map.version).Yields s 0 t) :
    (Monitor.forDevice map).Yields s ⟨map, .legacy⟩ t :=
  yields_forDevice hlost

end Monitors

/-- **To take the firmware for older than it is never promises room that is not there.**  Read by
the table for an older version, every status word of every channel tells the same, except that less
may be available.  So a monitor that was made while the version register read as zero has the oldest
table, and whatever it reads later, from any device in any state, has no more available than what a
monitor with the table for the version of the board reads there; all else is equal, and the device is
left the same. -/
theorem older_tables_promise_no_more :
    (∀ v w : UInt16, v ≤ w → ∀ (raw : UInt32) (c : Channel),
      (Status.decode raw c ((Depths.ofVersion v).get c)).AtMost
        (Status.decode raw c ((Depths.ofVersion w).get c))) ∧
    ∀ {σ : Type} [FrontEnd σ] {map : RegisterMap} {s t s' t' : σ} {word : UInt32},
      (FrontEnd.readRegister map.version).Yields s 0 t →
      (FrontEnd.readRegister map.version).Yields s' word t' →
      ∃ fallback m, (Monitor.forDevice map).Yields s fallback t ∧
        (Monitor.forDevice map).Yields s' m t' ∧ fallback.depths = .legacy ∧
        m.depths = .ofVersion (Firmware.decode word).version ∧
        ∀ {c : Channel} {address raw : UInt32} {u u' : σ}, map.status c = .ok address →
          (FrontEnd.readRegister address).Yields u raw u' →
          let low := Status.decode raw c (fallback.depths.get c)
          let high := Status.decode raw c (m.depths.get c)
          (fallback.readStatus c).Yields u low u' ∧ (m.readStatus c).Yields u high u' ∧
            low.AtMost high := by
  refine ⟨fun v w h raw c => Status.decode_atMost (Depths.ofVersion_mono h c) raw c, ?_⟩
  intro σ _ map s t s' t' word hlost hread
  have hzero : (0 : UInt16) ≤ (Firmware.decode word).version :=
    UInt16.le_iff_toNat_le.mpr (Nat.zero_le _)
  refine ⟨⟨map, .legacy⟩, ⟨map, .ofVersion (Firmware.decode word).version⟩,
    Monitor.yields_forDevice_of_zero hlost, Monitor.yields_forDevice hread, rfl, rfl, ?_⟩
  intro c address raw u u' haddress hstatus
  exact Monitor.yields_readStatus_atMost hzero haddress hstatus

/-- A monitor was made while the board with firmware 13 was closed.  Of a transmitter FIFO that is
filled past the oldest depth it tells that nothing is free, where there is room for 2096 more. -/
theorem older_tables_promise_no_more_past_the_oldest_depth :
    let board := Simulator.withFirmware 0xD0
    let filled := board.load 0x9004 0x800007D0
    (FrontEnd.readRegister ({} : RegisterMap).version).Yields board.close 0 board.close ∧
    (FrontEnd.readRegister ({} : RegisterMap).version).Yields board 0xD0 board ∧
    (FrontEnd.readRegister 0x9004).Yields filled 0x800007D0 (filled.clearFlags 0x9004) ∧
    ∃ fallback m, (Monitor.forDevice {}).Yields board.close fallback board.close ∧
      (Monitor.forDevice {}).Yields board m board ∧
      ∃ low high, (fallback.readStatus .tx).Yields filled low (filled.clearFlags 0x9004) ∧
        (m.readStatus .tx).Yields filled high (filled.clearFlags 0x9004) ∧ low.AtMost high ∧
        low.available = 0 ∧ high.available = 2096 ∧ low.overflowed = true ∧
        (Status.decode 0x7D0 .spk ((Depths.ofVersion 9).get .spk)).AtMost
          (Status.decode 0x7D0 .spk ((Depths.ofVersion 10).get .spk)) := by
  intro board filled
  have hlost : (FrontEnd.readRegister ({} : RegisterMap).version).Yields board.close 0 board.close :=
    Simulator.yields_readRegister_of_closed rfl _
  have hread : (FrontEnd.readRegister ({} : RegisterMap).version).Yields board 0xD0 board :=
    Simulator.yields_readRegister_of_plain rfl (by decide)
  have hstatus : (FrontEnd.readRegister 0x9004).Yields filled 0x800007D0
      (filled.clearFlags 0x9004) :=
    Simulator.yields_readRegister_of_status rfl (by decide)
  obtain ⟨htables, hmonitors⟩ := older_tables_promise_no_more
  obtain ⟨fallback, m, hfallback, hm, hlegacy, hv13, hreadings⟩ := hmonitors hlost hread
  obtain ⟨hlow, hhigh, hatMost⟩ := hreadings (c := .tx) rfl hstatus
  refine ⟨hlost, hread, hstatus, fallback, m, hfallback, hm, _, _, hlow, hhigh, hatMost, ?_, ?_,
    rfl, htables 9 10 (by decide) 0x7D0 .spk⟩
  · rw [hlegacy]
    rfl
  · rw [hv13]
    rfl

end RadioFrontEnd.Fifo
