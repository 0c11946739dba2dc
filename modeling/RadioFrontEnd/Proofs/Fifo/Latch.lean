import Mathlib.Algebra.Group.Nat.Defs
import RadioFrontEnd.Proofs.Fifo.Reset

/-!
# Latched flags

The hardware loads the status register of a channel with an occupancy and three flags, and a reading
takes the flags away.  This file follows the status registers through any run of a monitor, with
loads by the hardware in between.

What a reading reports is told from the run alone: `lastLoad` is the word that was loaded last for
the channel, and `unread` says that no reading of the channel came after it.  Both look back from the
end of the run.  `pending` puts them together to the word that the status register holds, and
`pending_concat` says what one more event makes of it.  The other half is that the device agrees
(`exists_latched_perform`): only a load and a reading of the channel touch its status register,
because the registers that the other calls use lie elsewhere.
-/

namespace RadioFrontEnd

/-- The status registers exist, and no other use is made of them. -/
structure RegisterMap.StatusApart (map : RegisterMap) : Prop where
  /-- The registers exist. -/
  addressable : map.Addressable
  /-- The reset bits are bits of a word. -/
  masks : map.HasMasks
  /-- No status register is a configuration register. -/
  config_ne : ∀ c d, map.statusAt c ≠ map.configAt d
  /-- No status register is the reset register. -/
  reset_ne : ∀ c, map.statusAt c ≠ map.reset
  /-- No status register is the version register. -/
  version_ne : ∀ c, map.statusAt c ≠ map.version

namespace Fifo

open RadioFrontEnd.Action Word

/-! ## What happened so far -/

/-- Something that happens while a monitor is in use. -/
inductive Event where
  /-- The hardware loads the status register of a channel. -/
  | load (c : Channel) (raw : UInt32)
  /-- The host makes a call of the monitor. -/
  | call (call : Monitor.Call)
  /-- The host reads the firmware identity. -/
  | firmware
  deriving DecidableEq

namespace Event

/-- An event on the simulated device; a reading is given back. -/
def perform (m : Monitor) : Event → Action Simulator (Option Status)
  | load c raw => (fun _ => none) <$> Simulator.setStatus c raw
  | call k => m.perform k
  | firmware => (fun _ => none) <$> Firmware.read m.map

/-- The word that the event loads for a channel. -/
def loaded? (c : Channel) : Event → Option UInt32
  | load d raw => if d = c then some raw else none
  | call _ | firmware => none

/-- Is the event a reading of the channel? -/
def reads (c : Channel) : Event → Bool
  | call (.readStatus d) => d = c
  | call _ | load _ _ | firmware => false

end Event

variable (c : Channel) (past : List Event) (e : Event)

/-- The word that was loaded last for a channel; zero if none was. -/
def lastLoad : UInt32 := (past.reverse.findSome? (Event.loaded? c)).getD 0

/-- No reading of the channel came after its last load. -/
def unread : Bool :=
  (past.reverse.takeWhile fun e => (e.loaded? c).isNone).all fun e => !e.reads c

/-- The word in the status register of a channel: the last load, without the flags once they are
read. -/
def pending : UInt32 :=
  if unread c past then lastLoad c past else lastLoad c past &&& ~~~Status.flagBits

theorem lastLoad_concat :
    lastLoad c (past ++ [e]) = (e.loaded? c).getD (lastLoad c past) :=
  getD_findSome?_concat (Event.loaded? c) 0 past e

theorem unread_concat :
    unread c (past ++ [e]) = ((e.loaded? c).isSome || (!e.reads c && unread c past)) := by
  rw [unread, List.reverse_append, List.reverse_singleton, List.singleton_append,
    List.takeWhile_cons]
  cases e.loaded? c with
  | none => exact List.all_cons
  | some raw => rfl

/-- What one more event makes of the word in the status register. -/
theorem pending_concat :
    pending c (past ++ [e]) =
      match e.loaded? c with
      | some raw => raw
      | none => if e.reads c then pending c past &&& ~~~Status.flagBits else pending c past := by
  rw [pending, lastLoad_concat, unread_concat, pending]
  cases e.loaded? c with
  | some raw => rfl
  | none =>
    cases e.reads c with
    | false => rfl
    | true =>
      -- flags that are gone cannot be taken away again
      cases unread c past with
      | true => rfl
      | false => exact (clear_clear (lastLoad c past) Status.flagBits).symm

/-! ## What a reading reports -/

section Reports

variable {c past}

/-- A flag is reported if it was loaded and not yet read. -/
theorem hasBit_pending {i : Nat} (hi : hasBit Status.flagBits i = true) :
    hasBit (pending c past) i = (unread c past && hasBit (lastLoad c past) i) := by
  rw [pending]
  cases unread c past with
  | true => rfl
  | false =>
    rw [if_neg Bool.false_ne_true, hasBit_clear, hi, Bool.not_true, Bool.and_false, Bool.false_and]

/-- The occupancy is that of the last load, whether its flags were read or not. -/
theorem pending_and_occupancyBits :
    pending c past &&& Status.occupancyBits = lastLoad c past &&& Status.occupancyBits := by
  rw [pending]
  split
  · rfl
  · apply ext_hasBit
    intro i hi
    have hapart : (!hasBit Status.flagBits i && hasBit Status.occupancyBits i)
        = hasBit Status.occupancyBits i := by
      revert i
      decide
    rw [hasBit_and, hasBit_clear, hasBit_and, Bool.and_assoc, hapart]

theorem toNat_and_occupancyBits (w : UInt32) :
    (w &&& Status.occupancyBits).toNat = w.toNat % 2 ^ 16 := by
  rw [UInt32.toNat_and]
  exact Nat.and_two_pow_sub_one_eq_mod w.toNat 16

end Reports

/-! ## The device agrees -/

/-- After the events, the device is open and every status register holds what is pending. -/
structure Latched (m : Monitor) (past : List Event) (s : Simulator) : Prop where
  /-- The device has the register map of the monitor. -/
  map_eq : s.map = m.map
  /-- The device is open. -/
  isOpen : s.isOpen = true
  /-- The status registers hold what is pending. -/
  peek_eq : ∀ c, s.peek (m.map.statusAt c) = pending c past

/-- Nothing happened that the status registers show. -/
structure StatusKept (map : RegisterMap) (s t : Simulator) : Prop where
  /-- The register map is the same. -/
  map_eq : t.map = s.map
  /-- The device is as open as before. -/
  isOpen_eq : t.isOpen = s.isOpen
  /-- The status registers have the same content. -/
  peek_eq : ∀ c, t.peek (map.statusAt c) = s.peek (map.statusAt c)

variable {c past e} {m : Monitor} {s t u : Simulator}

theorem StatusKept.refl (map : RegisterMap) (s : Simulator) : StatusKept map s s :=
  ⟨rfl, rfl, fun _ => rfl⟩

theorem StatusKept.trans {map : RegisterMap} (h : StatusKept map s t) (h' : StatusKept map t u) :
    StatusKept map s u :=
  ⟨h'.map_eq.trans h.map_eq, h'.isOpen_eq.trans h.isOpen_eq,
    fun c => (h'.peek_eq c).trans (h.peek_eq c)⟩

/-- An event that neither loads nor reads leaves pending what is pending. -/
theorem Latched.of_statusKept (h : Latched m past s) (hkept : StatusKept m.map s t)
    (hload : ∀ c, e.loaded? c = none) (hread : ∀ c, e.reads c = false) :
    Latched m (past ++ [e]) t where
  map_eq := hkept.map_eq.trans h.map_eq
  isOpen := hkept.isOpen_eq.trans h.isOpen
  peek_eq c := by
    rw [hkept.peek_eq, h.peek_eq, pending_concat, hload, hread]
    rfl

theorem statusKept_of_pulsed (hmap : m.map.StatusApart) {cs : List Channel}
    (h : Pulsed m.map cs s t) : StatusKept m.map s t :=
  ⟨h.map_eq, h.isOpen_eq, fun c => h.peek_of_ne _ (hmap.reset_ne c)⟩

theorem exists_statusKept_configureChannel (hmap : m.map.StatusApart) (hopen : s.isOpen = true)
    (interrupt : Bool) (c : Channel) :
    ∃ t, (m.configureChannel c interrupt).Yields s () t ∧ StatusKept m.map s t := by
  have hwrite := Simulator.yields_writeRegister hopen (m.map.configAt c) (m.configWord c interrupt)
  refine ⟨_, Monitor.yields_configureChannel (hmap.addressable.config c) hwrite, rfl, rfl, ?_⟩
  intro d
  exact Simulator.peek_store_of_ne s (hmap.config_ne d c).symm _

theorem exists_statusKept_configureAll (hmap : m.map.StatusApart) (hopen : s.isOpen = true)
    (interrupt : Bool) :
    ∃ t, (m.configureAll interrupt).Yields s () t ∧ StatusKept m.map s t := by
  have hchannel (c : Channel) (u : Simulator) (hu : StatusKept m.map s u) :
      ∃ t, (m.configureChannel c interrupt).Yields u () t ∧ StatusKept m.map s t := by
    obtain ⟨t, hrun, ht⟩ :=
      exists_statusKept_configureChannel hmap (hu.isOpen_eq.trans hopen) interrupt c
    exact ⟨t, hrun, hu.trans ht⟩
  exact Monitor.exists_yields_forEach hchannel Channel.all (.refl m.map s)

/-- **One event.**  It leaves pending what the history says, and a reading reports what was pending
before it. -/
theorem exists_latched_perform (hmap : m.map.StatusApart) (h : Latched m past s) (e : Event) :
    ∃ answer t, (e.perform m).Yields s answer t ∧ Latched m (past ++ [e]) t ∧
      ∀ c, e = .call (.readStatus c) →
        answer = some (.decode (pending c past) c (m.depths.get c)) := by
  have hstatus : m.map.HasStatus := hmap.addressable.status
  cases e with
  | load c raw =>
    have hrun := Simulator.yields_setStatus (h.map_eq ▸ hstatus) c raw
    rw [h.map_eq] at hrun
    refine ⟨none, _, hrun.map _, ⟨h.map_eq, h.isOpen, fun d => ?_⟩, nofun⟩
    rw [Simulator.peek_load, pending_concat, Event.loaded?]
    by_cases hcd : c = d
    · rw [hcd, if_pos rfl, if_pos rfl]
    · rw [if_neg fun hsame => hcd (hstatus.statusAt_injective hsame), if_neg hcd, h.peek_eq]
      rfl
  | firmware =>
    have hplain : s.map.isStatus m.map.version = .ok false :=
      h.map_eq ▸ hstatus.isStatus_of_ne hmap.version_ne
    have hread := (Simulator.yields_readRegister_of_plain h.isOpen hplain).map Firmware.decode
    have hrun : (Firmware.read m.map).Yields s (.decode (s.peek m.map.version)) s := hread
    exact ⟨none, s, hrun.map _,
      h.of_statusKept (.refl m.map s) (fun _ => rfl) (fun _ => rfl), nofun⟩
  | call k =>
    cases k with
    | configure c interrupt =>
      obtain ⟨t, hrun, ht⟩ := exists_statusKept_configureChannel hmap h.isOpen interrupt c
      exact ⟨none, t, hrun.map _, h.of_statusKept ht (fun _ => rfl) (fun _ => rfl), nofun⟩
    | configureAll interrupt =>
      obtain ⟨t, hrun, ht⟩ := exists_statusKept_configureAll hmap h.isOpen interrupt
      exact ⟨none, t, hrun.map _, h.of_statusKept ht (fun _ => rfl) (fun _ => rfl), nofun⟩
    | reset c =>
      obtain ⟨t, hrun, ht⟩ := exists_pulsed_perform h.map_eq h.isOpen hstatus hmap.masks
        (show (Monitor.Call.reset c).isReset = true from rfl)
      exact ⟨none, t, hrun, h.of_statusKept (statusKept_of_pulsed hmap ht) (fun _ => rfl)
        (fun _ => rfl), nofun⟩
    | resetAll =>
      obtain ⟨t, hrun, ht⟩ := exists_pulsed_perform h.map_eq h.isOpen hstatus hmap.masks
        (show Monitor.Call.resetAll.isReset = true from rfl)
      exact ⟨none, t, hrun, h.of_statusKept (statusKept_of_pulsed hmap ht) (fun _ => rfl)
        (fun _ => rfl), nofun⟩
    | readStatus c =>
      have hlatch : s.map.isStatus (m.map.statusAt c) = .ok true :=
        h.map_eq ▸ hstatus.isStatus_statusAt c
      have hread := Simulator.yields_readRegister_of_status h.isOpen hlatch
      have hrun := Monitor.yields_readStatus (hstatus c) hread
      rw [h.peek_eq] at hrun
      refine ⟨_, _, hrun.map some, ⟨h.map_eq, h.isOpen, fun d => ?_⟩, ?_⟩
      · rw [Simulator.peek_clearFlags, pending_concat, Event.loaded?, Event.reads, h.peek_eq]
        by_cases hcd : c = d
        · rw [hcd, if_pos rfl, decide_eq_true rfl, if_pos rfl]
        · rw [if_neg fun hsame => hcd (hstatus.statusAt_injective hsame), decide_eq_false hcd,
            if_neg Bool.false_ne_true, h.peek_eq]
      · intro d hd
        cases hd
        rfl

/-- Before anything happens, status registers of zeros hold what is pending. -/
theorem latched_nil (hmap : s.map = m.map) (hopen : s.isOpen = true)
    (hzero : ∀ c, s.peek (m.map.statusAt c) = 0) : Latched m [] s :=
  ⟨hmap, hopen, hzero⟩

/-- **Each latched flag is reported once, and the occupancy is never lost.**  From an open device
whose status registers hold zero, any run of loads, calls and looks at the firmware ends without a
fault, and so does one more event after it.  If that event reads a status, then the occupancy is that
of the last load of the channel, and a flag is reported if the last load raised it and no reading of
the channel came in between.  If the event neither loads nor reads the channel, then the status
register of the channel stays as it is. -/
theorem latched_flags_reported_once (hmap : m.map.StatusApart) (hsame : s.map = m.map)
    (hopen : s.isOpen = true) (hzero : ∀ c, s.peek (m.map.statusAt c) = 0) (past : List Event)
    (e : Event) :
    ∃ answers u answer t,
      (past.mapM (Event.perform m)).Yields s answers u ∧ (e.perform m).Yields u answer t ∧
      (∀ c, e = .call (.readStatus c) → ∃ status, answer = some status ∧
        status.occupied.toNat = (lastLoad c past).toNat % 2 ^ 16 ∧
        status.overflowed = (unread c past && hasBit (lastLoad c past) 31) ∧
        status.overThreshold = (unread c past && hasBit (lastLoad c past) 30) ∧
        status.underflowed = (unread c past && hasBit (lastLoad c past) 29)) ∧
      ∀ c, e.loaded? c = none → e.reads c = false →
        t.peek (m.map.statusAt c) = u.peek (m.map.statusAt c) := by
  obtain ⟨answers, u, hpast, hu⟩ := exists_yields_mapM (latched_nil hsame hopen hzero)
    (fun past e u hu =>
      let ⟨answer, t, hrun, ht, _⟩ := exists_latched_perform hmap hu e
      ⟨answer, t, hrun, ht⟩) past
  obtain ⟨answer, t, hrun, ht, hanswer⟩ := exists_latched_perform hmap hu e
  refine ⟨answers, u, answer, t, hpast, hrun, fun c he => ?_, fun c hload hread => ?_⟩
  · refine ⟨_, hanswer c he, ?_, ?_, ?_, ?_⟩
    · exact (congrArg UInt32.toNat pending_and_occupancyBits).trans (toNat_and_occupancyBits _)
    · exact (and_one_shiftLeft_bne_zero (p := 31) (by decide) _).trans (hasBit_pending (by decide))
    · exact (and_one_shiftLeft_bne_zero (p := 30) (by decide) _).trans (hasBit_pending (by decide))
    · exact (and_one_shiftLeft_bne_zero (p := 29) (by decide) _).trans (hasBit_pending (by decide))
  · rw [ht.peek_eq, hu.peek_eq, pending_concat, hload, hread]
    rfl

end Fifo

/-- The status registers of the standard map are used for nothing else. -/
theorem RegisterMap.statusApart_default : ({} : RegisterMap).StatusApart where
  addressable := by decide
  masks := by decide
  config_ne := by decide
  reset_ne := by decide
  version_ne := by decide

namespace Fifo

open RadioFrontEnd.Action

/-- Resets, configurations and a reading of another channel come between the load and the first
reading, which reports all three flags. -/
theorem latched_flags_reported_once_past_other_calls :
    let m : Monitor := ⟨{}, .v13⟩
    let past : List Event :=
      [.load .rx 0x20000001, .call (.readStatus .rx), .load .rx 0xE0010064, .firmware,
        .call .resetAll, .call (.configureAll true), .load .tx 0x80000000, .call (.readStatus .tx)]
    ∃ answers u status t,
      (past.mapM (Event.perform m)).Yields (.fresh {}) answers u ∧
      (Event.perform m (.call (.readStatus .rx))).Yields u (some status) t ∧
      status.occupied.toNat = 100 ∧ status.overflowed = true ∧ status.overThreshold = true ∧
      status.underflowed = true ∧ t.peek 0x9004 = u.peek 0x9004 := by
  intro m past
  obtain ⟨answers, u, answer, t, hpast, hrun, hreport, hkeep⟩ :=
    @latched_flags_reported_once m (.fresh {}) RegisterMap.statusApart_default rfl rfl
      (fun _ => rfl) past (.call (.readStatus .rx))
  obtain ⟨status, rfl, hoccupied, hover, hthreshold, hunder⟩ := hreport .rx rfl
  exact ⟨answers, u, status, t, hpast, hrun, hoccupied.trans (by decide), hover.trans (by decide),
    hthreshold.trans (by decide), hunder.trans (by decide), hkeep .tx rfl rfl⟩

end Fifo
end RadioFrontEnd
