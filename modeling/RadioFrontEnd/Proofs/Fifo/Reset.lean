import RadioFrontEnd.Proofs.Fifo.Monitor
import RadioFrontEnd.Proofs.Simulator
import RadioFrontEnd.Proofs.Word

/-!
# Resets as pulses

A reset reads the shared reset register and writes it twice.  This file follows the register through
any sequence of resets.

`pulses` is what such a sequence writes, as a function of the first content and the channels alone:
two values for each reset, the second of which the next reset starts from.  `Pulsed` says of two
states of the simulated device that this is all that happened between them.  One reset is `Pulsed`
(`exists_pulsed_resetChannel`), `Pulsed` is closed under going on (`Pulsed.append`), so every run of
resets is (`exists_pulsed_mapM`).  What is left are facts about lists of values: how often a bit
rises along them, which bits they keep, and where they end.
-/

namespace RadioFrontEnd.Fifo

open RadioFrontEnd.Action Word

/-! ## The values of a sequence of resets -/

/-- The reset register after some resets. -/
def raised (map : RegisterMap) (v : UInt32) (cs : List Channel) : UInt32 :=
  cs.foldl (fun v c => v ||| map.maskOf c) v

/-- What some resets write to the reset register: for each of them the register with the bit of the
channel low, and then with the bit high. -/
def pulses (map : RegisterMap) : UInt32 → List Channel → List UInt32
  | _, [] => []
  | v, c :: cs =>
    (v &&& ~~~map.maskOf c) :: (v ||| map.maskOf c) :: pulses map (v ||| map.maskOf c) cs

/-- How often a bit rises from one value to the next. -/
def risingEdges (i : Nat) : List UInt32 → Nat
  | v :: w :: vs => (if !hasBit v i && hasBit w i then 1 else 0) + risingEdges i (w :: vs)
  | [_] | [] => 0

theorem raised_append (map : RegisterMap) (v : UInt32) (cs ds : List Channel) :
    raised map v (cs ++ ds) = raised map (raised map v cs) ds :=
  List.foldl_append

theorem pulses_append (map : RegisterMap) (v : UInt32) (cs ds : List Channel) :
    pulses map v (cs ++ ds) = pulses map v cs ++ pulses map (raised map v cs) ds := by
  induction cs generalizing v with
  | nil => rfl
  | cons c cs ih =>
    rw [List.cons_append, pulses, pulses, ih, List.cons_append, List.cons_append]
    rfl

theorem length_pulses (map : RegisterMap) (v : UInt32) (cs : List Channel) :
    (pulses map v cs).length = 2 * cs.length := by
  induction cs generalizing v with
  | nil => rfl
  | cons c cs ih =>
    rw [pulses, List.length_cons, List.length_cons, ih, List.length_cons]
    omega

section Bits

variable {map : RegisterMap}

theorem hasBit_maskOf (hmasks : map.HasMasks) (c : Channel) (i : Nat) :
    hasBit (map.maskOf c) i = decide ((map.resetBit c).toNat = i) :=
  hasBit_one_shiftLeft (hmasks c) i

/-- Bits that belong to none of the channels stay as they are. -/
theorem hasBit_of_mem_pulses (hmasks : map.HasMasks) {v : UInt32} {cs : List Channel} {i : Nat}
    (hi : ∀ c ∈ cs, (map.resetBit c).toNat ≠ i) :
    ∀ w ∈ pulses map v cs, hasBit w i = hasBit v i := by
  induction cs generalizing v with
  | nil =>
    intro w hw
    exact absurd hw List.not_mem_nil
  | cons c cs ih =>
    intro w hw
    have hc : hasBit (map.maskOf c) i = false := by
      rw [hasBit_maskOf hmasks]
      exact decide_eq_false (hi c List.mem_cons_self)
    have hhigh : hasBit (v ||| map.maskOf c) i = hasBit v i := by
      rw [hasBit_or, hc, Bool.or_false]
    rw [pulses, List.mem_cons, List.mem_cons] at hw
    rcases hw with rfl | rfl | hw
    · rw [hasBit_clear, hc, Bool.not_false, Bool.and_true]
    · exact hhigh
    · rw [ih (fun d hd => hi d (List.mem_cons_of_mem c hd)) w hw, hhigh]

/-- **Every reset raises its own bit once.**  The low value takes the bit down if it was up, the high
value takes it up, and the resets of other channels leave it where it is. -/
theorem risingEdges_pulses (hmasks : map.HasMasks) (hdistinct : Function.Injective map.resetBit)
    (c : Channel) (v : UInt32) (cs : List Channel) :
    risingEdges (map.resetBit c).toNat (v :: pulses map v cs) = cs.count c := by
  induction cs generalizing v with
  | nil => rfl
  | cons d cs ih =>
    have hbit : hasBit (map.maskOf d) (map.resetBit c).toNat = decide (d = c) := by
      rw [hasBit_maskOf hmasks]
      apply decide_eq_decide.mpr
      rw [UInt32.toNat_inj]
      exact ⟨fun h => hdistinct h, congrArg map.resetBit⟩
    rw [pulses, risingEdges, risingEdges, ih, hasBit_clear, hasBit_or, hbit, List.count_cons]
    by_cases hdc : d = c
    · simp [hdc]
      omega
    · cases hasBit v (map.resetBit c).toNat <;> simp [hdc]

/-- The union of the masks of some channels. -/
def maskUnion (map : RegisterMap) (cs : List Channel) : UInt32 :=
  cs.foldr (fun c w => map.maskOf c ||| w) 0

theorem hasBit_maskUnion (cs : List Channel) (i : Nat) :
    hasBit (maskUnion map cs) i = cs.any fun c => hasBit (map.maskOf c) i := by
  induction cs with
  | nil => exact hasBit_zero i
  | cons c cs ih =>
    rw [List.any_cons, ← ih]
    exact hasBit_or _ _ i

theorem hasBit_raised (v : UInt32) (cs : List Channel) (i : Nat) :
    hasBit (raised map v cs) i = (hasBit v i || cs.any fun c => hasBit (map.maskOf c) i) := by
  induction cs generalizing v with
  | nil => exact (Bool.or_false _).symm
  | cons c cs ih =>
    rw [List.any_cons, ← Bool.or_assoc, ← hasBit_or]
    exact ih (v ||| map.maskOf c)

/-- Where a sequence of resets ends depends only on which channels occur in it. -/
theorem raised_eq_or_maskUnion (map : RegisterMap) (v : UInt32) (cs : List Channel) :
    raised map v cs = v ||| maskUnion map (Channel.all.filter (· ∈ cs)) := by
  apply ext_hasBit
  intro i _
  rw [hasBit_raised, hasBit_or, hasBit_maskUnion, List.any_filter]
  congr 1
  rw [Bool.eq_iff_iff, List.any_eq_true, List.any_eq_true]
  constructor
  · rintro ⟨c, hc, hi⟩
    exact ⟨c, Channel.mem_all c, by simpa using ⟨hc, hi⟩⟩
  · rintro ⟨c, -, h⟩
    obtain ⟨hc, hi⟩ : c ∈ cs ∧ hasBit (map.maskOf c) i = true := by simpa using h
    exact ⟨c, hc, hi⟩

end Bits

/-! ## Resets on the simulated device -/

/-- Between two states of the device some channels were reset, one after the other, and nothing else
happened. -/
structure Pulsed (map : RegisterMap) (cs : List Channel) (s t : Simulator) : Prop where
  /-- The register map is the same. -/
  map_eq : t.map = s.map
  /-- The device is as open as before. -/
  isOpen_eq : t.isOpen = s.isOpen
  /-- The window is the same. -/
  window_eq : t.window = s.window
  /-- The log has the values of the resets behind what it had. -/
  writeLog_eq :
    t.writeLog = s.writeLog ++ (pulses map (s.peek map.reset) cs).map (map.reset, ·)
  /-- The reset register holds the last of these values. -/
  peek_reset : t.peek map.reset = raised map (s.peek map.reset) cs
  /-- Every other register has the same content. -/
  peek_of_ne : ∀ a, a ≠ map.reset → t.peek a = s.peek a

variable {map : RegisterMap} {cs ds : List Channel} {s t u : Simulator}

theorem Pulsed.refl (map : RegisterMap) (s : Simulator) : Pulsed map [] s s :=
  ⟨rfl, rfl, rfl, (List.append_nil _).symm, rfl, fun _ _ => rfl⟩

theorem Pulsed.append (h : Pulsed map cs s t) (h' : Pulsed map ds t u) :
    Pulsed map (cs ++ ds) s u where
  map_eq := h'.map_eq.trans h.map_eq
  isOpen_eq := h'.isOpen_eq.trans h.isOpen_eq
  window_eq := h'.window_eq.trans h.window_eq
  writeLog_eq := by
    rw [h'.writeLog_eq, h.writeLog_eq, h.peek_reset, pulses_append, List.map_append,
      List.append_assoc]
  peek_reset := by rw [h'.peek_reset, h.peek_reset, raised_append]
  peek_of_ne a ha := (h'.peek_of_ne a ha).trans (h.peek_of_ne a ha)

/-- The values of the resets are what the log of the reset register has more. -/
theorem Pulsed.writesTo_reset (h : Pulsed map cs s t) :
    t.writesTo map.reset = s.writesTo map.reset ++ pulses map (s.peek map.reset) cs := by
  rw [Simulator.writesTo, h.writeLog_eq, List.filter_append, List.map_append, Simulator.writesTo]
  congr 1
  rw [List.filter_map, List.map_map]
  simp [Function.comp_def]

/-- The log of any other register stays as it is. -/
theorem Pulsed.writesTo_of_ne (h : Pulsed map cs s t) {a : UInt32} (ha : a ≠ map.reset) :
    t.writesTo a = s.writesTo a := by
  rw [Simulator.writesTo, h.writeLog_eq, List.filter_append, List.map_append, Simulator.writesTo,
    List.filter_map]
  simp [Function.comp_def, Ne.symm ha]

/-- **One reset is one pulse.**  The value written is computed from what the read gave, so it does
not matter whether that read cleared flags of the reset register. -/
theorem exists_pulsed_resetChannel {m : Monitor} (hmap : s.map = m.map) (hopen : s.isOpen = true)
    (hstatus : m.map.HasStatus) (hmasks : m.map.HasMasks) (c : Channel) :
    ∃ t, (m.resetChannel c).Yields s () t ∧ Pulsed m.map [c] s t := by
  obtain ⟨r, hread, hr⟩ :=
    Simulator.exists_yields_readRegister hopen (hmap ▸ hstatus) m.map.reset
  have hropen : r.isOpen = true := hr.isOpen_eq.trans hopen
  let low := s.peek m.map.reset &&& ~~~m.map.maskOf c
  let high := low ||| m.map.maskOf c
  have hlow : (r.store m.map.reset low).isOpen = true := hropen
  refine ⟨(r.store m.map.reset low).store m.map.reset high, ?_, ?_⟩
  · exact Monitor.yields_resetChannel (hmasks.resetMask_eq c) hread
      (Simulator.yields_writeRegister hropen m.map.reset low)
      (Simulator.yields_writeRegister hlow m.map.reset high)
  · have hhigh : high = s.peek m.map.reset ||| m.map.maskOf c := clear_or _ _
    refine ⟨hr.map_eq, hr.isOpen_eq, hr.window_eq, ?_, ?_, fun a ha => ?_⟩
    · rw [Simulator.store_writeLog, Simulator.store_writeLog, hr.writeLog_eq, List.append_assoc,
        hhigh]
      rfl
    · rw [Simulator.peek_store_self, hhigh]
      rfl
    · rw [Simulator.peek_store_of_ne _ (Ne.symm ha), Simulator.peek_store_of_ne _ (Ne.symm ha),
        hr.peek_eq a ha]

theorem exists_pulsed_forEach {m : Monitor} (hmap : s.map = m.map) (hopen : s.isOpen = true)
    (hstatus : m.map.HasStatus) (hmasks : m.map.HasMasks) (cs : List Channel) :
    ∃ t, (Monitor.forEach m.resetChannel cs).Yields s () t ∧ Pulsed m.map cs s t := by
  induction cs generalizing s with
  | nil => exact ⟨s, Monitor.yields_forEach_nil _ s, Pulsed.refl m.map s⟩
  | cons c cs ih =>
    obtain ⟨t, hc, ht⟩ := exists_pulsed_resetChannel hmap hopen hstatus hmasks c
    obtain ⟨u, hcs, hu⟩ := ih (ht.map_eq.trans hmap) (ht.isOpen_eq.trans hopen)
    exact ⟨u, Monitor.yields_forEach_cons hc hcs, ht.append hu⟩

/-- A call that resets channels is the resets of its channels. -/
theorem exists_pulsed_perform {m : Monitor} (hmap : s.map = m.map) (hopen : s.isOpen = true)
    (hstatus : m.map.HasStatus) (hmasks : m.map.HasMasks) {call : Monitor.Call}
    (hcall : call.isReset = true) :
    ∃ t, (m.perform call).Yields s none t ∧ Pulsed m.map call.resets s t := by
  cases call with
  | reset c =>
    obtain ⟨t, hrun, ht⟩ := exists_pulsed_resetChannel hmap hopen hstatus hmasks c
    exact ⟨t, hrun.map _, ht⟩
  | resetAll =>
    obtain ⟨t, hrun, ht⟩ := exists_pulsed_forEach hmap hopen hstatus hmasks Channel.all
    exact ⟨t, hrun.map _, ht⟩
  | configure | configureAll | readStatus => exact absurd hcall Bool.false_ne_true

theorem exists_pulsed_mapM {m : Monitor} (hmap : s.map = m.map) (hopen : s.isOpen = true)
    (hstatus : m.map.HasStatus) (hmasks : m.map.HasMasks) {calls : List Monitor.Call}
    (hcalls : ∀ call ∈ calls, call.isReset = true) :
    ∃ answers t, (calls.mapM m.perform).Yields s answers t ∧
      Pulsed m.map (calls.flatMap Monitor.Call.resets) s t := by
  induction calls generalizing s with
  | nil => exact ⟨[], s, yields_mapM_nil _ s, Pulsed.refl m.map s⟩
  | cons call calls ih =>
    obtain ⟨t, hcall, ht⟩ := exists_pulsed_perform hmap hopen hstatus hmasks
      (hcalls call List.mem_cons_self)
    obtain ⟨answers, u, hrest, hu⟩ := ih (ht.map_eq.trans hmap) (ht.isOpen_eq.trans hopen)
      (fun c hc => hcalls c (List.mem_cons_of_mem call hc))
    exact ⟨none :: answers, u, hcall.mapM_cons hrest, ht.append hu⟩

/-- **Every reset is one clean pulse of its own bit.**  Any sequence of resets on an open device ends
without a fault.  It writes the reset register twice for each reset, low and then high.  Along the
values the bit of a channel rises as often as the channel is reset, and bits of no channel that is
reset never change.  In the end the register has the masks of all the channels that were reset, and
every other register is as it was.  The reset register may itself be a status register. -/
theorem resets_pulse_own_bits {m : Monitor} {s : Simulator} {calls : List Monitor.Call}
    (hmap : s.map = m.map) (hopen : s.isOpen = true) (hstatus : m.map.HasStatus)
    (hmasks : m.map.HasMasks) (hdistinct : Function.Injective m.map.resetBit)
    (hcalls : ∀ call ∈ calls, call.isReset = true) :
    let channels := calls.flatMap Monitor.Call.resets
    let first := s.peek m.map.reset
    let values := pulses m.map first channels
    ∃ answers t, (calls.mapM m.perform).Yields s answers t ∧
      t.writesTo m.map.reset = s.writesTo m.map.reset ++ values ∧
      values.length = 2 * channels.length ∧
      (∀ c, risingEdges (m.map.resetBit c).toNat (first :: values) = channels.count c) ∧
      (∀ i, (∀ c ∈ channels, (m.map.resetBit c).toNat ≠ i) →
        ∀ v ∈ values, hasBit v i = hasBit first i) ∧
      t.peek m.map.reset = first ||| maskUnion m.map (Channel.all.filter (· ∈ channels)) ∧
      ∀ a, a ≠ m.map.reset → t.peek a = s.peek a := by
  intro channels first values
  obtain ⟨answers, t, hrun, ht⟩ := exists_pulsed_mapM hmap hopen hstatus hmasks hcalls
  refine ⟨answers, t, hrun, ht.writesTo_reset, length_pulses _ _ _, fun c => ?_, fun i hi => ?_, ?_,
    ht.peek_of_ne⟩
  · exact risingEdges_pulses hmasks hdistinct c first channels
  · exact hasBit_of_mem_pulses hmasks hi
  · rw [ht.peek_reset]
    exact raised_eq_or_maskUnion m.map first channels

/-- The reset register shares its address with the status register of the receiver, and three flags
are raised in it. -/
theorem resets_pulse_own_bits_on_status_register :
    let m : Monitor := ⟨{ reset := 0x9000 }, .v13⟩
    let s := (Simulator.fresh m.map).load 0x9000 0xE0000001
    ∃ answers t, ([.reset .mic, .resetAll, .reset .spk].mapM m.perform).Yields s answers t ∧
      (t.writesTo 0x9000).length = 12 ∧ t.peek 0x9000 = 0xE000000F ∧ t.peek 0x9004 = 0 := by
  intro m s
  have hstatus : m.map.HasStatus := fun c => by cases c <;> rfl
  have hmasks : m.map.HasMasks := fun c => by cases c <;> decide
  have hdistinct : Function.Injective m.map.resetBit := fun c d => by
    cases c <;> cases d <;> decide
  obtain ⟨answers, t, hrun, hlog, -, -, -, hlast, hother⟩ :=
    @resets_pulse_own_bits m s [.reset .mic, .resetAll, .reset .spk] rfl rfl hstatus hmasks
      hdistinct (by decide)
  refine ⟨answers, t, hrun, ?_, hlast.trans (by decide), hother 0x9004 (by decide)⟩
  rw [show t.writesTo 0x9000 = _ from hlog]
  decide

end RadioFrontEnd.Fifo
