import Mathlib.Data.List.Nodup
import Mathlib.Data.List.Perm.Basic
import RadioFrontEnd.Proofs.Fifo.Reset

/-!
# Channels do not interfere

The four channels share one device: one register file, one log, and one reset register in which each
of them has a bit.  This file shows that what a channel sees depends on its own steps alone, however
they are interleaved with the steps of the others.

A channel sees a `View` of the device: its status register, its configuration register with the log
of that register, and its reset bit.  A step of a channel changes its own view by a function of that
view (`View.after`), and leaves the view of every other channel alone (`Kept`); `exists_kept_step`
says both of each of the four steps.  So the view of a channel after a run is `View.run` of the steps
of that channel (`exists_followed_mapM`), and runs with the same steps for each channel end in the
same views.  No two steps of different channels are ever compared.

The views make up everything that the steps can change.  What is in none of them is kept, and since
two interleavings of the same steps are permutations of each other, the number of resets is the
same.
-/

namespace RadioFrontEnd

/-- The registers that the channels use: four for the status, four for the configuration, and the
reset register. -/
def RegisterMap.channelRegisters (map : RegisterMap) : List UInt32 :=
  Channel.all.map map.statusAt ++ Channel.all.map map.configAt ++ [map.reset]

/-- No two of the registers that the channels use are the same. -/
def RegisterMap.Separate (map : RegisterMap) : Prop := map.channelRegisters.Nodup

instance (map : RegisterMap) : Decidable map.Separate :=
  inferInstanceAs (Decidable map.channelRegisters.Nodup)

namespace RegisterMap.Separate

variable {map : RegisterMap}

theorem statusAt_ne_configAt (h : map.Separate) (c d : Channel) :
    map.statusAt c ≠ map.configAt d :=
  (List.nodup_append.mp (List.nodup_append.mp h).1).2.2 _
    (List.mem_map_of_mem (Channel.mem_all c)) _ (List.mem_map_of_mem (Channel.mem_all d))

theorem statusAt_ne_reset (h : map.Separate) (c : Channel) : map.statusAt c ≠ map.reset :=
  (List.nodup_append.mp h).2.2 _
    (List.mem_append_left _ (List.mem_map_of_mem (Channel.mem_all c))) _ (List.mem_singleton_self _)

theorem configAt_ne_reset (h : map.Separate) (c : Channel) : map.configAt c ≠ map.reset :=
  (List.nodup_append.mp h).2.2 _
    (List.mem_append_right _ (List.mem_map_of_mem (Channel.mem_all c))) _
    (List.mem_singleton_self _)

end RegisterMap.Separate

/-- The map keeps the channels apart: all their registers exist and are different, and so are their
reset bits. -/
structure RegisterMap.Isolating (map : RegisterMap) : Prop where
  /-- The registers exist. -/
  addressable : map.Addressable
  /-- The registers are different. -/
  separate : map.Separate
  /-- The reset bits are bits of a word. -/
  masks : map.HasMasks
  /-- The reset bits are different. -/
  distinct : Function.Injective map.resetBit

/-- The standard map keeps the channels apart. -/
theorem RegisterMap.isolating_default : ({} : RegisterMap).Isolating where
  addressable := by decide
  separate := by decide
  masks := by decide
  distinct c d := by cases c <;> cases d <;> decide

namespace Fifo

open RadioFrontEnd.Action Word

/-! ## Steps of one channel -/

/-- Something that happens to one channel. -/
inductive ChannelStep where
  /-- The hardware loads the status register. -/
  | load (raw : UInt32)
  /-- The host reads the status. -/
  | read
  /-- The host configures the channel. -/
  | configure (interrupt : Bool)
  /-- The host resets the FIFO. -/
  | reset
  deriving DecidableEq

/-- A step of a channel on the simulated device; a reading is given back with its channel. -/
def Monitor.step (m : Monitor) : Channel × ChannelStep → Action Simulator (Channel × Option Status)
  | (c, .load raw) => (fun _ => (c, none)) <$> Simulator.setStatus c raw
  | (c, .read) => (fun status => (c, some status)) <$> m.readStatus c
  | (c, .configure interrupt) => (fun _ => (c, none)) <$> m.configureChannel c interrupt
  | (c, .reset) => (fun _ => (c, none)) <$> m.resetChannel c

/-- The steps of one channel in a run. -/
def stepsOf (c : Channel) (run : List (Channel × ChannelStep)) : List ChannelStep :=
  (run.filter (·.1 = c)).map (·.2)

/-- The run takes the steps of every channel in their order, and no others. -/
def Interleaves (seqs : Channel → List ChannelStep) (run : List (Channel × ChannelStep)) : Prop :=
  ∀ c, stepsOf c run = seqs c

/-- The readings that a channel got. -/
def seen (c : Channel) (answers : List (Channel × Option Status)) : List Status :=
  (answers.filter (·.1 = c)).filterMap (·.2)

/-! ## What a channel sees -/

/-- What a channel sees of the device. -/
structure View where
  /-- The status register. -/
  status : UInt32
  /-- The configuration register. -/
  config : UInt32
  /-- The values written to the configuration register. -/
  configLog : List UInt32
  /-- The bit of the channel in the reset register. -/
  resetBit : Bool
  deriving DecidableEq

/-- The view of a channel. -/
def view (map : RegisterMap) (c : Channel) (s : Simulator) : View where
  status := s.peek (map.statusAt c)
  config := s.peek (map.configAt c)
  configLog := s.writesTo (map.configAt c)
  resetBit := hasBit (s.peek map.reset) (map.resetBit c).toNat

/-- What a step of the channel makes of its view, and what it gives back. -/
def View.after (m : Monitor) (c : Channel) (v : View) : ChannelStep → View × Option Status
  | .load raw => ({ v with status := raw }, none)
  | .read =>
    ({ v with status := v.status &&& ~~~Status.flagBits },
      some (.decode v.status c (m.depths.get c)))
  | .configure interrupt =>
    ({ v with
        config := m.configWord c interrupt
        configLog := v.configLog ++ [m.configWord c interrupt] }, none)
  | .reset => ({ v with resetBit := true }, none)

/-- What a sequence of steps of the channel makes of its view, and the readings it gives. -/
def View.run (m : Monitor) (c : Channel) : View → List ChannelStep → View × List Status
  | v, [] => (v, [])
  | v, step :: steps =>
    let (v', reading) := v.after m c step
    let (w, readings) := View.run m c v' steps
    (w, reading.toList ++ readings)

/-! ## One step -/

/-- Between two states of the device, nothing changed that does not belong to a channel. -/
structure Kept (map : RegisterMap) (c : Channel) (s t : Simulator) : Prop where
  /-- The register map is the same. -/
  map_eq : t.map = s.map
  /-- The device is as open as before. -/
  isOpen_eq : t.isOpen = s.isOpen
  /-- No other channel sees a difference. -/
  view_eq : ∀ d, d ≠ c → view map d t = view map d s
  /-- Bits of the reset register that belong to no channel are the same. -/
  resetBit_eq : ∀ i, (∀ d, (map.resetBit d).toNat ≠ i) →
    hasBit (t.peek map.reset) i = hasBit (s.peek map.reset) i
  /-- Registers that belong to no channel have the same content. -/
  peek_eq : ∀ a, a ∉ map.channelRegisters → t.peek a = s.peek a

variable {m : Monitor} {s t : Simulator}

theorem mem_channelRegisters_status (map : RegisterMap) (c : Channel) :
    map.statusAt c ∈ map.channelRegisters :=
  List.mem_append_left _ (List.mem_append_left _ (List.mem_map_of_mem (Channel.mem_all c)))

theorem mem_channelRegisters_config (map : RegisterMap) (c : Channel) :
    map.configAt c ∈ map.channelRegisters :=
  List.mem_append_left _ (List.mem_append_right _ (List.mem_map_of_mem (Channel.mem_all c)))

theorem mem_channelRegisters_reset (map : RegisterMap) : map.reset ∈ map.channelRegisters :=
  List.mem_append_right _ (List.mem_singleton_self _)

section Steps

variable (h : m.map.Isolating)

include h

/-- What stays within the registers of a channel and its reset bit reaches no other channel. -/
theorem kept_of_local {c : Channel} (hmap : t.map = s.map) (hopen : t.isOpen = s.isOpen)
    (hpeek : ∀ a, a ≠ m.map.statusAt c → a ≠ m.map.configAt c → a ≠ m.map.reset →
      t.peek a = s.peek a)
    (hlog : ∀ d, d ≠ c → t.writesTo (m.map.configAt d) = s.writesTo (m.map.configAt d))
    (hbit : ∀ i, (m.map.resetBit c).toNat ≠ i →
      hasBit (t.peek m.map.reset) i = hasBit (s.peek m.map.reset) i) :
    Kept m.map c s t where
  map_eq := hmap
  isOpen_eq := hopen
  view_eq d hd := by
    have hstatus : t.peek (m.map.statusAt d) = s.peek (m.map.statusAt d) :=
      hpeek _ (fun hsame => hd (h.addressable.status.statusAt_injective hsame))
        (h.separate.statusAt_ne_configAt d c) (h.separate.statusAt_ne_reset d)
    have hconfig : t.peek (m.map.configAt d) = s.peek (m.map.configAt d) :=
      hpeek _ (h.separate.statusAt_ne_configAt c d).symm
        (fun hsame => hd (h.addressable.configAt_injective hsame)) (h.separate.configAt_ne_reset d)
    have hreset := hbit (m.map.resetBit d).toNat fun hsame =>
      hd (h.distinct (UInt32.toNat_inj.mp hsame)).symm
    rw [view, view, hstatus, hconfig, hlog d hd, hreset]
  resetBit_eq i hi := hbit i (hi c)
  peek_eq a ha := by
    apply hpeek
    · exact fun hsame => ha (hsame.symm ▸ mem_channelRegisters_status m.map c)
    · exact fun hsame => ha (hsame.symm ▸ mem_channelRegisters_config m.map c)
    · exact fun hsame => ha (hsame.symm ▸ mem_channelRegisters_reset m.map)

theorem kept_load (c : Channel) (v : UInt32) (s : Simulator) :
    Kept m.map c s (s.load (m.map.statusAt c) v) := by
  refine kept_of_local h rfl rfl (fun a ha _ _ => ?_) (fun _ _ => rfl) fun i _ => ?_
  · rw [Simulator.peek_load, if_neg (Ne.symm ha)]
  · rw [Simulator.peek_load, if_neg (h.separate.statusAt_ne_reset c)]

theorem view_load (c : Channel) (v : UInt32) (s : Simulator) :
    view m.map c (s.load (m.map.statusAt c) v) = { view m.map c s with status := v } := by
  rw [view, Simulator.peek_load, if_pos rfl, Simulator.peek_load,
    if_neg (h.separate.statusAt_ne_configAt c c), Simulator.peek_load,
    if_neg (h.separate.statusAt_ne_reset c)]
  rfl

theorem kept_store (c : Channel) (v : UInt32) (s : Simulator) :
    Kept m.map c s (s.store (m.map.configAt c) v) := by
  refine kept_of_local h rfl rfl (fun a _ ha _ => ?_) (fun d hd => ?_) fun i _ => ?_
  · rw [Simulator.peek_store_of_ne s (Ne.symm ha)]
  · rw [Simulator.writesTo_store,
      if_neg fun hsame => hd (h.addressable.configAt_injective hsame).symm]
  · rw [Simulator.peek_store_of_ne s (h.separate.configAt_ne_reset c)]

theorem view_store (c : Channel) (v : UInt32) (s : Simulator) :
    view m.map c (s.store (m.map.configAt c) v) =
      { view m.map c s with config := v, configLog := (view m.map c s).configLog ++ [v] } := by
  rw [view, Simulator.peek_store_of_ne s (h.separate.statusAt_ne_configAt c c).symm,
    Simulator.peek_store_self, Simulator.writesTo_store, if_pos rfl,
    Simulator.peek_store_of_ne s (h.separate.configAt_ne_reset c)]
  rfl

theorem kept_of_pulsed {c : Channel} (hp : Pulsed m.map [c] s t) : Kept m.map c s t := by
  refine kept_of_local h hp.map_eq hp.isOpen_eq (fun a _ _ ha => hp.peek_of_ne a ha)
    (fun d _ => hp.writesTo_of_ne (h.separate.configAt_ne_reset d)) fun i hi => ?_
  rw [hp.peek_reset, hasBit_raised, List.any_cons, List.any_nil, hasBit_maskOf h.masks,
    decide_eq_false hi, Bool.false_or, Bool.or_false]

theorem view_of_pulsed {c : Channel} (hp : Pulsed m.map [c] s t) :
    view m.map c t = { view m.map c s with resetBit := true } := by
  rw [view, hp.peek_of_ne _ (h.separate.statusAt_ne_reset c),
    hp.peek_of_ne _ (h.separate.configAt_ne_reset c),
    hp.writesTo_of_ne (h.separate.configAt_ne_reset c), hp.peek_reset, hasBit_raised,
    List.any_cons, hasBit_maskOf h.masks, decide_eq_true rfl, Bool.true_or, Bool.or_true]
  rfl

end Steps

/-- **One step.**  It changes the view of its own channel by `View.after`, and keeps everything that
does not belong to the channel.  Only a reset writes the reset register, twice. -/
theorem exists_kept_step (h : m.map.Isolating) (hmap : s.map = m.map) (hopen : s.isOpen = true)
    (c : Channel) (step : ChannelStep) :
    ∃ reading t, (m.step (c, step)).Yields s (c, reading) t ∧ Kept m.map c s t ∧
      (view m.map c s).after m c step = (view m.map c t, reading) ∧
      (t.writesTo m.map.reset).length =
        (s.writesTo m.map.reset).length + if step = .reset then 2 else 0 := by
  cases step with
  | load raw =>
    have hrun := Simulator.yields_setStatus (s := s) (hmap ▸ h.addressable.status) c raw
    rw [hmap] at hrun
    exact ⟨none, _, hrun.map _, kept_load h c raw s, Prod.ext (view_load h c raw s).symm rfl, rfl⟩
  | read =>
    have hstatus : s.map.isStatus (m.map.statusAt c) = .ok true :=
      hmap ▸ h.addressable.status.isStatus_statusAt c
    have hread := Simulator.yields_readRegister_of_status hopen hstatus
    exact ⟨_, _, (Monitor.yields_readStatus (h.addressable.status c) hread).map _,
      kept_load h c _ s, Prod.ext (view_load h c _ s).symm rfl, rfl⟩
  | configure interrupt =>
    have hwrite :=
      Simulator.yields_writeRegister hopen (m.map.configAt c) (m.configWord c interrupt)
    refine ⟨none, _, (Monitor.yields_configureChannel (h.addressable.config c) hwrite).map _,
      kept_store h c _ s, Prod.ext (view_store h c _ s).symm rfl, ?_⟩
    rw [Simulator.writesTo_store, if_neg (h.separate.configAt_ne_reset c)]
    rfl
  | reset =>
    obtain ⟨t, hrun, ht⟩ := exists_pulsed_resetChannel hmap hopen h.addressable.status h.masks c
    refine ⟨none, t, hrun.map _, kept_of_pulsed h ht, Prod.ext (view_of_pulsed h ht).symm rfl, ?_⟩
    rw [ht.writesTo_reset, List.length_append, length_pulses]
    rfl

/-! ## A whole run -/

theorem stepsOf_cons_self (c : Channel) (step : ChannelStep) (run : List (Channel × ChannelStep)) :
    stepsOf c ((c, step) :: run) = step :: stepsOf c run := by
  rw [stepsOf, List.filter_cons_of_pos (by simp), List.map_cons, stepsOf]

theorem stepsOf_cons_of_ne {c d : Channel} (hd : d ≠ c) (step : ChannelStep)
    (run : List (Channel × ChannelStep)) : stepsOf d ((c, step) :: run) = stepsOf d run := by
  rw [stepsOf, List.filter_cons_of_neg (by simpa using Ne.symm hd), stepsOf]

theorem seen_cons_self (c : Channel) (reading : Option Status)
    (answers : List (Channel × Option Status)) :
    seen c ((c, reading) :: answers) = reading.toList ++ seen c answers := by
  rw [seen, List.filter_cons_of_pos (by simp), seen]
  cases reading <;> rfl

theorem seen_cons_of_ne {c d : Channel} (hd : d ≠ c) (reading : Option Status)
    (answers : List (Channel × Option Status)) :
    seen d ((c, reading) :: answers) = seen d answers := by
  rw [seen, List.filter_cons_of_neg (by simpa using Ne.symm hd), seen]

/-- What a run does, channel by channel and outside of the channels. -/
structure Followed (m : Monitor) (run : List (Channel × ChannelStep)) (s t : Simulator)
    (answers : List (Channel × Option Status)) : Prop where
  /-- A channel ends in the view that its own steps lead to, with their readings. -/
  run_view : ∀ c, View.run m c (view m.map c s) (stepsOf c run) = (view m.map c t, seen c answers)
  /-- Bits of the reset register that belong to no channel are the same. -/
  resetBit_eq : ∀ i, (∀ d, (m.map.resetBit d).toNat ≠ i) →
    hasBit (t.peek m.map.reset) i = hasBit (s.peek m.map.reset) i
  /-- Registers that belong to no channel have the same content. -/
  peek_eq : ∀ a, a ∉ m.map.channelRegisters → t.peek a = s.peek a
  /-- Every reset makes two entries in the log of the reset register. -/
  length_eq : (t.writesTo m.map.reset).length =
    (s.writesTo m.map.reset).length + 2 * run.countP (·.2 = .reset)

theorem exists_followed_mapM (h : m.map.Isolating) (hmap : s.map = m.map)
    (hopen : s.isOpen = true) (run : List (Channel × ChannelStep)) :
    ∃ answers t, (run.mapM m.step).Yields s answers t ∧ Followed m run s t answers := by
  induction run generalizing s with
  | nil =>
    exact ⟨[], s, yields_mapM_nil _ s, ⟨fun _ => rfl, fun _ _ => rfl, fun _ _ => rfl, rfl⟩⟩
  | cons p run ih =>
    obtain ⟨c, step⟩ := p
    obtain ⟨reading, u, hstep, hkept, hafter, hlen⟩ := exists_kept_step h hmap hopen c step
    obtain ⟨answers, t, hrest, ht⟩ := ih (hkept.map_eq.trans hmap) (hkept.isOpen_eq.trans hopen)
    refine ⟨(c, reading) :: answers, t, hstep.mapM_cons hrest, ⟨fun d => ?_, fun i hi => ?_,
      fun a ha => ?_, ?_⟩⟩
    · by_cases hd : d = c
      · subst hd
        rw [stepsOf_cons_self, seen_cons_self, View.run, hafter]
        dsimp only
        rw [ht.run_view]
      · rw [stepsOf_cons_of_ne hd, seen_cons_of_ne hd, ← hkept.view_eq d hd, ht.run_view]
    · rw [ht.resetBit_eq i hi, hkept.resetBit_eq i hi]
    · rw [ht.peek_eq a ha, hkept.peek_eq a ha]
    · rw [ht.length_eq, hlen, List.countP_cons]
      by_cases hreset : step = .reset
      · rw [if_pos hreset, if_pos (decide_eq_true hreset)]
        omega
      · rw [if_neg hreset, if_neg (by simpa using hreset)]
        omega

/-! ## Two interleavings -/

theorem count_stepsOf (c : Channel) (step : ChannelStep) (run : List (Channel × ChannelStep)) :
    (stepsOf c run).count step = run.count (c, step) := by
  induction run with
  | nil => rfl
  | cons p run ih =>
    obtain ⟨d, step'⟩ := p
    by_cases hd : c = d
    · subst hd
      rw [stepsOf_cons_self, List.count_cons, List.count_cons, ih]
      simp
    · rw [stepsOf_cons_of_ne hd, List.count_cons_of_ne, ih]
      exact fun h => hd (congrArg Prod.fst h).symm

/-- Interleavings of the same steps are permutations of each other. -/
theorem Interleaves.perm {seqs : Channel → List ChannelStep}
    {run run' : List (Channel × ChannelStep)} (h : Interleaves seqs run)
    (h' : Interleaves seqs run') : run.Perm run' := by
  apply List.perm_iff_count.mpr
  rintro ⟨c, step⟩
  rw [← count_stepsOf, ← count_stepsOf, h c, h' c]

/-- The steps of a channel are all there when the others are left out. -/
theorem stepsOf_filter (c : Channel) (run : List (Channel × ChannelStep)) :
    stepsOf c (run.filter (·.1 = c)) = stepsOf c run := by
  rw [stepsOf, List.filter_filter, stepsOf]
  simp only [Bool.and_self]

/-- Equal views, and what no view shows is kept: so the registers are equal. -/
theorem Followed.peek_eq_peek {run run' : List (Channel × ChannelStep)} {t' : Simulator}
    {answers answers' : List (Channel × Option Status)} (h : Followed m run s t answers)
    (h' : Followed m run' s t' answers') (hview : ∀ c, view m.map c t = view m.map c t')
    (a : UInt32) : t.peek a = t'.peek a := by
  by_cases ha : a ∈ m.map.channelRegisters
  · rw [RegisterMap.channelRegisters, List.mem_append, List.mem_append, List.mem_map, List.mem_map,
      List.mem_singleton] at ha
    rcases ha with (⟨c, -, rfl⟩ | ⟨c, -, rfl⟩) | rfl
    · exact congrArg View.status (hview c)
    · exact congrArg View.config (hview c)
    · apply ext_hasBit
      intro i _
      by_cases hi : ∃ d, (m.map.resetBit d).toNat = i
      · obtain ⟨d, rfl⟩ := hi
        exact congrArg View.resetBit (hview d)
      · have hforeign : ∀ d, (m.map.resetBit d).toNat ≠ i := fun d hd => hi ⟨d, hd⟩
        rw [h.resetBit_eq i hforeign, h'.resetBit_eq i hforeign]
  · rw [h.peek_eq a ha, h'.peek_eq a ha]

/-- **Channels do not interfere.**  Any two interleavings of the same steps of the channels, from the
same state of an open device, end without a fault.  Every channel gets the same readings in both,
its configuration register has the same log, the log of the reset register has the same length, and
all registers end with the same content.  The readings of a channel are those that it gets when the
steps of the other channels are left out. -/
theorem channels_do_not_interfere (h : m.map.Isolating) (hmap : s.map = m.map)
    (hopen : s.isOpen = true) {seqs : Channel → List ChannelStep}
    {run run' : List (Channel × ChannelStep)} (hrun : Interleaves seqs run)
    (hrun' : Interleaves seqs run') :
    ∃ answers t answers' t',
      (run.mapM m.step).Yields s answers t ∧ (run'.mapM m.step).Yields s answers' t' ∧
      (∀ c, seen c answers = seen c answers') ∧
      (∀ c, t.writesTo (m.map.configAt c) = t'.writesTo (m.map.configAt c)) ∧
      (t.writesTo m.map.reset).length = (t'.writesTo m.map.reset).length ∧
      (∀ a, t.peek a = t'.peek a) ∧
      ∀ c, ∃ alone u, ((run.filter (·.1 = c)).mapM m.step).Yields s alone u ∧
        seen c alone = seen c answers := by
  obtain ⟨answers, t, hyields, ht⟩ := exists_followed_mapM h hmap hopen run
  obtain ⟨answers', t', hyields', ht'⟩ := exists_followed_mapM h hmap hopen run'
  have hpair (c : Channel) :
      (view m.map c t, seen c answers) = (view m.map c t', seen c answers') := by
    rw [← ht.run_view c, ← ht'.run_view c, hrun c, hrun' c]
  have hview (c : Channel) : view m.map c t = view m.map c t' := congrArg Prod.fst (hpair c)
  refine ⟨answers, t, answers', t', hyields, hyields', fun c => congrArg Prod.snd (hpair c),
    fun c => congrArg View.configLog (hview c), ?_, ht.peek_eq_peek ht' hview, fun c => ?_⟩
  · rw [ht.length_eq, ht'.length_eq, (hrun.perm hrun').countP_eq]
  · obtain ⟨alone, u, halone, hu⟩ := exists_followed_mapM h hmap hopen (run.filter (·.1 = c))
    have hc := hu.run_view c
    rw [stepsOf_filter, ht.run_view c] at hc
    exact ⟨alone, u, halone, (congrArg Prod.snd hc).symm⟩

/-- The receiver reads its flags before or after the other channels are reset and configured, while
the reset register holds bits of no channel. -/
theorem channels_do_not_interfere_receiver_first_or_last :
    let m : Monitor := ⟨{}, .v13⟩
    let s := (Simulator.fresh {}).load 0xA028 0xFFFF0004
    let receiver : List (Channel × ChannelStep) :=
      [(.rx, .load 0xE0000064), (.rx, .read), (.rx, .read)]
    let others : List (Channel × ChannelStep) :=
      [(.tx, .reset), (.mic, .configure true), (.spk, .load 0x20000001), (.tx, .reset)]
    ∃ answers t answers' t',
      ((receiver ++ others).mapM m.step).Yields s answers t ∧
      ((others ++ receiver).mapM m.step).Yields s answers' t' ∧
      seen .rx answers = seen .rx answers' ∧
      (t.writesTo 0xA028).length = (t'.writesTo 0xA028).length ∧ t.peek 0xA028 = t'.peek 0xA028 := by
  intro m s receiver others
  have hsame : Interleaves (fun c => stepsOf c (receiver ++ others)) (others ++ receiver) :=
    fun c => by cases c <;> rfl
  obtain ⟨answers, t, answers', t', hyields, hyields', hseen, -, hlength, hpeek, -⟩ :=
    @channels_do_not_interfere m s RegisterMap.isolating_default rfl rfl
      (fun c => stepsOf c (receiver ++ others)) _ _ (fun _ => rfl) hsame
  exact ⟨answers, t, answers', t', hyields, hyields', hseen .rx, hlength, hpeek 0xA028⟩

end Fifo
end RadioFrontEnd
