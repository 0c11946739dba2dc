import RadioFrontEnd.Proofs.Firmware
import RadioFrontEnd.Proofs.Fifo.Depths

/-!
# Configurations

To configure a channel is to write one word to its configuration register: the depth of the FIFO in
the low 31 bits, and in the last bit whether to interrupt.  This file follows any run of
configurations on the simulated device.

A run comes down to a list of `orders`, each a channel and whether it is to interrupt, and every
order is one register write (`entry`).  So the device after a run is the device after these writes
(`yields_mapM_configure`), and the rest is about lists of writes: what the log has more of, and what
each register holds.

## What the map and the table have to give

Two facts about numbers carry this.  The registers of two channels are different ones, since the sums
that give their addresses do not wrap (`RegisterMap.Addressable.configAt_injective`); otherwise the
last order of one channel could be overwritten by an order of another.  And no depth of any firmware
reaches the last bit (`Depths.get_ofVersion_lt`); otherwise a configuration could ask for an interrupt
that nobody wants, and the depth could not be read off the word.

The version register may be one of the registers that are written.  The monitor does not mind: its
table was chosen when it was made.
-/

namespace RadioFrontEnd.Fifo

open RadioFrontEnd.Action Word

/-! ## The word of a configuration -/

/-- No depth reaches the last bit of a word. -/
theorem Depths.get_ofVersion_lt (version : UInt16) (c : Channel) :
    ((ofVersion version).get c).toNat < 2 ^ 31 := by
  unfold ofVersion
  split_ifs <;> cases c <;> decide

namespace Monitor

/-- With an interrupt, the last bit stands before the depth. -/
theorem toNat_configWord {m : Monitor} {c : Channel} (h : (m.depths.get c).toNat < 2 ^ 31)
    (interrupt : Bool) :
    (m.configWord c interrupt).toNat = 2 ^ 31 * interrupt.toNat + (m.depths.get c).toNat := by
  cases interrupt with
  | false => simp [configWord]
  | true =>
    have hword : m.configWord c true = (1 : UInt32) <<< 31 ||| m.depths.get c := UInt32.or_comm _ _
    have hplace : (31 : UInt32).toNat % 32 = 31 := rfl
    rw [hword]
    exact toNat_shiftLeft_or hplace (by decide) h

/-- **The depth and the interrupt can be told apart in the word.** -/
theorem configWord_fields {m : Monitor} {c : Channel} (h : (m.depths.get c).toNat < 2 ^ 31)
    (interrupt : Bool) :
    (m.configWord c interrupt).toNat % 2 ^ 31 = (m.depths.get c).toNat ∧
      hasBit (m.configWord c interrupt) 31 = interrupt := by
  have hword := toNat_configWord h interrupt
  refine ⟨?_, ?_⟩
  · rw [hword, Nat.mul_add_mod, Nat.mod_eq_of_lt h]
  · show (m.configWord c interrupt).toNat.testBit 31 = interrupt
    rw [hword, Nat.testBit_two_pow_mul_add _ h]
    cases interrupt <;> rfl

/-! ## Orders -/

/-- What a call configures: each channel in order, and whether it is to interrupt. -/
def Call.orders : Call → List (Channel × Bool)
  | configure c interrupt => [(c, interrupt)]
  | configureAll interrupt => Channel.all.map (·, interrupt)
  | readStatus _ | reset _ | resetAll => []

/-- Does the call configure channels and do nothing else? -/
def Call.isConfiguration : Call → Bool
  | configure _ _ | configureAll _ => true
  | readStatus _ | reset _ | resetAll => false

/-- The orders for one channel: whether it is to interrupt, each time. -/
def ordersOf (c : Channel) (orders : List (Channel × Bool)) : List Bool :=
  (orders.filter (·.1 = c)).map (·.2)

/-- The register write of an order. -/
def entry (m : Monitor) (order : Channel × Bool) : UInt32 × UInt32 :=
  (m.map.configAt order.1, m.configWord order.1 order.2)

variable {m : Monitor} {s : Simulator}

/-- The configuration register of a channel gets what its orders give, and nothing else. -/
theorem valuesAt_configAt (h : m.map.Addressable) (c : Channel) (orders : List (Channel × Bool)) :
    Simulator.valuesAt (m.map.configAt c) (orders.map m.entry) =
      (ordersOf c orders).map (m.configWord c) := by
  induction orders with
  | nil => rfl
  | cons order orders ih =>
    obtain ⟨d, interrupt⟩ := order
    rw [Simulator.valuesAt] at ih
    by_cases hd : d = c
    · subst hd
      simpa [Simulator.valuesAt, ordersOf, entry] using ih
    · have hne : m.map.configAt d ≠ m.map.configAt c := fun heq => hd (h.configAt_injective heq)
      simpa [Simulator.valuesAt, ordersOf, entry, hd, hne] using ih

/-- A register that belongs to no ordered channel gets nothing. -/
theorem valuesAt_of_ne {a : UInt32} {orders : List (Channel × Bool)}
    (h : ∀ order ∈ orders, m.map.configAt order.1 ≠ a) :
    Simulator.valuesAt a (orders.map m.entry) = [] := by
  rw [Simulator.valuesAt, List.map_eq_nil_iff, List.filter_eq_nil_iff]
  intro e he
  obtain ⟨order, horder, rfl⟩ := List.mem_map.mp he
  simpa [entry] using h order horder

/-! ## Runs -/

/-- To configure a channel is one register write. -/
theorem yields_configureChannel_storeAll (h : m.map.Addressable) (hopen : s.isOpen = true)
    (c : Channel) (interrupt : Bool) :
    (m.configureChannel c interrupt).Yields s () (s.storeAll [m.entry (c, interrupt)]) :=
  yields_configureChannel (h.config c) (Simulator.yields_writeRegister hopen _ _)

theorem yields_forEach_configure (h : m.map.Addressable) (hopen : s.isOpen = true)
    (interrupt : Bool) (cs : List Channel) :
    (forEach (m.configureChannel · interrupt) cs).Yields s ()
      (s.storeAll ((cs.map (·, interrupt)).map m.entry)) := by
  induction cs generalizing s with
  | nil => exact yields_forEach_nil _ s
  | cons c cs ih =>
    have hc := yields_configureChannel_storeAll h hopen c interrupt
    exact yields_forEach_cons hc (ih ((Simulator.isOpen_storeAll s _).trans hopen))

theorem yields_perform_configure (h : m.map.Addressable) (hopen : s.isOpen = true) {call : Call}
    (hcall : call.isConfiguration = true) :
    (m.perform call).Yields s none (s.storeAll (call.orders.map m.entry)) := by
  cases call with
  | configure c interrupt => exact (yields_configureChannel_storeAll h hopen c interrupt).map _
  | configureAll interrupt => exact (yields_forEach_configure h hopen interrupt _).map _
  | readStatus | reset | resetAll => exact absurd hcall Bool.false_ne_true

/-- **A run of configurations is the register writes of its orders.** -/
theorem yields_mapM_configure (h : m.map.Addressable) (hopen : s.isOpen = true)
    {calls : List Call} (hcalls : ∀ call ∈ calls, call.isConfiguration = true) :
    (calls.mapM m.perform).Yields s (calls.map fun _ => none)
      (s.storeAll ((calls.flatMap Call.orders).map m.entry)) := by
  induction calls generalizing s with
  | nil => exact yields_mapM_nil _ s
  | cons call calls ih =>
    rw [List.forall_mem_cons] at hcalls
    have hcall := yields_perform_configure h hopen hcalls.1
    have hopen' : (s.storeAll (call.orders.map m.entry)).isOpen = true := by simp [hopen]
    have hrest := ih hopen' hcalls.2
    rw [← Simulator.storeAll_append, ← List.map_append, ← List.flatMap_cons] at hrest
    exact hcall.mapM_cons hrest

/-- What the log, the configuration registers and the other registers are after a run. -/
theorem exists_yields_mapM_configure (h : m.map.Addressable) (hopen : s.isOpen = true)
    {calls : List Call} (hcalls : ∀ call ∈ calls, call.isConfiguration = true) :
    let orders := calls.flatMap Call.orders
    ∃ answers t, (calls.mapM m.perform).Yields s answers t ∧
      t.writeLog = s.writeLog ++ orders.map m.entry ∧
      (∀ c,
        let words := (ordersOf c orders).map (m.configWord c)
        t.writesTo (m.map.configAt c) = s.writesTo (m.map.configAt c) ++ words ∧
        t.peek (m.map.configAt c) = words.getLast?.getD (s.peek (m.map.configAt c))) ∧
      ∀ a, (∀ order ∈ orders, m.map.configAt order.1 ≠ a) → t.peek a = s.peek a := by
  intro orders
  refine ⟨_, _, yields_mapM_configure h hopen hcalls, Simulator.writeLog_storeAll _ _,
    fun c => ⟨?_, ?_⟩, fun a ha => ?_⟩
  · rw [Simulator.writesTo_storeAll, valuesAt_configAt h]
  · rw [Simulator.peek_storeAll, valuesAt_configAt h]
  · rw [Simulator.peek_storeAll, valuesAt_of_ne ha]
    rfl

end Monitor

/-- **Configurations carry the depth and the wish for an interrupt, and the last one stays.**  On an
open device with any version word, a monitor can be made, which writes nothing.  Its words have the
depth of the channel for that version in the low 31 bits, and the last bit tells of the interrupt.
Any run of configurations through it, on a device in any open state, ends without a fault.  The log
has one more entry for each configured channel, in order, at the register of that channel.  Each
configuration register was written with the words of its own channel and with no others, and holds the
last of them, or what it held before if there was none.  Every register that belongs to no configured
channel is as it was. -/
theorem configurations_carry_depth_and_interrupt {map : RegisterMap} {s : Simulator}
    (haddresses : map.Addressable) (hstatus : s.map.HasStatus) (hopen : s.isOpen = true) :
    let version := (Firmware.decode (s.peek map.version)).version
    ∃ m t, (Monitor.forDevice map).Yields s m t ∧ t.isOpen = true ∧ t.writeLog = s.writeLog ∧
      (∀ c interrupt,
        (m.configWord c interrupt).toNat % 2 ^ 31 = ((Depths.ofVersion version).get c).toNat ∧
        hasBit (m.configWord c interrupt) 31 = interrupt) ∧
      ∀ {u : Simulator} {calls : List Monitor.Call}, u.isOpen = true →
        (∀ call ∈ calls, call.isConfiguration = true) →
        let orders := calls.flatMap Monitor.Call.orders
        ∃ answers v, (calls.mapM m.perform).Yields u answers v ∧
          v.writeLog =
            u.writeLog ++ orders.map (fun o => (map.configAt o.1, m.configWord o.1 o.2)) ∧
          (∀ c,
            let words := (Monitor.ordersOf c orders).map (m.configWord c)
            v.writesTo (map.configAt c) = u.writesTo (map.configAt c) ++ words ∧
            v.peek (map.configAt c) = words.getLast?.getD (u.peek (map.configAt c))) ∧
          ∀ a, (∀ order ∈ orders, map.configAt order.1 ≠ a) → v.peek a = u.peek a := by
  intro version
  obtain ⟨t, hread, ht⟩ := Simulator.exists_yields_readRegister hopen hstatus map.version
  have hmake := Monitor.yields_forDevice hread
  refine ⟨_, t, hmake, ht.isOpen_eq.trans hopen, ht.writeLog_eq, fun c interrupt => ?_, ?_⟩
  · exact Monitor.configWord_fields (Depths.get_ofVersion_lt version c) interrupt
  · intro u calls hu hcalls
    exact Monitor.exists_yields_mapM_configure haddresses hu hcalls

/-- The version register is the configuration register of the transmitter, so the first
configuration takes the firmware version away; the words after it have the depths of firmware 13
all the same. -/
theorem configurations_carry_depth_and_interrupt_over_the_version :
    let map : RegisterMap := { version := 0x9014 }
    let s := (Simulator.fresh map).load 0x9014 0x022000D0
    let calls : List Monitor.Call :=
      [.configure .tx true, .configureAll false, .configure .spk true]
    map.Addressable ∧ s.isOpen = true ∧
      ∃ m t, (Monitor.forDevice map).Yields s m t ∧
        ∃ answers v, (calls.mapM m.perform).Yields t answers v ∧
          v.writeLog.map (·.1) = [0x9014, 0x9010, 0x9014, 0x9018, 0x901C, 0x901C] ∧
          (v.peek 0x9014).toNat % 2 ^ 31 = 4096 ∧ hasBit (v.peek 0x9014) 31 = false ∧
          (v.peek 0x901C).toNat % 2 ^ 31 = 1024 ∧ hasBit (v.peek 0x901C) 31 = true ∧
          v.peek 0x9000 = t.peek 0x9000 := by
  intro map s calls
  have haddresses : map.Addressable := by decide
  obtain ⟨m, t, hmake, hopen, hlog, hfields, hruns⟩ :=
    @configurations_carry_depth_and_interrupt map s haddresses haddresses.status rfl
  obtain ⟨answers, v, hrun, hwritten, hregisters, hother⟩ :=
    @hruns t calls hopen (by decide)
  have htx : v.peek 0x9014 = m.configWord .tx false := (hregisters .tx).2
  have hspk : v.peek 0x901C = m.configWord .spk true := (hregisters .spk).2
  refine ⟨haddresses, rfl, m, t, hmake, answers, v, hrun, ?_, ?_, ?_, ?_, ?_, ?_⟩
  · rw [hwritten, hlog]
    rfl
  · rw [htx]
    exact (hfields .tx false).1.trans (by decide)
  · rw [htx]
    exact (hfields .tx false).2
  · rw [hspk]
    exact (hfields .spk true).1.trans (by decide)
  · rw [hspk]
    exact (hfields .spk true).2
  · exact hother 0x9000 (by decide)

end RadioFrontEnd.Fifo
