import RadioFrontEnd.Proofs.Operation

/-!
# Devices as parts of a larger state

A device may be a part of a larger state, as the front end of a host is.  What drives a device is
written for any device, so it drives the whole as well as the part, as soon as the whole answers for
the part.  This file says that the two runs are the same then: the same result, be it a fault, the
same events, the same device after it, and around it what was there before.

`Action.Lifts put f g` says so of two actions, where `put` puts the rest of the state around a device.
It is an equation of outcomes, so nothing has to be known about how an action ends.  It is closed
under putting actions together, and `FrontEnd.Lifts` asks for it at the five operations of a device.
The layers above are gone through once, up to `Operation.lifts_perform`.
-/

namespace RadioFrontEnd

variable {σ τ α β ι : Type}

/-- The outcome of an action on a part of a state, seen from the whole. -/
def Outcome.within (o : Outcome σ α) (put : σ → τ) : Outcome τ α :=
  ⟨o.result, put o.state, o.events⟩

namespace Action

/-- On a state with something put around it, the one action does what the other does on the state
itself, and leaves alone what is around. -/
def Lifts (put : σ → τ) (f : Action τ α) (g : Action σ α) : Prop :=
  ∀ s, f.run (put s) = (g.run s).within put

variable {put : σ → τ}

theorem lifts_pure (x : α) : Lifts put (pure x) (pure x) := fun _ => rfl

theorem lifts_report (level : LogLevel) (message : String) :
    Lifts put (report level message) (report level message) := fun _ => rfl

theorem lifts_ofExcept (x : Except Fault α) : Lifts put (ofExcept x) (ofExcept x) := fun _ => rfl

section Sequences

variable {f : Action τ α} {g : Action σ α} {k : α → Action τ β} {l : α → Action σ β} {a : τ} {b : σ}

/-- If the first part ends, the second may change what is around. -/
theorem run_bind_within_of_yields {put' : σ → τ} {x : α} {t : σ}
    (hfg : f.run a = (g.run b).within put) (hg : g.Yields b x t)
    (hkl : (k x).run (put t) = ((l x).run t).within put') :
    (f >>= k).run a = ((g >>= l).run b).within put' := by
  obtain ⟨events, he⟩ := hg
  rw [he] at hfg
  rw [run_bind, run_bind, hfg, he]
  dsimp only [Outcome.within] at hkl ⊢
  rw [hkl]

theorem run_bind_within (hfg : f.run a = (g.run b).within put)
    (hkl : ∀ x t, (k x).run (put t) = ((l x).run t).within put) :
    (f >>= k).run a = ((g >>= l).run b).within put := by
  obtain ⟨x, t, hg⟩ | ⟨fault, t, events, he⟩ := yields_or_faults g b
  · exact run_bind_within_of_yields hfg hg (hkl x t)
  · rw [he] at hfg
    rw [run_bind, run_bind, hfg, he]
    rfl

theorem Lifts.bind (hfg : Lifts put f g) (hkl : ∀ x, Lifts put (k x) (l x)) :
    Lifts put (f >>= k) (g >>= l) :=
  fun s => run_bind_within (hfg s) hkl

end Sequences

theorem Lifts.map {f : Action τ α} {g : Action σ α} (hfg : Lifts put f g) (k : α → β) :
    Lifts put (k <$> f) (k <$> g) := by
  rw [map_eq_pure_bind, map_eq_pure_bind]
  exact hfg.bind fun x => lifts_pure (k x)

/-- A report before an action is made in both, or in neither. -/
theorem Lifts.after_report {p : Prop} [Decidable p] {f : Action τ α} {g : Action σ α}
    (hfg : Lifts put f g) (level : LogLevel) (message : String) :
    Lifts put (if p then report level message >>= fun _ => f else f)
      (if p then report level message >>= fun _ => g else g) := by
  split
  · exact (lifts_report level message).bind fun _ => hfg
  · exact hfg

theorem Lifts.attempt {f : Action τ α} {g : Action σ α} (hfg : Lifts put f g) :
    Lifts put f.attempt g.attempt := by
  intro s
  show Outcome.mk (.ok (f.run (put s)).result) (f.run (put s)).state (f.run (put s)).events = _
  rw [hfg s]
  rfl

end Action

open RadioFrontEnd.Action

/-! ## What drives a device -/

theorem Fifo.Depths.lifts_resolve (put : σ → τ) (fw : Firmware) :
    Lifts put (resolve fw) (resolve fw) := by
  have hrest := (@lifts_report σ τ put .debug "FIFO depth table resolved").bind fun _ =>
    lifts_pure (Depths.ofVersion fw.version)
  unfold resolve
  split_ifs
  · exact (lifts_report _ _).bind fun _ => hrest
  · exact (lifts_report _ _).bind fun _ => hrest
  · exact hrest

variable [FrontEnd σ] [FrontEnd τ]

/-- With something put around a device, the whole is a device that answers what the device answers. -/
structure FrontEnd.Lifts (put : σ → τ) : Prop where
  /-- It reads its registers. -/
  readRegister : ∀ address,
    Action.Lifts put (FrontEnd.readRegister address) (FrontEnd.readRegister address)
  /-- It writes them. -/
  writeRegister : ∀ address v,
    Action.Lifts put (FrontEnd.writeRegister address v) (FrontEnd.writeRegister address v)
  /-- It takes blocks. -/
  writeBlock : ∀ data offset,
    Action.Lifts put (FrontEnd.writeBlock data offset) (FrontEnd.writeBlock data offset)
  /-- It gives blocks. -/
  readBlock : ∀ length offset,
    Action.Lifts put (FrontEnd.readBlock length offset) (FrontEnd.readBlock length offset)
  /-- It is open if the device is. -/
  isOpen_eq : ∀ s, FrontEnd.isOpen (put s) = FrontEnd.isOpen s

namespace FrontEnd.Lifts

variable {put : σ → τ} (h : FrontEnd.Lifts put)

include h

theorem access (a : Access) : Action.Lifts put a.perform a.perform := by
  cases a with
  | readRegister address => exact (h.readRegister address).map _
  | writeRegister address v => exact (h.writeRegister address v).map _
  | readBlock buffer offset => exact (h.readBlock buffer.length offset).map _
  | writeBlock data offset => exact (h.writeBlock data offset).map _
  | fill buffer offset =>
    rw [Access.perform_fill, Access.perform_fill]
    exact (h.readBlock buffer.bytes.toList.length offset).map _
  | send buffer length offset =>
    rcases Nat.lt_or_ge buffer.size length with hlong | hfits
    · rw [Access.perform_send_of_lt hlong, Access.perform_send_of_lt hlong]
      exact lifts_pure _
    · rw [Access.perform_send_of_le hfits, Access.perform_send_of_le hfits]
      exact (h.writeBlock (buffer.bytes.read 0 length) offset).map _

theorem readFirmware (map : RegisterMap) :
    Action.Lifts put (Firmware.read map) (Firmware.read map) :=
  (h.readRegister map.version).bind fun _ => lifts_pure _

theorem forDevice (map : RegisterMap) :
    Action.Lifts put (Fifo.Monitor.forDevice map) (Fifo.Monitor.forDevice map) :=
  ((h.readFirmware map).bind fun fw => Fifo.Depths.lifts_resolve put fw).bind fun _ => lifts_pure _

theorem configureChannel (m : Fifo.Monitor) (c : Channel) (interrupt : Bool) :
    Action.Lifts put (m.configureChannel c interrupt) (m.configureChannel c interrupt) :=
  (lifts_report _ _).bind fun _ => (lifts_ofExcept _).bind fun address =>
    h.writeRegister address (m.configWord c interrupt)

theorem readStatus (m : Fifo.Monitor) (c : Channel) :
    Action.Lifts put (m.readStatus c) (m.readStatus c) :=
  (lifts_ofExcept _).bind fun address => (h.readRegister address).bind fun _ =>
    ((lifts_pure _).after_report _ _).after_report _ _

theorem resetChannel (m : Fifo.Monitor) (c : Channel) :
    Action.Lifts put (m.resetChannel c) (m.resetChannel c) :=
  (lifts_ofExcept _).bind fun _ => (h.readRegister m.map.reset).bind fun _ =>
    (h.writeRegister m.map.reset _).bind fun _ => (h.writeRegister m.map.reset _).bind fun _ =>
      lifts_report _ _

omit h [FrontEnd σ] [FrontEnd τ] in
theorem forEach {f : Channel → Action τ Unit} {g : Channel → Action σ Unit}
    (hfg : ∀ c, Action.Lifts put (f c) (g c)) (cs : List Channel) :
    Action.Lifts put (Fifo.Monitor.forEach f cs) (Fifo.Monitor.forEach g cs) := by
  induction cs with
  | nil => exact lifts_pure ()
  | cons c cs ih => exact (hfg c).bind fun _ => ih

theorem call (m : Fifo.Monitor) (k : Fifo.Monitor.Call) :
    Action.Lifts put (m.perform k) (m.perform k) := by
  cases k with
  | configure c interrupt => exact (h.configureChannel m c interrupt).map _
  | configureAll interrupt =>
    exact (forEach (fun c => h.configureChannel m c interrupt) Channel.all).map _
  | readStatus c => exact (h.readStatus m c).map _
  | reset c => exact (h.resetChannel m c).map _
  | resetAll => exact (forEach (fun c => h.resetChannel m c) Channel.all).map _

theorem start (config : Config) :
    Action.Lifts put (Session.start config) (Session.start config) := by
  have hsession (fw : Firmware) : Action.Lifts put
      (do return .ok (← Session.ofFirmware config fw) : Action τ (Except FrontEndError Session))
      (do return .ok (← Session.ofFirmware config fw)) :=
    ((Fifo.Depths.lifts_resolve put fw).bind fun _ => lifts_pure _).bind fun _ => lifts_pure _
  refine (h.readFirmware config.registers).bind fun fw => (lifts_report _ _).bind fun _ => ?_
  cases config.firmware.check fw with
  | ok => exact hsession fw
  | error e =>
    dsimp only
    split
    · exact (lifts_report _ _).bind fun _ => lifts_pure _
    · exact (lifts_report _ _).bind fun _ => hsession fw

/-- **Whatever a host does with the whole, it does with the device**, if closing the whole is closing
the device. -/
theorem perform {shutWhole : Action τ Unit} {shut : Action σ Unit}
    (hshut : Action.Lifts put shutWhole shut) (op : Operation) :
    Action.Lifts put (op.perform shutWhole) (op.perform shut) := by
  cases op with
  | access a => exact (h.access a).map _
  | firmware map => exact (h.readFirmware map).map _
  | makeMonitor map => exact (h.forDevice map).map _
  | call m k => exact (h.call m k).map _
  | start config => exact (h.start config).map _
  | close => exact hshut.map _

end FrontEnd.Lifts
end RadioFrontEnd
