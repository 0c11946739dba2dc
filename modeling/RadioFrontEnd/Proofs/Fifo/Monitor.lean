import RadioFrontEnd.Fifo.Monitor
import RadioFrontEnd.Proofs.Access
import RadioFrontEnd.Proofs.RegisterMap

/-!
# What a monitor asks of a device

The monitor works on any device.  Each lemma here takes what the device does at the few register
accesses of an operation and says what the operation yields.  What a device does at an access is its
own business, so these lemmas serve the simulated front end and the attached one alike.
-/

namespace RadioFrontEnd

open RadioFrontEnd.Action

variable {σ : Type} [FrontEnd σ]

namespace Fifo.Monitor

variable {m : Monitor} {s t u w : σ}

theorem yields_configureChannel {c : Channel} {interrupt : Bool} {address : UInt32}
    (haddress : m.map.config c = .ok address)
    (hwrite : (FrontEnd.writeRegister address (m.configWord c interrupt)).Yields s () t) :
    (m.configureChannel c interrupt).Yields s () t :=
  (yields_report _ _ s).bind ((yields_ofExcept haddress s).bind hwrite)

theorem yields_readStatus {c : Channel} {address raw : UInt32}
    (haddress : m.map.status c = .ok address)
    (hread : (FrontEnd.readRegister address).Yields s raw t) :
    (m.readStatus c).Yields s (Status.decode raw c (m.depths.get c)) t := by
  refine (yields_ofExcept haddress s).bind (hread.bind ?_)
  exact ((yields_pure _ t).after_report _ _).after_report _ _

theorem yields_resetChannel {c : Channel} {mask value : UInt32}
    (hmask : m.map.resetMask c = .ok mask)
    (hread : (FrontEnd.readRegister m.map.reset).Yields s value t)
    (hlow : (FrontEnd.writeRegister m.map.reset (value &&& ~~~mask)).Yields t () u)
    (hhigh : (FrontEnd.writeRegister m.map.reset (value &&& ~~~mask ||| mask)).Yields u () w) :
    (m.resetChannel c).Yields s () w :=
  (yields_ofExcept hmask s).bind
    (hread.bind (hlow.bind (hhigh.bind (yields_report _ _ w))))

omit [FrontEnd σ] in
theorem yields_forEach_nil (f : Channel → Action σ Unit) (s : σ) : (forEach f []).Yields s () s :=
  yields_pure () s

omit [FrontEnd σ] in
theorem yields_forEach_cons {f : Channel → Action σ Unit} {c : Channel} {cs : List Channel}
    (hc : (f c).Yields s () t) (hcs : (forEach f cs).Yields t () u) :
    (forEach f (c :: cs)).Yields s () u :=
  hc.bind hcs

/-! ## What a loop over channels did -/

omit [FrontEnd σ] in
/-- If a loop ended without a fault, so did its body for every channel. -/
theorem exists_of_yields_forEach {f : Channel → Action σ Unit} {cs : List Channel}
    (h : (forEach f cs).Yields s () t) : ∀ c ∈ cs, ∃ u v, (f c).Yields u () v := by
  induction cs generalizing s with
  | nil =>
    intro c hc
    exact absurd hc List.not_mem_nil
  | cons d ds ih =>
    intro c hc
    obtain ⟨_, u, hd, hds⟩ := exists_of_yields_bind h
    rcases List.mem_cons.mp hc with rfl | hc
    · exact ⟨s, u, hd⟩
    · exact ih hds c hc

omit [FrontEnd σ] in
/-- If a loop ended with a fault, then its body ran for some first channels and faulted at the
next. -/
theorem exists_of_faults_forEach {f : Channel → Action σ Unit} {cs : List Channel} {fault : Fault}
    (h : (forEach f cs).Faults s fault t) :
    ∃ before c after units u, cs = before ++ c :: after ∧
      (before.mapM f).Yields s units u ∧ (f c).Faults u fault t := by
  induction cs generalizing s with
  | nil => exact absurd h (yields_forEach_nil f s).not_faults
  | cons d ds ih =>
    rcases or_of_faults_bind h with hd | ⟨_, u, hd, hds⟩
    · exact ⟨[], d, ds, [], s, rfl, yields_mapM_nil f s, hd⟩
    · obtain ⟨before, c, after, units, v, rfl, hbefore, hc⟩ := ih hds
      exact ⟨d :: before, c, after, () :: units, v, rfl, hd.mapM_cons hbefore, hc⟩

theorem config_eq_ok_of_yields {c : Channel} {interrupt : Bool}
    (h : (m.configureChannel c interrupt).Yields s () t) :
    ∃ address, m.map.config c = .ok address := by
  obtain ⟨_, u, -, hrest⟩ := exists_of_yields_bind h
  obtain ⟨address, _, haddress, -⟩ := exists_of_yields_bind hrest
  exact ⟨address, eq_of_yields_ofExcept haddress⟩

/-! ## Calls

A run of a monitor is a list of calls, each with what it gives back. -/

/-- Something that a host asks of a monitor. -/
inductive Call where
  /-- Configure one channel. -/
  | configure (c : Channel) (interrupt : Bool)
  /-- Configure every channel. -/
  | configureAll (interrupt : Bool)
  /-- Read the status of a channel. -/
  | readStatus (c : Channel)
  /-- Reset one channel. -/
  | reset (c : Channel)
  /-- Reset every channel. -/
  | resetAll
  deriving DecidableEq

/-- Do what a call asks for; only a reading gives something back. -/
def perform (m : Monitor) : Call → Action σ (Option Status)
  | .configure c interrupt => (fun _ => none) <$> m.configureChannel c interrupt
  | .configureAll interrupt => (fun _ => none) <$> m.configureAll interrupt
  | .readStatus c => some <$> m.readStatus c
  | .reset c => (fun _ => none) <$> m.resetChannel c
  | .resetAll => (fun _ => none) <$> m.resetAll

/-- The channels that a call resets, in order. -/
def Call.resets : Call → List Channel
  | reset c => [c]
  | resetAll => Channel.all
  | configure _ _ | configureAll _ | readStatus _ => []

/-- Does the call reset channels and do nothing else? -/
def Call.isReset : Call → Bool
  | reset _ | resetAll => true
  | configure _ _ | configureAll _ | readStatus _ => false

end Fifo.Monitor

/-! ## Devices on which every call ends

A call needs addresses and masks that exist, and a device that answers. -/

namespace Fifo.Monitor

variable {m : Monitor} {P : σ → Prop} {s : σ}

omit [FrontEnd σ] in
/-- What the body of a loop keeps for every channel, the loop keeps. -/
theorem exists_yields_forEach {f : Channel → Action σ Unit}
    (hf : ∀ c s, P s → ∃ t, (f c).Yields s () t ∧ P t) (cs : List Channel) (hs : P s) :
    ∃ t, (forEach f cs).Yields s () t ∧ P t := by
  induction cs generalizing s with
  | nil => exact ⟨s, yields_forEach_nil f s, hs⟩
  | cons c cs ih =>
    obtain ⟨t, hc, ht⟩ := hf c s hs
    obtain ⟨u, hcs, hu⟩ := ih ht
    exact ⟨u, yields_forEach_cons hc hcs, hu⟩

theorem exists_yields_configureChannel (hdevice : FrontEnd.Responsive P)
    (haddresses : m.map.Addressable) (interrupt : Bool) (c : Channel) (s : σ) (hs : P s) :
    ∃ t, (m.configureChannel c interrupt).Yields s () t ∧ P t := by
  obtain ⟨t, hwrite, ht⟩ := hdevice.write s (m.map.configAt c) (m.configWord c interrupt) hs
  exact ⟨t, yields_configureChannel (haddresses.config c) hwrite, ht⟩

theorem exists_yields_resetChannel (hdevice : FrontEnd.Responsive P) (hmasks : m.map.HasMasks)
    (c : Channel) (s : σ) (hs : P s) :
    ∃ t, (m.resetChannel c).Yields s () t ∧ P t := by
  obtain ⟨value, t, hread, ht⟩ := hdevice.read s m.map.reset hs
  obtain ⟨u, hlow, hu⟩ := hdevice.write t m.map.reset (value &&& ~~~m.map.maskOf c) ht
  obtain ⟨w, hhigh, hw⟩ :=
    hdevice.write u m.map.reset (value &&& ~~~m.map.maskOf c ||| m.map.maskOf c) hu
  exact ⟨w, yields_resetChannel (hmasks.resetMask_eq c) hread hlow hhigh, hw⟩

/-- **Every call ends without a fault**, if its addresses and masks exist. -/
theorem exists_yields_perform (hdevice : FrontEnd.Responsive P) (haddresses : m.map.Addressable)
    (hmasks : m.map.HasMasks) (hs : P s) (call : Call) :
    ∃ answer t, (m.perform call).Yields s answer t ∧ P t := by
  cases call with
  | configure c interrupt =>
    obtain ⟨t, hrun, ht⟩ := exists_yields_configureChannel hdevice haddresses interrupt c s hs
    exact ⟨none, t, hrun.map _, ht⟩
  | configureAll interrupt =>
    obtain ⟨t, hrun, ht⟩ := exists_yields_forEach
      (exists_yields_configureChannel hdevice haddresses interrupt) Channel.all hs
    exact ⟨none, t, hrun.map _, ht⟩
  | readStatus c =>
    obtain ⟨raw, t, hread, ht⟩ := hdevice.read s (m.map.statusAt c) hs
    exact ⟨_, t, (yields_readStatus (haddresses.status c) hread).map some, ht⟩
  | reset c =>
    obtain ⟨t, hrun, ht⟩ := exists_yields_resetChannel hdevice hmasks c s hs
    exact ⟨none, t, hrun.map _, ht⟩
  | resetAll =>
    obtain ⟨t, hrun, ht⟩ := exists_yields_forEach
      (exists_yields_resetChannel hdevice hmasks) Channel.all hs
    exact ⟨none, t, hrun.map _, ht⟩

end Fifo.Monitor
end RadioFrontEnd
