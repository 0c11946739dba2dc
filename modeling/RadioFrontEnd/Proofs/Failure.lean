import RadioFrontEnd.Proofs.Operation
import RadioFrontEnd.Proofs.Session
import RadioFrontEnd.Proofs.Simulator

/-!
# Failed operations leave no trace

On the simulated device an operation can fail in two ways.  It can end with a fault, because a
register map has no address or mask for what was asked.  And it can be refused, with a failure as
its result.  Either way a host wants to go on as if it had not asked.

For most operations that is so, with any register maps in the device and in the monitors.  The
reason is an order of things that the proofs follow: whatever can fault is computed, or read, before
the first write, and a register read looks at all the status addresses it needs before it clears a
flag.  So a fault finds the device as it was (`Operation.eq_of_faults`).  A transfer is refused
before it moves a byte (`Access.exists_yields_transfer`), so a refusal does too
(`Operation.eq_of_refused`).

Three operations are no single steps, and `Operation.isWhole` leaves them out.  A start that is
refused has read the version register, which may have flags to clear.  A loop over all channels that
faults at some channel is done with those before it, and with nothing else; that is the last part of
the main theorem.

A run carries on after a failure, so the state is followed through `Action.attempt`.  The run lemma
says that the failed steps may be struck from any run: the other answers and the final state stay
the same (`exists_yields_carriedOut`).
-/

namespace RadioFrontEnd

open RadioFrontEnd.Action

/-! ## Failures -/

/-- The response tells the host that the operation was refused. -/
def Response.isRefusal : Response → Bool
  | reply (.received _ (.error _)) | reply (.sent (.error _)) | session (.error _) => true
  | reply .done | reply (.word _) | reply (.received _ (.ok _)) | reply (.sent (.ok _))
  | firmware _ | monitor _ | reading _ | session (.ok _) | done => false

namespace Operation

/-- The operation failed: it ended with a fault, or it was refused. -/
def hasFailed : Except Fault Response → Bool
  | .error _ => true
  | .ok response => response.isRefusal

/-- The operation is one step, which happens as a whole or not at all. -/
def isWhole : Operation → Bool
  | access _ | firmware _ | makeMonitor _ | close => true
  | call _ (.configure _ _) | call _ (.readStatus _) | call _ (.reset _) => true
  | call _ (.configureAll _) | call _ .resetAll | start _ => false

/-- An operation on the simulated device, to its end or to its fault. -/
def attempt (op : Operation) : Action Simulator (Except Fault Response) :=
  (op.perform (.modify Simulator.close)).attempt

/-- The steps of a run that were carried out, each with its answer: all but those that failed as a
whole. -/
def carriedOut (ops : List Operation) (answers : List (Except Fault Response)) :
    List (Operation × Except Fault Response) :=
  (ops.zip answers).filter fun step => !(step.1.isWhole && hasFailed step.2)

end Operation

/-! ## Faults -/

variable {s t : Simulator} {fault : Fault}

namespace Simulator

theorem eq_of_faults_readRegister {address : UInt32}
    (h : (FrontEnd.readRegister address : Action Simulator UInt32).Faults s fault t) : t = s := by
  cases hopen : s.isOpen with
  | false => exact absurd h (yields_readRegister_of_closed hopen address).not_faults
  | true =>
    cases hstatus : s.map.isStatus address with
    | error fault' => exact (h.unique (faults_readRegister hopen hstatus)).2
    | ok isStatus =>
      cases isStatus with
      | true => exact absurd h (yields_readRegister_of_status hopen hstatus).not_faults
      | false => exact absurd h (yields_readRegister_of_plain hopen hstatus).not_faults

/-- A register read is the last thing that can fault, if what comes after it always ends. -/
theorem eq_of_faults_readRegister_bind {α : Type} {address : UInt32}
    {f : UInt32 → Action Simulator α} (hf : ∀ word u, ∃ x v, (f word).Yields u x v)
    (h : (FrontEnd.readRegister address >>= f).Faults s fault t) : t = s := by
  rcases or_of_faults_bind h with hread | ⟨word, u, -, hrest⟩
  · exact eq_of_faults_readRegister hread
  · obtain ⟨x, v, hv⟩ := hf word u
    exact absurd hrest hv.not_faults

/-- A register write never faults. -/
theorem exists_yields_writeRegister (s : Simulator) (address v : UInt32) :
    ∃ t, (FrontEnd.writeRegister address v : Action Simulator Unit).Yields s () t := by
  cases hopen : s.isOpen with
  | true => exact ⟨_, yields_writeRegister hopen address v⟩
  | false => exact ⟨s, yields_writeRegister_of_closed hopen address v⟩

end Simulator

namespace Fifo.Monitor

variable {m : Monitor} {c : Channel}

theorem eq_of_faults_configureChannel {interrupt : Bool}
    (h : (m.configureChannel c interrupt).Faults s fault t) : t = s := by
  rcases or_of_faults_bind h with hreport | ⟨_, u, hreport, hrest⟩
  · exact absurd hreport (yields_report _ _ s).not_faults
  · obtain ⟨-, rfl⟩ := (yields_report _ _ s).unique hreport
    refine eq_of_faults_ofExcept_bind (fun address hwrite => ?_) hrest
    obtain ⟨v, hv⟩ := Simulator.exists_yields_writeRegister s address (m.configWord c interrupt)
    exact absurd hwrite hv.not_faults

theorem eq_of_faults_readStatus (h : (m.readStatus c).Faults s fault t) : t = s := by
  refine eq_of_faults_ofExcept_bind (fun address hread => ?_) h
  refine Simulator.eq_of_faults_readRegister_bind (fun raw u => ?_) hread
  exact ⟨_, u, ((yields_pure _ u).after_report _ _).after_report _ _⟩

/-- The mask is computed and the register is read before anything is written. -/
theorem eq_of_faults_resetChannel (h : (m.resetChannel c).Faults s fault t) : t = s := by
  refine eq_of_faults_ofExcept_bind (fun mask hread => ?_) h
  refine Simulator.eq_of_faults_readRegister_bind (fun value u => ?_) hread
  obtain ⟨v, hlow⟩ := Simulator.exists_yields_writeRegister u m.map.reset (value &&& ~~~mask)
  obtain ⟨w, hhigh⟩ :=
    Simulator.exists_yields_writeRegister v m.map.reset (value &&& ~~~mask ||| mask)
  exact ⟨(), w, hlow.bind (hhigh.bind (yields_report _ _ w))⟩

/-- Making a monitor reads the version register, and then only chooses a depth table. -/
theorem eq_of_faults_forDevice {map : RegisterMap}
    (h : (forDevice map : Action Simulator Monitor).Faults s fault t) : t = s := by
  obtain ⟨word, u, hread⟩ | ⟨fault', u, hread⟩ :=
    yields_or_faults (FrontEnd.readRegister map.version : Action Simulator UInt32) s
  · exact absurd h (yields_forDevice hread).not_faults
  · have hstop : (forDevice map : Action Simulator Monitor).Faults s fault' u :=
      ((hread.bind _).bind _).bind _
    rw [(h.unique hstop).2]
    exact Simulator.eq_of_faults_readRegister hread

end Fifo.Monitor

/-- A transfer never faults, and it is refused before it moves a byte. -/
theorem Access.exists_yields_transfer (s : Simulator) {a : Access} {offset : UInt32} {length : Nat}
    (hspan : a.span? = some (offset, length)) :
    ∃ reply t outcome, a.perform.Yields s reply t ∧ reply.outcome? = some outcome ∧
      (outcome ≠ .ok () → t = s) := by
  refine exists_yields_of_blocks (P := fun _ _ outcome t => outcome ≠ .ok () → t = s)
    (fun data offset => ?_) (fun length offset => ?_) (fun _ _ _ _ _ => rfl) hspan
  · obtain ⟨t, hwrite, hkeep⟩ := s.exists_yields_writeBlock data offset
    exact ⟨_, t, hwrite, hkeep⟩
  · obtain ⟨r, hread, -⟩ := s.exists_yields_readBlock length offset
    exact ⟨r, s, hread, fun _ => rfl⟩

/-- An access that faults finds the device as it was: only register reads fault. -/
theorem Access.eq_of_faults {a : Access}
    (h : (a.perform : Action Simulator Reply).Faults s fault t) : t = s := by
  cases hspan : a.span? with
  | some span =>
    obtain ⟨reply, u, outcome, hrun, -, -⟩ := exists_yields_transfer s hspan
    exact absurd h hrun.not_faults
  | none =>
    cases a with
    | readRegister address => exact Simulator.eq_of_faults_readRegister (faults_of_faults_map h)
    | writeRegister address v =>
      obtain ⟨u, hwrite⟩ := Simulator.exists_yields_writeRegister s address v
      exact absurd (faults_of_faults_map h) hwrite.not_faults
    | readBlock | writeBlock | fill | send => exact absurd hspan (Option.some_ne_none _)

/-- **A fault finds the device as it was.** -/
theorem Operation.eq_of_faults {op : Operation} (hop : op.isWhole = true)
    (h : (op.perform (.modify Simulator.close)).Faults s fault t) : t = s := by
  cases op with
  | access a => exact Access.eq_of_faults (faults_of_faults_map h)
  | firmware map =>
    exact Simulator.eq_of_faults_readRegister_bind (fun word u => ⟨_, u, yields_pure _ u⟩)
      (faults_of_faults_map h)
  | makeMonitor map => exact Fifo.Monitor.eq_of_faults_forDevice (faults_of_faults_map h)
  | call m k =>
    have hcall := faults_of_faults_map h
    cases k with
    | configure c interrupt =>
      exact Fifo.Monitor.eq_of_faults_configureChannel (faults_of_faults_map hcall)
    | readStatus c => exact Fifo.Monitor.eq_of_faults_readStatus (faults_of_faults_map hcall)
    | reset c => exact Fifo.Monitor.eq_of_faults_resetChannel (faults_of_faults_map hcall)
    | configureAll interrupt => exact absurd hop Bool.false_ne_true
    | resetAll => exact absurd hop Bool.false_ne_true
  | start config => exact absurd hop Bool.false_ne_true
  | close => exact absurd (faults_of_faults_map h) (yields_modify rfl).not_faults

/-! ## Refusals -/

/-- An access that is refused finds the device as it was: only transfers are refused. -/
theorem Access.eq_of_refused {a : Access} {r : Reply}
    (h : (a.perform : Action Simulator Reply).Yields s r t)
    (hr : (Response.reply r).isRefusal = true) : t = s := by
  cases hspan : a.span? with
  | some span =>
    obtain ⟨reply, u, outcome, hrun, houtcome, hkeep⟩ := exists_yields_transfer s hspan
    obtain ⟨rfl, rfl⟩ := h.unique hrun
    apply hkeep
    rintro rfl
    cases r with
    | done | word => cases houtcome
    | received | sent =>
      cases houtcome
      cases hr
  | none =>
    cases a with
    | readRegister _ | writeRegister _ _ =>
      obtain ⟨x, -, rfl⟩ := exists_of_yields_map h
      cases hr
    | readBlock | writeBlock | fill | send => exact absurd hspan (Option.some_ne_none _)

/-- **A refusal finds the device as it was.** -/
theorem Operation.eq_of_refused {op : Operation} {response : Response} (hop : op.isWhole = true)
    (h : (op.perform (.modify Simulator.close)).Yields s response t)
    (hr : response.isRefusal = true) : t = s := by
  cases op with
  | access a =>
    obtain ⟨r, ha, rfl⟩ := exists_of_yields_map h
    exact Access.eq_of_refused ha hr
  | start config => exact absurd hop Bool.false_ne_true
  | firmware _ | makeMonitor _ | call _ _ | close =>
    obtain ⟨x, -, rfl⟩ := exists_of_yields_map h
    exact absurd hr Bool.false_ne_true

/-! ## Runs -/

/-- One step that fails leaves the device as it was. -/
theorem Operation.eq_of_hasFailed {op : Operation} {answer : Except Fault Response}
    (hop : op.isWhole = true) (h : op.attempt.Yields s answer t)
    (hfailed : hasFailed answer = true) : t = s := by
  obtain ⟨response, rfl, hrun⟩ | ⟨fault, rfl, hrun⟩ := or_of_yields_attempt h
  · exact eq_of_refused hop hrun hfailed
  · exact eq_of_faults hop hrun

/-- **Failed steps can be struck from a run.**  The steps that were carried out get the same answers
on their own, and leave the device in the same state. -/
theorem Operation.exists_yields_carriedOut (ops : List Operation) (s : Simulator) :
    ∃ answers t, (ops.mapM attempt).Yields s answers t ∧
      (((carriedOut ops answers).map Prod.fst).mapM attempt).Yields s
        ((carriedOut ops answers).map Prod.snd) t := by
  induction ops generalizing s with
  | nil => exact ⟨[], s, yields_mapM_nil attempt s, yields_mapM_nil attempt s⟩
  | cons op ops ih =>
    obtain ⟨answer, u, hop⟩ : ∃ answer u, op.attempt.Yields s answer u :=
      exists_yields_attempt _ s
    obtain ⟨answers, t, hops, hrest⟩ := ih u
    refine ⟨answer :: answers, t, hop.mapM_cons hops, ?_⟩
    rw [carriedOut, List.zip_cons_cons, List.filter_cons]
    by_cases hstruck : (op.isWhole && hasFailed answer) = true
    · obtain ⟨hwhole, hfailed⟩ := Bool.and_eq_true_iff.mp hstruck
      have hsame : u = s := eq_of_hasFailed hwhole hop hfailed
      rw [hstruck, Bool.not_true, if_neg Bool.false_ne_true, ← hsame]
      exact hrest
    · rw [Bool.not_eq_true] at hstruck
      rw [hstruck, Bool.not_false, if_pos rfl]
      exact hop.mapM_cons hrest

/-- A loop over all channels that ends with a fault was done with some first channels, and did
nothing else. -/
theorem Fifo.Monitor.exists_of_faults_forEach_all {f : Channel → Action Simulator Unit}
    (hf : ∀ c u, (f c).Faults u fault t → t = u) (h : (forEach f Channel.all).Faults s fault t) :
    ∃ before c after units, Channel.all = before ++ c :: after ∧
      (before.mapM f).Yields s units t ∧ (f c).Faults t fault t := by
  obtain ⟨before, c, after, units, u, hall, hbefore, hc⟩ := exists_of_faults_forEach h
  obtain rfl : t = u := hf c u hc
  exact ⟨before, c, after, units, hall, hbefore, hc⟩

/-- **Failed operations leave no trace.**  On a simulated device in any state, and with monitors of
any kind, a whole operation that ends with a fault or is refused leaves the device exactly as it
was.  Every run goes on after its failures, and the failed steps may be struck from it.  A loop over
all channels that faults leaves what its steps for the channels before the fault leave. -/
theorem failed_operations_leave_no_trace (s : Simulator) :
    (∀ (op : Operation) (answer : Except Fault Response) (t : Simulator), op.isWhole = true →
      op.attempt.Yields s answer t → Operation.hasFailed answer = true → t = s) ∧
    (∀ ops : List Operation, ∃ answers t,
      (ops.mapM Operation.attempt).Yields s answers t ∧
      (((Operation.carriedOut ops answers).map Prod.fst).mapM Operation.attempt).Yields s
        ((Operation.carriedOut ops answers).map Prod.snd) t) ∧
    (∀ (m : Fifo.Monitor) (interrupt : Bool) (fault : Fault) (t : Simulator),
      (m.configureAll interrupt).Faults s fault t →
      ∃ before c after units, Channel.all = before ++ c :: after ∧
        (before.mapM (m.configureChannel · interrupt)).Yields s units t ∧
        (m.configureChannel c interrupt).Faults t fault t) ∧
    ∀ (m : Fifo.Monitor) (fault : Fault) (t : Simulator), m.resetAll.Faults s fault t →
      ∃ before c after units, Channel.all = before ++ c :: after ∧
        (before.mapM m.resetChannel).Yields s units t ∧
        (m.resetChannel c).Faults t fault t := by
  refine ⟨?_, ?_, ?_, ?_⟩
  · intro op answer t hop hrun hfailed
    exact Operation.eq_of_hasFailed hop hrun hfailed
  · intro ops
    exact Operation.exists_yields_carriedOut ops s
  · intro m interrupt fault t hrun
    exact Fifo.Monitor.exists_of_faults_forEach_all
      (fun _ _ hc => Fifo.Monitor.eq_of_faults_configureChannel hc) hrun
  · intro m fault t hrun
    exact Fifo.Monitor.exists_of_faults_forEach_all
      (fun _ _ hc => Fifo.Monitor.eq_of_faults_resetChannel hc) hrun

/-- The third of the four resets has no bit, so two channels are reset. -/
theorem failed_operations_leave_no_trace_at_third_channel :
    let m : Fifo.Monitor := ⟨{ micResetBit := 32 }, .legacy⟩
    let s := Simulator.fresh m.map
    ∃ t, m.resetAll.Faults s .shiftOverflow t ∧ t.writesTo 0xA028 = [0, 8, 8, 12] ∧
      ∃ before c after units, Channel.all = before ++ c :: after ∧
        (before.mapM m.resetChannel).Yields s units t ∧
        (m.resetChannel c).Faults t .shiftOverflow t := by
  intro m s
  let pulse (u : Simulator) (mask : UInt32) : Simulator :=
    (u.store 0xA028 (u.peek 0xA028 &&& ~~~mask)).store 0xA028
      (u.peek 0xA028 &&& ~~~mask ||| mask)
  have hrx : (m.resetChannel .rx).Yields s () (pulse s 8) :=
    Fifo.Monitor.yields_resetChannel (show m.map.resetMask .rx = .ok 8 from rfl)
      (Simulator.yields_readRegister_of_plain rfl (by decide))
      (Simulator.yields_writeRegister rfl _ _) (Simulator.yields_writeRegister rfl _ _)
  have htx : (m.resetChannel .tx).Yields (pulse s 8) () (pulse (pulse s 8) 4) :=
    Fifo.Monitor.yields_resetChannel (show m.map.resetMask .tx = .ok 4 from rfl)
      (Simulator.yields_readRegister_of_plain rfl (by decide))
      (Simulator.yields_writeRegister rfl _ _) (Simulator.yields_writeRegister rfl _ _)
  have hmic : (m.resetChannel .mic).Faults (pulse (pulse s 8) 4) .shiftOverflow
      (pulse (pulse s 8) 4) :=
    Faults.bind (faults_ofExcept (show m.map.resetMask .mic = .error .shiftOverflow from rfl) _) _
  have hrun : m.resetAll.Faults s .shiftOverflow (pulse (pulse s 8) 4) :=
    hrx.bind_faults (htx.bind_faults (hmic.bind _))
  exact ⟨_, hrun, by decide +kernel, (failed_operations_leave_no_trace s).2.2.2 m _ _ hrun⟩

end RadioFrontEnd
