import RadioFrontEnd.Proofs.Window
import RadioFrontEnd.Proofs.Word

/-!
# The log and the registers tell one story

The simulated device keeps its register writes twice: in a log, and in the registers.  The log has
the writes of the host only, and the registers have the loads of the hardware as well; reads change
registers and leave no trace in the log; and a close stops the host, but not the hardware.  This file
follows both through any run, and says that both are what the run makes of them.

## What the run makes of them

A run is a list of uses of the device with closes in between.  Two lists are read off it:

* `untilClosed`: the uses before the first close;
* `effective`: these, and the loads that come later.

The writes in the first list are the log, address by address.  In the second list, the last use that
puts a value into a register gives its content (`lastPut`), and what else matters is whether the
register was read after that (`readSince`), if it is a status register.  A read after a close is in
neither list.

## One use

`Use.Alters` says what a use does to the log and to the content of every register, without any
history.  The uses of each kind are gone through once for this (`Use.exists_yields_perform`).  That the
two lists go along with it is a matter of lists only (`untilClosed_concat_use`,
`effective_concat_use`, `told_concat`).
-/

namespace RadioFrontEnd

open RadioFrontEnd.Action

namespace Simulator

/-! ## Uses, one by one -/

namespace Use

/-- Does the hardware load a register? -/
def isLoad : Use → Bool
  | load _ _ | setStatus _ _ => true
  | access _ => false

/-- The value that the host writes to a register, if it does. -/
def written? (a : UInt32) : Use → Option UInt32
  | access (.writeRegister address v) => if address = a then some v else none
  | access (.readRegister _) | access (.readBlock _ _) | access (.writeBlock _ _)
  | access (.fill _ _) | access (.send _ _ _) | load _ _ | setStatus _ _ => none

/-- The value that the hardware loads into a register, if it does. -/
def loaded? (map : RegisterMap) (a : UInt32) : Use → Option UInt32
  | load address v => if address = a then some v else none
  | setStatus c raw => if map.statusAt c = a then some raw else none
  | access _ => none

/-- The value that a use puts into a register, be it written or loaded. -/
def put? (map : RegisterMap) (a : UInt32) (use : Use) : Option UInt32 :=
  (use.written? a).or (use.loaded? map a)

/-- Does the host read the register? -/
def reads (a : UInt32) : Use → Bool
  | access (.readRegister address) => address = a
  | access (.writeRegister _ _) | access (.readBlock _ _) | access (.writeBlock _ _)
  | access (.fill _ _) | access (.send _ _ _) | load _ _ | setStatus _ _ => false

/-- What an effective use makes of the content of a register. -/
def turn (map : RegisterMap) (a : UInt32) (use : Use) (content : UInt32) : UInt32 :=
  match use.put? map a with
  | some v => v
  | none =>
    if (∃ c, map.statusAt c = a) ∧ use.reads a = true then content &&& ~~~Fifo.Status.flagBits
    else content

end Use

/-! ## Runs -/

/-- Something that happens to a device, at the hands of the host or of the hardware. -/
inductive Step where
  /-- The device is used. -/
  | use (u : Use)
  /-- The host closes the device. -/
  | close

namespace Step

/-- Let it happen. -/
def perform : Step → Action Simulator Reply
  | use u => u.perform
  | close => (fun _ => .done) <$> .modify Simulator.close

/-- The device is closed by it. -/
def isClose : Step → Bool
  | close => true
  | use _ => false

/-- The loads among some steps. -/
def loads : List Step → List Use
  | [] => []
  | use u :: run => if u.isLoad then u :: loads run else loads run
  | close :: run => loads run

/-- The uses before the first close. -/
def untilClosed : List Step → List Use
  | [] => []
  | use u :: run => u :: untilClosed run
  | close :: _ => []

/-- The uses that have an effect: all of them before the first close, and then the loads. -/
def effective : List Step → List Use
  | [] => []
  | use u :: run => u :: effective run
  | close :: run => loads run

theorem any_isClose_cons_use (u : Use) (run : List Step) :
    (use u :: run).any isClose = run.any isClose := rfl

theorem loads_concat (past : List Step) (step : Step) :
    loads (past ++ [step]) = loads past ++ loads [step] := by
  induction past with
  | nil => rfl
  | cons first rest ih =>
    cases first with
    | use u =>
      rw [List.cons_append, loads, loads, ih]
      split <;> rfl
    | close => exact ih

/-- One more use comes before the first close if there was none so far. -/
theorem untilClosed_concat_use (past : List Step) (u : Use) :
    untilClosed (past ++ [use u]) =
      if past.any isClose = true then untilClosed past else untilClosed past ++ [u] := by
  induction past with
  | nil => rfl
  | cons first rest ih =>
    cases first with
    | use v =>
      rw [List.cons_append, untilClosed, untilClosed, ih, any_isClose_cons_use]
      split <;> rfl
    | close => rfl

theorem untilClosed_concat_close (past : List Step) :
    untilClosed (past ++ [close]) = untilClosed past := by
  induction past with
  | nil => rfl
  | cons first rest ih =>
    cases first with
    | use v => exact congrArg (v :: ·) ih
    | close => rfl

/-- One more use has an effect if it is a load, or if there was no close so far. -/
theorem effective_concat_use (past : List Step) (u : Use) :
    effective (past ++ [use u]) =
      if past.any isClose = true ∧ u.isLoad = false then effective past
      else effective past ++ [u] := by
  induction past with
  | nil => rfl
  | cons first rest ih =>
    cases first with
    | use v =>
      rw [List.cons_append, effective, effective, ih, any_isClose_cons_use]
      split <;> rfl
    | close =>
      have hany : (close :: rest).any isClose = true := rfl
      rw [List.cons_append, effective, effective, loads_concat, hany]
      cases hload : u.isLoad <;> simp [loads, hload]

theorem effective_concat_close (past : List Step) :
    effective (past ++ [close]) = effective past := by
  induction past with
  | nil => rfl
  | cons first rest ih =>
    cases first with
    | use v => exact congrArg (v :: ·) ih
    | close =>
      rw [List.cons_append, effective, effective, loads_concat]
      exact List.append_nil _

end Step

/-! ## What some uses tell of a register -/

section Told

variable (map : RegisterMap) (a : UInt32) (uses : List Use) (u : Use)

/-- The value that was put into a register last; zero if none was. -/
def lastPut : UInt32 := (uses.reverse.findSome? (Use.put? map a)).getD 0

/-- The register was read after a value was put into it last. -/
def readSince : Bool :=
  (uses.reverse.takeWhile fun u => (u.put? map a).isNone).any (Use.reads a)

/-- The content of a register: the last value that was put into it, without its flags if it is a
status register that was read since. -/
def told : UInt32 :=
  if (∃ c, map.statusAt c = a) ∧ readSince map a uses = true then
    lastPut map a uses &&& ~~~Fifo.Status.flagBits
  else lastPut map a uses

theorem lastPut_concat :
    lastPut map a (uses ++ [u]) = (u.put? map a).getD (lastPut map a uses) :=
  getD_findSome?_concat (Use.put? map a) 0 uses u

theorem readSince_concat :
    readSince map a (uses ++ [u]) =
      ((u.put? map a).isNone && (u.reads a || readSince map a uses)) := by
  rw [readSince, List.reverse_concat, List.takeWhile_cons]
  cases u.put? map a <;> rfl

/-- What one more effective use makes of the content. -/
theorem told_concat : told map a (uses ++ [u]) = u.turn map a (told map a uses) := by
  rw [told, lastPut_concat, readSince_concat, Use.turn]
  cases u.put? map a with
  | some v => simp
  | none =>
    by_cases hstatus : ∃ c, map.statusAt c = a
    · cases hreads : u.reads a with
      | false => simp [told, hstatus]
      | true =>
        -- flags that are gone cannot be taken away again
        cases hsince : readSince map a uses with
        | false => simp [told, hstatus, hsince]
        | true => simp [told, hstatus, hsince, Word.clear_clear]
    · simp [told, hstatus]

end Told

/-! ## One use -/

variable {s t : Simulator}

/-- A transfer leaves all but the window alone. -/
theorem exists_yields_transfer (s : Simulator) {a : Access} {offset : UInt32} {length : Nat}
    (hspan : a.span? = some (offset, length)) :
    ∃ reply w, a.perform.Yields s reply { s with window := w } := by
  have hwrite (data : ByteArray) (offset : UInt32) : ∃ outcome t,
      (FrontEnd.writeBlock data offset : Action Simulator (Except FrontEndError Unit)).Yields s
        outcome t ∧ ∃ w, t = { s with window := w } := by
    cases hcheck : s.checkSpan .toCard data.size offset with
    | ok => exact ⟨_, _, yields_writeBlock_of_ok hcheck, _, rfl⟩
    | error e => exact ⟨_, s, yields_writeBlock_of_error hcheck, s.window, rfl⟩
  have hread (length : Nat) (offset : UInt32) : ∃ r t,
      (FrontEnd.readBlock length offset : Action Simulator BlockRead).Yields s r t ∧
        ∃ w, t = { s with window := w } := by
    obtain ⟨r, hrun, -⟩ := s.exists_yields_readBlock length offset
    exact ⟨r, s, hrun, s.window, rfl⟩
  obtain ⟨reply, t, outcome, hrun, -, w, rfl⟩ := Access.exists_yields_of_blocks
    (P := fun _ _ _ t => ∃ w, t = { s with window := w }) hwrite hread
    (fun _ _ _ _ => ⟨s.window, rfl⟩) hspan
  exact ⟨reply, w, hrun⟩

/-- What a use does to the log and to the content of the registers. -/
structure Use.Alters (u : Use) (s t : Simulator) : Prop where
  /-- The register map stays. -/
  map_eq : t.map = s.map
  /-- The device stays open or closed. -/
  isOpen_eq : t.isOpen = s.isOpen
  /-- What the host writes to an open device comes to the end of the log. -/
  writesTo_eq : ∀ a, t.writesTo a =
    if s.isOpen = true then s.writesTo a ++ (u.written? a).toList else s.writesTo a
  /-- On a closed device, only loads have an effect on the registers. -/
  peek_eq : ∀ a, t.peek a =
    if s.isOpen = true ∨ u.isLoad = true then u.turn s.map a (s.peek a) else s.peek a

namespace Use

theorem alters_of_closed {a : Access} (hclosed : s.isOpen = false) : (access a).Alters s s where
  map_eq := rfl
  isOpen_eq := rfl
  writesTo_eq b := by simp [hclosed]
  peek_eq b := by simp [hclosed, isLoad]

theorem alters_load (s : Simulator) (address v : UInt32) :
    (load address v).Alters s (s.load address v) where
  map_eq := rfl
  isOpen_eq := rfl
  writesTo_eq b := by simp [written?]; rfl
  peek_eq b := by
    have hload : s.isOpen = true ∨ (load address v).isLoad = true := .inr rfl
    rw [if_pos hload, peek_load]
    by_cases h : address = b
    · simp [turn, put?, written?, loaded?, h]
    · simp [turn, put?, written?, loaded?, reads, h]

theorem alters_setStatus (s : Simulator) (c : Channel) (raw : UInt32) :
    (setStatus c raw).Alters s (s.load (s.map.statusAt c) raw) := by
  obtain ⟨hmap, hopen, hlog, hpeek⟩ := alters_load s (s.map.statusAt c) raw
  exact ⟨hmap, hopen, hlog, hpeek⟩

/-- A write goes to the log and to its register. -/
theorem alters_writeRegister (hopen : s.isOpen = true) (address v : UInt32) :
    (access (.writeRegister address v)).Alters s (s.store address v) where
  map_eq := rfl
  isOpen_eq := rfl
  writesTo_eq b := by
    rw [writesTo_store, if_pos hopen, written?]
    by_cases h : address = b <;> simp [h]
  peek_eq b := by
    rw [if_pos (Or.inl hopen), peek_store]
    by_cases h : address = b
    · simp [turn, put?, written?, h]
    · simp [turn, put?, written?, loaded?, reads, h]

/-- A read leaves no trace in the log, and takes the flags of a status register away. -/
theorem exists_alters_readRegister (hopen : s.isOpen = true) (hstatus : s.map.HasStatus)
    (address : UInt32) :
    ∃ t, (access (.readRegister address)).perform.Yields s (.word (s.peek address)) t ∧
      (access (.readRegister address)).Alters s t := by
  have hturn (b content : UInt32) : (access (.readRegister address)).turn s.map b content =
      if (∃ c, s.map.statusAt c = b) ∧ address = b then content &&& ~~~Fifo.Status.flagBits
      else content := by
    simp [turn, put?, written?, loaded?, reads]
  by_cases hlatch : ∃ c, s.map.statusAt c = address
  · obtain ⟨c, rfl⟩ := hlatch
    have hread := yields_readRegister_of_status hopen (hstatus.isStatus_statusAt c)
    refine ⟨_, hread.map _, rfl, rfl, fun b => ?_, fun b => ?_⟩
    · rw [if_pos hopen]
      exact (List.append_nil _).symm
    · rw [if_pos (Or.inl hopen), hturn, peek_clearFlags]
      by_cases hb : s.map.statusAt c = b
      · subst hb
        simp
      · simp [hb]
  · have hplain := hstatus.isStatus_of_ne fun c hc => hlatch ⟨c, hc⟩
    have hread := yields_readRegister_of_plain hopen hplain
    refine ⟨s, hread.map _, rfl, rfl, fun b => ?_, fun b => ?_⟩
    · rw [if_pos hopen]
      exact (List.append_nil _).symm
    · rw [if_pos (Or.inl hopen), hturn, if_neg]
      rintro ⟨hb, rfl⟩
      exact hlatch hb

/-- A transfer is not to be seen in the log or in any register. -/
theorem alters_transfer {a : Access} {offset : UInt32} {length : Nat}
    (hspan : a.span? = some (offset, length)) (s : Simulator) (w : Memory) :
    (access a).Alters s { s with window := w } := by
  have hnothing (b : UInt32) : (access a).written? b = none ∧ (access a).reads b = false := by
    cases a with
    | readRegister | writeRegister => exact absurd hspan.symm (Option.some_ne_none _)
    | readBlock | writeBlock | fill | send => exact ⟨rfl, rfl⟩
  refine ⟨rfl, rfl, fun b => ?_, fun b => ?_⟩
  · rw [(hnothing b).1, Option.toList_none, List.append_nil, ite_self]
    rfl
  · have hput : (access a).put? s.map b = none := by
      rw [put?, (hnothing b).1]
      rfl
    have hturn : (access a).turn s.map b (s.peek b) = s.peek b := by
      simp [turn, hput, (hnothing b).2]
    rw [hturn, ite_self]
    rfl

/-- **One use.**  It ends without a fault, and alters the device in its way. -/
theorem exists_yields_perform (hstatus : s.map.HasStatus) (u : Use) :
    ∃ reply t, u.perform.Yields s reply t ∧ u.Alters s t := by
  cases u with
  | load address v => exact ⟨_, _, (yields_modify rfl).map _, alters_load s address v⟩
  | setStatus c raw =>
    exact ⟨_, _, (yields_setStatus hstatus c raw).map _, alters_setStatus s c raw⟩
  | access a =>
    have htransfer {offset : UInt32} {length : Nat} (hspan : a.span? = some (offset, length)) :
        ∃ reply t, a.perform.Yields s reply t ∧ (access a).Alters s t := by
      obtain ⟨reply, w, hrun⟩ := exists_yields_transfer s hspan
      exact ⟨reply, _, hrun, alters_transfer hspan s w⟩
    cases a with
    | readRegister address =>
      cases hopen : s.isOpen with
      | false =>
        exact ⟨_, s, (yields_readRegister_of_closed hopen address).map _, alters_of_closed hopen⟩
      | true =>
        obtain ⟨t, hrun, ht⟩ := exists_alters_readRegister hopen hstatus address
        exact ⟨_, t, hrun, ht⟩
    | writeRegister address v =>
      cases hopen : s.isOpen with
      | false =>
        exact ⟨_, s, (yields_writeRegister_of_closed hopen address v).map _, alters_of_closed hopen⟩
      | true =>
        exact ⟨_, _, (yields_writeRegister hopen address v).map _,
          alters_writeRegister hopen address v⟩
    | readBlock | writeBlock | fill | send => exact htransfer rfl

end Use

/-! ## The story of a run -/

/-- After a run, the log and the registers are what the run makes of them. -/
structure Recounts (map : RegisterMap) (past : List Step) (s : Simulator) : Prop where
  /-- The register map is that of the start. -/
  map_eq : s.map = map
  /-- The device is open if it was not closed. -/
  isOpen_eq : s.isOpen = !past.any Step.isClose
  /-- The log has the writes of the host until the device was closed. -/
  writesTo_eq : ∀ a, s.writesTo a = (Step.untilClosed past).filterMap (Use.written? a)
  /-- The registers hold what the effective uses tell. -/
  peek_eq : ∀ a, s.peek a = told map a (Step.effective past)

theorem recounts_fresh (map : RegisterMap) : Recounts map [] (fresh map) where
  map_eq := rfl
  isOpen_eq := rfl
  writesTo_eq _ := rfl
  peek_eq a := by simp [told, lastPut, Step.effective, peek_fresh]

namespace Recounts

variable {map : RegisterMap} {past : List Step}

theorem concat_close (h : Recounts map past s) : Recounts map (past ++ [.close]) s.close where
  map_eq := h.map_eq
  isOpen_eq := by simp [Simulator.close, Step.isClose]
  writesTo_eq a := by
    rw [Step.untilClosed_concat_close]
    exact h.writesTo_eq a
  peek_eq a := by
    rw [Step.effective_concat_close]
    exact h.peek_eq a

theorem concat_use (h : Recounts map past s) {u : Use} (halters : u.Alters s t) :
    Recounts map (past ++ [.use u]) t where
  map_eq := halters.map_eq.trans h.map_eq
  isOpen_eq := by
    rw [halters.isOpen_eq, h.isOpen_eq]
    simp [Step.isClose]
  writesTo_eq a := by
    rw [halters.writesTo_eq, h.isOpen_eq, h.writesTo_eq, Step.untilClosed_concat_use]
    cases past.any Step.isClose with
    | true => simp
    | false => cases hwritten : u.written? a <;> simp [hwritten]
  peek_eq a := by
    rw [halters.peek_eq, h.isOpen_eq, h.peek_eq, h.map_eq, Step.effective_concat_use]
    cases hclosed : past.any Step.isClose <;> cases hload : u.isLoad <;> simp [told_concat]

/-- **One step.**  It ends without a fault, and the story goes on. -/
theorem exists_yields_perform (h : Recounts map past s) (hstatus : map.HasStatus) (step : Step) :
    ∃ reply t, step.perform.Yields s reply t ∧ Recounts map (past ++ [step]) t := by
  cases step with
  | close => exact ⟨_, _, (yields_modify rfl).map _, h.concat_close⟩
  | use u =>
    obtain ⟨reply, t, hrun, ht⟩ := u.exists_yields_perform (h.map_eq ▸ hstatus)
    exact ⟨reply, t, hrun, h.concat_use ht⟩

end Recounts

/-- **The log and the registers tell one story.**  Any run on a fresh device whose status registers
exist ends without a fault.  Then, for every address:

* the log has the values that the host wrote there before the device was closed, in order, and no
  load;
* the register holds the last value that was written there before the device was closed or loaded
  there at any time, and zero if there is none.  It is without its flags exactly if the register is
  that of a status and was read after that, before the device was closed. -/
theorem log_and_registers_tell_one_story {map : RegisterMap} (hstatus : map.HasStatus)
    (run : List Step) :
    ∃ replies t, (run.mapM Step.perform).Yields (.fresh map) replies t ∧
      ∀ a, t.writesTo a = (Step.untilClosed run).filterMap (Use.written? a) ∧
        t.peek a =
          if (∃ c, map.statusAt c = a) ∧ readSince map a (Step.effective run) = true then
            lastPut map a (Step.effective run) &&& 0x1FFFFFFF
          else lastPut map a (Step.effective run) := by
  obtain ⟨replies, t, hrun, ht⟩ := exists_yields_mapM (f := Step.perform)
    (P := fun past s => Recounts map past s) (recounts_fresh map)
    (fun past step s hs => hs.exists_yields_perform hstatus step) run
  have hflags : ~~~Fifo.Status.flagBits = 0x1FFFFFFF := by decide
  refine ⟨replies, t, hrun, fun a => ⟨ht.writesTo_eq a, ?_⟩⟩
  rw [ht.peek_eq, told, hflags]

/-- A status register is written, read, loaded and read again.  After the close it is loaded once
more, and the host tries to read and to write. -/
theorem log_and_registers_tell_one_story_past_the_close :
    let status : UInt32 := 0x9000
    let run : List Step :=
      [.use (.access (.writeRegister status 0xE0000001)), .use (.access (.readRegister status)),
        .use (.setStatus .rx 0xA0000002), .use (.access (.readRegister status)),
        .use (.access (.writeRegister 0x9004 0xC0000003)), .close,
        .use (.access (.readRegister 0x9004)), .use (.access (.writeRegister status 4)),
        .use (.load 0x9008 0x80000005)]
    ({} : RegisterMap).HasStatus ∧
    ∃ replies t, (run.mapM Step.perform).Yields (.fresh {}) replies t ∧
      t.writesTo status = [0xE0000001] ∧ t.peek status = 2 ∧
      t.peek 0x9004 = 0xC0000003 ∧ t.writesTo 0x9008 = [] ∧ t.peek 0x9008 = 0x80000005 := by
  intro status run
  have haddresses : ({} : RegisterMap).Addressable := by decide
  have hstatus := haddresses.status
  obtain ⟨replies, t, hrun, ht⟩ := log_and_registers_tell_one_story hstatus run
  refine ⟨hstatus, replies, t, hrun, (ht status).1.trans ?_, (ht status).2.trans ?_,
    (ht 0x9004).2.trans ?_, (ht 0x9008).1.trans ?_, (ht 0x9008).2.trans ?_⟩
  all_goals decide

end Simulator
end RadioFrontEnd
