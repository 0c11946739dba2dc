import RadioFrontEnd.Proofs.Host
import RadioFrontEnd.Proofs.Lifting
import RadioFrontEnd.Proofs.Opening

/-!
# The front end that every host has

`Device.connect` gives a host its front end: the card, if all of its nodes can be opened, and a new
simulated device otherwise.  Some of the nodes may be there and others not.  Then the card would be
half open, with a register node and no way for the samples; so nothing of it is kept, also if the
register node itself could be opened.

## Two things that must not happen

The simulated device belongs to a host with files, and the nodes that could be opened are among them.
What is done with the device must not touch them, and what they hold must not show in what the host
reads.  The files are not only those at the start: others may change them at any time.

Both are one equation.  `Happening` is something that is done with the front end, or a change of the
files by others.  What a host with a simulated device goes through in any run of these is what the
device goes through alone, in the run without the changes; and the files go through the changes alone
(`run_through`).  One side of the equation has no files in it at all.
-/

namespace RadioFrontEnd

open RadioFrontEnd.Action

namespace Host

/-! ## The simulated device of a host -/

/-- A host with a simulated device. -/
def simulated (files : Files) (s : Simulator) : Host := ⟨files, .simulated s⟩

theorem lifts_onDevice {α : Type} (files : Files) (ifSimulated : Action Simulator α)
    (ifAttached : Action (Attached Files) α) :
    Lifts (simulated files) (onDevice ifSimulated ifAttached) ifSimulated := fun _ => rfl

/-- The host answers what its device answers, and its files stay what they are. -/
theorem lifts_simulated (files : Files) : FrontEnd.Lifts (simulated files) where
  readRegister _ := lifts_onDevice files _ _
  writeRegister _ _ := lifts_onDevice files _ _
  writeBlock _ _ := lifts_onDevice files _ _
  readBlock _ _ := lifts_onDevice files _ _
  isOpen_eq _ := rfl

/-! ## Runs with changing files -/

/-- Something that happens on a host. -/
inductive Happening where
  /-- Something is done with the front end. -/
  | operation (op : Operation)
  /-- Others change the files. -/
  | change (f : Files → Files)

namespace Happening

/-- What is done with the front end. -/
def operations : List Happening → List Operation
  | [] => []
  | operation op :: run => op :: operations run
  | change _ :: run => operations run

/-- What others make of the files. -/
def filesAfter (files : Files) : List Happening → Files
  | [] => files
  | operation _ :: run => filesAfter files run
  | change f :: run => filesAfter (f files) run

/-- Let it all happen.  The host gets a response for each operation, or the fault that stopped it. -/
def through : List Happening → Action Host (List (Except Fault Response))
  | [] => return []
  | operation op :: run => do
    let answer ← (op.perform close).attempt
    return answer :: (← through run)
  | change f :: run => do
    onFiles (.modify f)
    through run

/-- The same on a simulated device that belongs to no host. -/
def alone (ops : List Operation) : Action Simulator (List (Except Fault Response)) :=
  ops.mapM fun op => (op.perform (.modify Simulator.close)).attempt

theorem filesAfter_operations (files : Files) (ops : List Operation) :
    filesAfter files (ops.map operation) = files := by
  induction ops with
  | nil => rfl
  | cons op ops ih => exact ih

theorem operations_map_operation (ops : List Operation) :
    operations (ops.map operation) = ops := by
  induction ops with
  | nil => rfl
  | cons op ops ih => exact congrArg (op :: ·) ih

theorem lifts_attempt (files : Files) (op : Operation) :
    Lifts (simulated files) (op.perform close).attempt
      (op.perform (.modify Simulator.close)).attempt :=
  ((lifts_simulated files).perform (lifts_onDevice files _ _) op).attempt

/-- **The device and the files go their own ways.** -/
theorem run_through (run : List Happening) (files : Files) (s : Simulator) :
    (through run).run (simulated files s) =
      ((alone (operations run)).run s).within (simulated (filesAfter files run)) := by
  induction run generalizing files s with
  | nil => rfl
  | cons first rest ih =>
    cases first with
    | change f =>
      -- what the others do is not reported, and the front end does not notice it
      calc (through (change f :: rest)).run (simulated files s)
          = (through rest).run (simulated (f files) s) := rfl
        _ = ((alone (operations rest)).run s).within (simulated (filesAfter (f files) rest)) :=
            ih (f files) s
    | operation op =>
      obtain ⟨answer, t, hanswer⟩ := exists_yields_attempt
        (op.perform (.modify Simulator.close)) s
      have hrest := run_bind_within (ih files t) fun answers u =>
        lifts_pure (answer :: answers) u
      rw [operations, alone, List.mapM_cons]
      exact run_bind_within_of_yields (lifts_attempt files op s) hanswer hrest

/-- A run always ends with an answer to each operation, and the answers, the device and the reports
are the same whatever files there are. -/
theorem exists_run_through (s : Simulator) (ops : List Operation) :
    ∃ answers t events, (alone ops).run s = ⟨.ok answers, t, events⟩ ∧
      ∀ (files : Files) (run : List Happening), operations run = ops →
        (through run).run (simulated files s) =
          ⟨.ok answers, simulated (filesAfter files run) t, events⟩ := by
  have hends (op : Operation) := exists_yields_attempt (op.perform (.modify Simulator.close))
  obtain ⟨answers, t, events, halone⟩ := exists_yields_mapM_of_ends hends ops s
  refine ⟨answers, t, events, halone, ?_⟩
  rintro files run rfl
  rw [run_through run files s, alone, halone]
  rfl

end Happening
end Host

/-! ## Connecting -/

namespace Device

variable {files : Files} {paths : NodePaths}

theorem yields_connect_of_opens {w : Wiring} (h : w.Opens files paths) :
    (connect paths).Yields files (.attached (w.transport paths)) files := by
  have hattach : (attach paths).Yields files (.ok (.attached (w.transport paths))) files :=
    h.yields_openNodes.bind (yields_pure _ files)
  exact hattach.bind (yields_pure _ files)

theorem yields_connect_of_failsAt {node : String} {cause : FileError}
    (h : paths.FailsAt files node cause) :
    (connect paths).Yields files (.simulated (.fresh {})) files := by
  have hattach : (attach paths).Yields files (.error (.unavailable node cause)) files :=
    (Transport.yields_openNodes_of_failsAt h).bind (yields_pure _ files)
  exact hattach.bind ((yields_report _ _ files).bind (yields_pure _ files))

end Device

open RadioFrontEnd.Host.Happening

/-- **Every host has an open front end, and a simulated one never touches the files.**  Whatever the
files and the nodes are, connecting ends with an open device, and the files are what they were.

* The device is a card exactly if all of its nodes can be opened, and it has all of them then.
* If any of the nodes cannot be opened, the device is a new simulated one: with the standard map,
  zeros in all registers and in the window, and an empty log.
* Whatever is done with that device on whatever host, there is an answer to each operation, which is
  the answer of the device alone, and all files stay what they are.  The same is true while others
  change the files: these are what the others make of them, and the answers remain. -/
theorem simulated_fallback_never_touches_the_files (files : Files) (paths : NodePaths) :
    ∃ device, (Device.connect paths).Yields files device files ∧
      FrontEnd.isOpen (⟨files, device⟩ : Host) = true ∧
      ((∃ t, device = .attached t) ↔
        ∀ node ∈ paths.list, ∃ place, files.openNode node = .ok place) ∧
      (∀ t, device = .attached t → ∃ w : Wiring, w.Opens files paths ∧ w.Carries t) ∧
      ∀ node ∈ paths.list, ∀ cause, files.openNode node = .error cause →
        ∃ s : Simulator, device = .simulated s ∧ s = .fresh {} ∧
          s.map = {} ∧ (∀ a, s.peek a = 0) ∧ s.writeLog = [] ∧ s.Holds (fun _ => 0) ∧
          ∀ ops : List Operation, ∃ answers t events,
            (alone ops).run s = ⟨.ok answers, t, events⟩ ∧
            ∀ others : Files,
              (through (ops.map operation)).run ⟨others, device⟩ =
                ⟨.ok answers, ⟨others, .simulated t⟩, events⟩ ∧
              ∀ run, operations run = ops → (through run).run ⟨others, device⟩ =
                ⟨.ok answers, ⟨filesAfter others run, .simulated t⟩, events⟩ := by
  obtain ⟨node, cause, hfails⟩ | ⟨w, hopens⟩ := paths.failsAt_or_opens files
  · refine ⟨.simulated (.fresh {}), Device.yields_connect_of_failsAt hfails, rfl, ?_, ?_, ?_⟩
    · refine iff_of_false (fun ⟨t, ht⟩ => by cases ht) fun hall => ?_
      obtain ⟨place, hplace⟩ := hall node hfails.mem_list
      rw [hfails.openNode_eq] at hplace
      cases hplace
    · intro t ht
      cases ht
    · intro _ _ _ _
      refine ⟨.fresh {}, rfl, rfl, rfl, Simulator.peek_fresh {}, rfl, Simulator.holds_fresh {},
        fun ops => ?_⟩
      obtain ⟨answers, t, events, halone, hthrough⟩ := exists_run_through (.fresh {}) ops
      refine ⟨answers, t, events, halone, fun others => ⟨?_, hthrough others⟩⟩
      have hown := hthrough others (ops.map operation) (operations_map_operation ops)
      rwa [filesAfter_operations] at hown
  · have hall := (paths.exists_opens_iff files).mp ⟨w, hopens⟩
    refine ⟨.attached (w.transport paths), Device.yields_connect_of_opens hopens, rfl,
      iff_of_true ⟨_, rfl⟩ hall, ?_, ?_⟩
    · rintro t ⟨⟩
      exact ⟨w, hopens, hopens.carries⟩
    · intro node hnode cause hcause
      obtain ⟨place, hplace⟩ := hall node hnode
      rw [hcause] at hplace
      cases hplace

/-- Two nodes of three can be opened, and all files are replaced between a write and a read. -/
theorem simulated_fallback_never_touches_the_files_though_some_open :
    let paths : NodePaths := ⟨"io", some "tx", some "gone"⟩
    let run : List Host.Happening := [.operation (.access (.writeRegister 0 7)),
      .change fun _ => .fresh "other", .operation (.access (.readRegister 0))]
    Files.withThreeNodes.openNode "io" = .ok ["work", "io"] ∧
    Files.withThreeNodes.openNode "gone" = .error (.system .noEntry) ∧
    ∃ device, (Device.connect paths).Yields .withThreeNodes device .withThreeNodes ∧
      FrontEnd.isOpen (⟨.withThreeNodes, device⟩ : Host) = true ∧
      ∃ t events, (through run).run ⟨.withThreeNodes, device⟩ =
        ⟨.ok [.ok (.reply .done), .ok (.reply (.word 7))], ⟨.fresh "other", .simulated t⟩, events⟩ := by
  intro paths run
  obtain ⟨hopen, -, -⟩ := Files.openNode_withThreeNodes
  have hgone : Files.withThreeNodes.openNode "gone" = .error (.system .noEntry) := by cbv
  obtain ⟨device, hconnect, hisOpen, -, -, hfallback⟩ :=
    simulated_fallback_never_touches_the_files .withThreeNodes paths
  obtain ⟨s, -, rfl, -, -, -, -, hruns⟩ := hfallback "gone" (by decide) _ hgone
  obtain ⟨answers, t, events, halone, hthrough⟩ := hruns (operations run)
  have hanswers : answers = [.ok (.reply .done), .ok (.reply (.word 7))] := by
    have hresult := congrArg Outcome.result halone
    exact (Except.ok.inj hresult).symm
  subst hanswers
  exact ⟨hopen, hgone, device, hconnect, hisOpen, t, events, (hthrough _).2 run rfl⟩

end RadioFrontEnd
