import RadioFrontEnd.Action

/-!
# Printing while working

A command prints lines while it drives a front end, and a fault in the middle leaves what was printed
before.  So the lines are part of the state: a `Terminal` is some state together with the lines
printed so far.
-/

namespace RadioFrontEnd.Probe

/-- A state and the lines printed so far. -/
structure Terminal (σ : Type) where
  /-- The state. -/
  inner : σ
  /-- The lines printed, latest first. -/
  printed : List String
  deriving DecidableEq

namespace Terminal

variable {σ τ α : Type}

/-- A state, and nothing printed. -/
def blank (s : σ) : Terminal σ := ⟨s, []⟩

/-- Do something with the state. -/
def within (a : Action σ α) : Action (Terminal σ) α :=
  a.on (·.inner) fun s t => { t with inner := s }

/-- Print a line. -/
def print (line : String) : Action (Terminal σ) Unit :=
  .modify fun t => { t with printed := line :: t.printed }

/-- Print some lines. -/
def printAll : List String → Action (Terminal σ) Unit
  | [] => return ()
  | line :: lines => do
    print line
    printAll lines

/-- Do something on a state made from this one, and put back what is left of it. -/
def through (view : τ → σ) (put : σ → τ → τ) (a : Action (Terminal σ) α) :
    Action (Terminal τ) α :=
  a.on (fun t => ⟨view t.inner, t.printed⟩) fun s t => ⟨put s.inner t.inner, s.printed⟩

/-- Everything printed, with a line break after every line. -/
def text (t : Terminal σ) : String := String.join (t.printed.reverse.map (· ++ "\n"))

theorem run_printAll (lines : List String) (t : Terminal σ) :
    (printAll lines).run t = ⟨.ok (), ⟨t.inner, lines.reverse ++ t.printed⟩, []⟩ := by
  induction lines generalizing t with
  | nil => rfl
  | cons line lines ih =>
    have h : (printAll lines).run ⟨t.inner, line :: t.printed⟩
        = ⟨.ok (), ⟨t.inner, lines.reverse ++ line :: t.printed⟩, []⟩ := ih _
    rw [printAll, Action.run_bind]
    simp [print, Action.run_modify, h]

end Terminal
end RadioFrontEnd.Probe
