import RadioFrontEnd.Log
import RadioFrontEnd.Word

/-!
# Actions

Driving a front end is a sequence of steps on some state, be it a simulated device or files.  An
`Action σ α` is such a sequence: run on a state it gives a result, the state it leaves and the
events it reported, in order.

A result may be a `Fault`.  It ends the action at once, and what was done before stays done: the
state of the outcome is the state at the fault, and the events up to there are kept.  Failures that
a caller handles, such as a short transfer, are not faults but values of the result.
-/

namespace RadioFrontEnd

/-- What running an action gives. -/
structure Outcome (σ α : Type) where
  /-- The result, or the fault that ended the action. -/
  result : Except Fault α
  /-- The state that is left. -/
  state : σ
  /-- The events reported, in order. -/
  events : List LogEvent

/-- A sequence of steps on a state. -/
def Action (σ α : Type) : Type := σ → Outcome σ α

namespace Action

variable {σ τ α β : Type}

/-- Run an action on a state. -/
def run (a : Action σ α) (s : σ) : Outcome σ α := a s

/-- Do nothing and give a result. -/
protected def pure (x : α) : Action σ α := fun s => ⟨.ok x, s, []⟩

/-- Run one action, then the action that its result asks for. -/
protected def bind (a : Action σ α) (f : α → Action σ β) : Action σ β := fun s =>
  match a s with
  | ⟨.ok x, s', events⟩ =>
    let next := f x s'
    ⟨next.result, next.state, events ++ next.events⟩
  | ⟨.error fault, s', events⟩ => ⟨.error fault, s', events⟩

instance : Monad (Action σ) where
  pure := Action.pure
  bind := Action.bind

/-- The state as it is. -/
def get : Action σ σ := fun s => ⟨.ok s, s, []⟩

/-- Replace the state. -/
def set (s : σ) : Action σ Unit := fun _ => ⟨.ok (), s, []⟩

/-- Change the state. -/
def modify (f : σ → σ) : Action σ Unit := fun s => ⟨.ok (), f s, []⟩

/-- Report an event. -/
def report (level : LogLevel) (message : String) : Action σ Unit :=
  fun s => ⟨.ok (), s, [⟨level, message⟩]⟩

/-- Take a computed value, or end with its fault. -/
def ofExcept (x : Except Fault α) : Action σ α := fun s => ⟨x, s, []⟩

/-- Run an action on a part of a larger state. -/
def on (view : τ → σ) (put : σ → τ → τ) (a : Action σ α) : Action τ α := fun t =>
  let o := a (view t)
  ⟨o.result, put o.state t, o.events⟩

@[simp] theorem run_pure (x : α) (s : σ) :
    (pure x : Action σ α).run s = ⟨.ok x, s, []⟩ := rfl

theorem run_bind (a : Action σ α) (f : α → Action σ β) (s : σ) :
    (a >>= f).run s =
      match a.run s with
      | ⟨.ok x, s', events⟩ =>
        ⟨((f x).run s').result, ((f x).run s').state, events ++ ((f x).run s').events⟩
      | ⟨.error fault, s', events⟩ => ⟨.error fault, s', events⟩ := rfl

@[simp] theorem run_get (s : σ) : (get : Action σ σ).run s = ⟨.ok s, s, []⟩ := rfl

@[simp] theorem run_set (s t : σ) : (set t).run s = ⟨.ok (), t, []⟩ := rfl

@[simp] theorem run_modify (f : σ → σ) (s : σ) : (modify f).run s = ⟨.ok (), f s, []⟩ := rfl

@[simp] theorem run_report (level : LogLevel) (message : String) (s : σ) :
    (report level message).run s = ⟨.ok (), s, [⟨level, message⟩]⟩ := rfl

@[simp] theorem run_ofExcept (x : Except Fault α) (s : σ) :
    (ofExcept x).run s = ⟨x, s, []⟩ := rfl

protected theorem id_map (a : Action σ α) : id <$> a = a := by
  funext s
  show Action.bind a (fun x => Action.pure x) s = a s
  unfold Action.bind
  rcases a s with ⟨_ | _, _, _⟩ <;> simp [Action.pure]

protected theorem bind_assoc {γ : Type} (a : Action σ α) (f : α → Action σ β)
    (g : β → Action σ γ) : a >>= f >>= g = a >>= fun x => f x >>= g := by
  funext s
  show Action.bind (Action.bind a f) g s = Action.bind a (fun x => Action.bind (f x) g) s
  unfold Action.bind
  rcases a s with ⟨_ | x, s', events⟩
  · rfl
  · dsimp only
    rcases f x s' with ⟨_ | _, _, _⟩ <;> simp

instance : LawfulMonad (Action σ) :=
  .mk' _ Action.id_map (fun _ _ => rfl) Action.bind_assoc

end Action
end RadioFrontEnd
