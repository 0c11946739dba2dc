import Mathlib.Data.List.Induction
import RadioFrontEnd.Action

/-!
# Runs that end without a fault

`Action.run` tells everything about a run: its result or fault, its state, its events.  Laws about
what a run does to a device need less.  `Action.Yields a s x t` says that the action ends without a
fault, with the result `x` and in the state `t`; it forgets the events.  It is built along the
action, one lemma for each way of putting actions together.

`Action.Faults` is the counterpart for an action that ends with a fault.  `Action.attempt` never
does: it gives the fault back as a result.

A whole run is `List.mapM` of the step over the list of steps.  `exists_yields_mapM` is the one
induction that laws about runs need: it carries an invariant that may speak of the steps taken so
far.

`Action.Matched rel f g` compares two devices: from related states the two actions end with the same
result and in related states.  It is closed under putting actions together, so code that is written
for any device is matched by itself as soon as the accesses it makes are (`Matched.bind`,
`Matched.mapM`).
-/

namespace RadioFrontEnd.Action

variable {σ τ α β ι : Type}

/-- The action ends without a fault, with a result and in a state. -/
def Yields (a : Action σ α) (s : σ) (x : α) (t : σ) : Prop :=
  ∃ events, a.run s = ⟨.ok x, t, events⟩

/-- There is one way for an action to end. -/
theorem Yields.unique {a : Action σ α} {s t t' : σ} {x x' : α} (h : a.Yields s x t)
    (h' : a.Yields s x' t') : x = x' ∧ t = t' := by
  obtain ⟨events, he⟩ := h
  obtain ⟨events', he'⟩ := h'
  rw [he] at he'
  cases he'
  exact ⟨rfl, rfl⟩

/-! ## Putting actions together -/

theorem yields_pure (x : α) (s : σ) : (pure x : Action σ α).Yields s x s := ⟨[], rfl⟩

theorem yields_get (s : σ) : (get : Action σ σ).Yields s s s := ⟨[], rfl⟩

theorem yields_set (s t : σ) : (set t).Yields s () t := ⟨[], rfl⟩

theorem yields_modify {f : σ → σ} {s t : σ} (h : f s = t) : (modify f).Yields s () t :=
  ⟨[], by rw [run_modify, h]⟩

theorem yields_report (level : LogLevel) (message : String) (s : σ) :
    (report level message).Yields s () s := ⟨[⟨level, message⟩], rfl⟩

theorem yields_ofExcept {x : Except Fault α} {y : α} (h : x = .ok y) (s : σ) :
    (ofExcept x).Yields s y s := ⟨[], by rw [run_ofExcept, h]⟩

theorem Yields.bind {a : Action σ α} {f : α → Action σ β} {s t u : σ} {x : α} {y : β}
    (ha : a.Yields s x t) (hf : (f x).Yields t y u) : (a >>= f).Yields s y u := by
  obtain ⟨events, he⟩ := ha
  obtain ⟨events', he'⟩ := hf
  refine ⟨events ++ events', ?_⟩
  rw [run_bind, he]
  dsimp only
  rw [he']

/-- What looks at the state first is what it does in that state. -/
theorem run_get_bind (f : σ → Action σ α) (s : σ) : (get >>= f).run s = (f s).run s := rfl

theorem Yields.map {a : Action σ α} {s t : σ} {x : α} (h : a.Yields s x t) (f : α → β) :
    (f <$> a).Yields s (f x) t := by
  rw [map_eq_pure_bind]
  exact h.bind (yields_pure (f x) t)

/-- On a part of a state, an action does to the part what it does. -/
theorem Yields.on {a : Action σ α} {view : τ → σ} {put : σ → τ → τ} {t : τ} {s : σ} {x : α}
    (h : a.Yields (view t) x s) : (a.on view put).Yields t x (put s t) := by
  obtain ⟨events, he⟩ := h
  refine ⟨events, ?_⟩
  show Outcome.mk (a.run (view t)).result (put (a.run (view t)).state t)
    (a.run (view t)).events = _
  rw [he]

/-- A report before an action changes nothing, whether it is made or not. -/
theorem Yields.after_report {p : Prop} [Decidable p] {a : Action σ α} {s t : σ} {x : α}
    (h : a.Yields s x t) (level : LogLevel) (message : String) :
    (if p then report level message >>= fun _ => a else a).Yields s x t := by
  split
  · exact (yields_report level message s).bind h
  · exact h

/-- Steps that each leave the state alone leave it alone together. -/
theorem yields_forM {f : ι → Action σ Unit} {is : List ι} {s : σ}
    (h : ∀ i ∈ is, (f i).Yields s () s) : (is.forM f).Yields s () s := by
  induction is with
  | nil => exact yields_pure () s
  | cons i is ih =>
    have hrest := ih fun j hj => h j (List.mem_cons_of_mem i hj)
    exact (h i List.mem_cons_self).bind hrest

/-! ## Faults -/

/-- The action ends with a fault, in a state. -/
def Faults (a : Action σ α) (s : σ) (fault : Fault) (t : σ) : Prop :=
  ∃ events, a.run s = ⟨.error fault, t, events⟩

theorem Faults.unique {a : Action σ α} {s t t' : σ} {fault fault' : Fault}
    (h : a.Faults s fault t) (h' : a.Faults s fault' t') : fault = fault' ∧ t = t' := by
  obtain ⟨events, he⟩ := h
  obtain ⟨events', he'⟩ := h'
  rw [he] at he'
  cases he'
  exact ⟨rfl, rfl⟩

theorem faults_ofExcept {x : Except Fault α} {fault : Fault} (h : x = .error fault) (s : σ) :
    (ofExcept x).Faults s fault s := ⟨[], by rw [run_ofExcept, h]⟩

theorem Faults.bind {a : Action σ α} {s t : σ} {fault : Fault} (h : a.Faults s fault t)
    (f : α → Action σ β) : (a >>= f).Faults s fault t := by
  obtain ⟨events, he⟩ := h
  exact ⟨events, by rw [run_bind, he]⟩

theorem Yields.bind_faults {a : Action σ α} {f : α → Action σ β} {s t u : σ} {x : α}
    {fault : Fault} (ha : a.Yields s x t) (hf : (f x).Faults t fault u) :
    (a >>= f).Faults s fault u := by
  obtain ⟨events, he⟩ := ha
  obtain ⟨events', he'⟩ := hf
  refine ⟨events ++ events', ?_⟩
  rw [run_bind, he]
  dsimp only
  rw [he']

theorem Faults.map {a : Action σ α} {s t : σ} {fault : Fault} (h : a.Faults s fault t)
    (f : α → β) : (f <$> a).Faults s fault t := by
  rw [map_eq_pure_bind]
  exact h.bind _

/-- An action carried to its end or to its fault, whichever comes; the result tells which.  A run of
attempts goes on after a fault, from the state that the fault left. -/
def attempt (a : Action σ α) : Action σ (Except Fault α) := fun s =>
  ⟨.ok (a.run s).result, (a.run s).state, (a.run s).events⟩

theorem Yields.attempt {a : Action σ α} {s t : σ} {x : α} (h : a.Yields s x t) :
    a.attempt.Yields s (.ok x) t := by
  obtain ⟨events, he⟩ := h
  refine ⟨events, ?_⟩
  show Outcome.mk (.ok (a.run s).result) (a.run s).state (a.run s).events = _
  rw [he]

theorem Faults.attempt {a : Action σ α} {s t : σ} {fault : Fault} (h : a.Faults s fault t) :
    a.attempt.Yields s (.error fault) t := by
  obtain ⟨events, he⟩ := h
  refine ⟨events, ?_⟩
  show Outcome.mk (.ok (a.run s).result) (a.run s).state (a.run s).events = _
  rw [he]

/-! ## Taking actions apart

An action ends in one of two ways, and what a sequence of actions does tells what its parts did. -/

theorem yields_or_faults (a : Action σ α) (s : σ) :
    (∃ x t, a.Yields s x t) ∨ ∃ fault t, a.Faults s fault t := by
  rcases h : a.run s with ⟨fault | x, t, events⟩
  · exact Or.inr ⟨fault, t, events, h⟩
  · exact Or.inl ⟨x, t, events, h⟩

theorem Yields.not_faults {a : Action σ α} {s t u : σ} {x : α} {fault : Fault}
    (h : a.Yields s x t) : ¬ a.Faults s fault u := by
  rintro ⟨events', he'⟩
  obtain ⟨events, he⟩ := h
  rw [he] at he'
  cases he'

theorem exists_of_yields_bind {a : Action σ α} {f : α → Action σ β} {s u : σ} {y : β}
    (h : (a >>= f).Yields s y u) : ∃ x t, a.Yields s x t ∧ (f x).Yields t y u := by
  obtain ⟨x, t, ha⟩ | ⟨fault, t, ha⟩ := yields_or_faults a s
  · obtain ⟨z, v, hf⟩ | ⟨fault, v, hf⟩ := yields_or_faults (f x) t
    · obtain ⟨rfl, rfl⟩ := (ha.bind hf).unique h
      exact ⟨x, t, ha, hf⟩
    · exact absurd (ha.bind_faults hf) h.not_faults
  · exact absurd (ha.bind f) h.not_faults

/-- A sequence that ends with a fault does so in its first part or in its second. -/
theorem or_of_faults_bind {a : Action σ α} {f : α → Action σ β} {s u : σ} {fault : Fault}
    (h : (a >>= f).Faults s fault u) :
    a.Faults s fault u ∨ ∃ x t, a.Yields s x t ∧ (f x).Faults t fault u := by
  obtain ⟨x, t, ha⟩ | ⟨fault', t, ha⟩ := yields_or_faults a s
  · obtain ⟨z, v, hf⟩ | ⟨fault', v, hf⟩ := yields_or_faults (f x) t
    · exact absurd h (ha.bind hf).not_faults
    · obtain ⟨rfl, rfl⟩ := (ha.bind_faults hf).unique h
      exact Or.inr ⟨x, t, ha, hf⟩
  · obtain ⟨rfl, rfl⟩ := (ha.bind f).unique h
    exact Or.inl ha

/-- A computed value leaves the state alone, so a fault leaves it alone if what follows does. -/
theorem eq_of_faults_ofExcept_bind {x : Except Fault α} {f : α → Action σ β} {s t : σ}
    {fault : Fault} (hf : ∀ y, (f y).Faults s fault t → t = s)
    (h : (ofExcept x >>= f).Faults s fault t) : t = s := by
  cases x with
  | error fault' => exact (h.unique ((faults_ofExcept rfl s).bind f)).2
  | ok y =>
    obtain ⟨z, u, hy⟩ | ⟨fault', u, hy⟩ := yields_or_faults (f y) s
    · exact absurd h ((yields_ofExcept rfl s).bind hy).not_faults
    · obtain ⟨rfl, rfl⟩ := h.unique ((yields_ofExcept rfl s).bind_faults hy)
      exact hf y hy

theorem faults_of_faults_map {a : Action σ α} {f : α → β} {s u : σ} {fault : Fault}
    (h : (f <$> a).Faults s fault u) : a.Faults s fault u := by
  obtain ⟨x, t, ha⟩ | ⟨fault', t, ha⟩ := yields_or_faults a s
  · exact absurd h (ha.map f).not_faults
  · obtain ⟨rfl, rfl⟩ := (ha.map f).unique h
    exact ha

theorem exists_of_yields_map {a : Action σ α} {f : α → β} {s u : σ} {y : β}
    (h : (f <$> a).Yields s y u) : ∃ x, a.Yields s x u ∧ f x = y := by
  rw [map_eq_pure_bind] at h
  obtain ⟨x, t, ha, hf⟩ := exists_of_yields_bind h
  obtain ⟨hx, rfl⟩ := (yields_pure (f x) t).unique hf
  exact ⟨x, ha, hx⟩

theorem eq_of_yields_ofExcept {x : Except Fault α} {y : α} {s t : σ}
    (h : (ofExcept x).Yields s y t) : x = .ok y := by
  obtain ⟨events, he⟩ := h
  rw [run_ofExcept] at he
  cases he
  rfl

/-- An attempt always ends, and tells which way the action ended. -/
theorem exists_yields_attempt (a : Action σ α) (s : σ) : ∃ r t, a.attempt.Yields s r t :=
  ⟨_, _, _, rfl⟩

theorem or_of_yields_attempt {a : Action σ α} {s t : σ} {r : Except Fault α}
    (h : a.attempt.Yields s r t) :
    (∃ x, r = .ok x ∧ a.Yields s x t) ∨ ∃ fault, r = .error fault ∧ a.Faults s fault t := by
  obtain ⟨x, u, ha⟩ | ⟨fault, u, ha⟩ := yields_or_faults a s
  · obtain ⟨rfl, rfl⟩ := ha.attempt.unique h
    exact Or.inl ⟨x, rfl, ha⟩
  · obtain ⟨rfl, rfl⟩ := ha.attempt.unique h
    exact Or.inr ⟨fault, rfl, ha⟩

/-! ## Runs of many steps -/

theorem yields_mapM_nil (f : ι → Action σ α) (s : σ) : (([] : List ι).mapM f).Yields s [] s := by
  rw [List.mapM_nil]
  exact yields_pure [] s

theorem Yields.mapM_cons {f : ι → Action σ α} {i : ι} {is : List ι} {s t u : σ} {x : α}
    {xs : List α} (hi : (f i).Yields s x t) (his : (is.mapM f).Yields t xs u) :
    ((i :: is).mapM f).Yields s (x :: xs) u := by
  rw [List.mapM_cons]
  exact hi.bind (his.bind (yields_pure (x :: xs) u))

/-- Steps that each leave the state alone leave it alone together, and each gives what it gives on
its own. -/
theorem yields_mapM {f : ι → Action σ α} {g : ι → α} {is : List ι} {s : σ}
    (h : ∀ i ∈ is, (f i).Yields s (g i) s) : (is.mapM f).Yields s (is.map g) s := by
  induction is with
  | nil => exact yields_mapM_nil f s
  | cons i is ih =>
    have hrest := ih fun j hj => h j (List.mem_cons_of_mem i hj)
    exact (h i List.mem_cons_self).mapM_cons hrest

/-- A run of some steps and then one more. -/
theorem Yields.mapM_concat {f : ι → Action σ α} {is : List ι} {i : ι} {s t u : σ} {xs : List α}
    {x : α} (his : (is.mapM f).Yields s xs t) (hi : (f i).Yields t x u) :
    ((is ++ [i]).mapM f).Yields s (xs ++ [x]) u := by
  rw [List.mapM_append]
  have hlast : ([i].mapM f).Yields t [x] u := hi.mapM_cons (yields_mapM_nil f u)
  exact his.bind (hlast.bind (yields_pure (xs ++ [x]) u))

/-- **Invariants of runs.**  What holds at the start, and is kept by every step in view of the steps
before it, holds after every run. -/
theorem exists_yields_mapM {f : ι → Action σ α} {P : List ι → σ → Prop} {s : σ}
    (start : P [] s)
    (step : ∀ past i u, P past u → ∃ x t, (f i).Yields u x t ∧ P (past ++ [i]) t)
    (run : List ι) : ∃ xs t, (run.mapM f).Yields s xs t ∧ P run t := by
  induction run using List.reverseRecOn with
  | nil => exact ⟨[], s, yields_mapM_nil f s, start⟩
  | append_singleton past i ih =>
    obtain ⟨xs, u, hpast, hu⟩ := ih
    obtain ⟨x, t, hi, ht⟩ := step past i u hu
    exact ⟨xs ++ [x], t, hpast.mapM_concat hi, ht⟩

/-- What the last step to give something gave: one more step is asked first. -/
theorem getD_findSome?_concat (f : ι → Option α) (x : α) (past : List ι) (i : ι) :
    ((past ++ [i]).reverse.findSome? f).getD x =
      (f i).getD ((past.reverse.findSome? f).getD x) := by
  rw [List.reverse_concat, List.findSome?_cons]
  cases f i <;> rfl

/-- Steps that always end make a run that ends. -/
theorem exists_yields_mapM_of_ends {f : ι → Action σ α}
    (step : ∀ i s, ∃ x t, (f i).Yields s x t) (run : List ι) (s : σ) :
    ∃ xs t, (run.mapM f).Yields s xs t := by
  obtain ⟨xs, t, hrun, -⟩ := exists_yields_mapM (P := fun _ _ => True) trivial
    (fun _ i u _ => by
      obtain ⟨x, t, hi⟩ := step i u
      exact ⟨x, t, hi, trivial⟩) run
  exact ⟨xs, t, hrun⟩

/-! ## Two devices side by side -/

/-- From related states the two actions end without a fault, with the same result and in related
states. -/
def Matched (rel : σ → τ → Prop) (f : Action σ α) (g : Action τ α) : Prop :=
  ∀ s t, rel s t → ∃ x s' t', f.Yields s x s' ∧ g.Yields t x t' ∧ rel s' t'

variable {rel : σ → τ → Prop}

theorem matched_pure (x : α) : Matched rel (pure x) (pure x) :=
  fun s t h => ⟨x, s, t, yields_pure x s, yields_pure x t, h⟩

theorem matched_report (level : LogLevel) (message : String) :
    Matched rel (report level message) (report level message) :=
  fun s t h => ⟨(), s, t, yields_report level message s, yields_report level message t, h⟩

theorem Matched.bind {f : Action σ α} {g : Action τ α} {k : α → Action σ β} {l : α → Action τ β}
    (hfg : Matched rel f g) (hkl : ∀ x, Matched rel (k x) (l x)) :
    Matched rel (f >>= k) (g >>= l) := by
  intro s t h
  obtain ⟨x, s', t', hf, hg, h'⟩ := hfg s t h
  obtain ⟨y, s'', t'', hk, hl, h''⟩ := hkl x s' t' h'
  exact ⟨y, s'', t'', hf.bind hk, hg.bind hl, h''⟩

/-- A computed value that is there goes on with that value. -/
theorem Matched.after_ofExcept {x : Except Fault α} {y : α} {k : α → Action σ β}
    {l : α → Action τ β} (hx : x = .ok y) (hkl : Matched rel (k y) (l y)) :
    Matched rel (ofExcept x >>= k) (ofExcept x >>= l) := by
  intro s t h
  obtain ⟨z, s', t', hk, hl, h'⟩ := hkl s t h
  exact ⟨z, s', t', (yields_ofExcept hx s).bind hk, (yields_ofExcept hx t).bind hl, h'⟩

theorem Matched.map {f : Action σ α} {g : Action τ α} (hfg : Matched rel f g) (k : α → β) :
    Matched rel (k <$> f) (k <$> g) := by
  intro s t h
  obtain ⟨x, s', t', hf, hg, h'⟩ := hfg s t h
  exact ⟨k x, s', t', hf.map k, hg.map k, h'⟩

/-- If every step of one device is matched by the same step of another, then so is every run. -/
theorem Matched.mapM {f : ι → Action σ α} {g : ι → Action τ α} {is : List ι}
    (step : ∀ i ∈ is, Matched rel (f i) (g i)) : Matched rel (is.mapM f) (is.mapM g) := by
  induction is with
  | nil =>
    intro s t h
    exact ⟨[], s, t, yields_mapM_nil f s, yields_mapM_nil g t, h⟩
  | cons i is ih =>
    intro s t h
    obtain ⟨x, s', t', hf, hg, h'⟩ := step i List.mem_cons_self s t h
    have hrest := ih fun j hj => step j (List.mem_cons_of_mem i hj)
    obtain ⟨xs, s'', t'', hfs, hgs, h''⟩ := hrest s' t' h'
    exact ⟨x :: xs, s'', t'', hf.mapM_cons hfs, hg.mapM_cons hgs, h''⟩

end RadioFrontEnd.Action
