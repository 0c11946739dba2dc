/-!
# Finite tables

A register file binds values to addresses, a file tree binds files to places.  Both are a `Table`: a
list of bindings in which a key stands at most once, the latest first.  `get?_set` is all that the
rest of the library needs to know about it.
-/

namespace RadioFrontEnd

/-- Values bound to keys. -/
structure Table (κ ν : Type) where
  /-- The bindings, the latest first. -/
  bindings : List (κ × ν)
  deriving DecidableEq

namespace Table

variable {κ ν : Type} [DecidableEq κ]

/-- The table without bindings. -/
def empty : Table κ ν := ⟨[]⟩

/-- The value bound to a key. -/
def get? (t : Table κ ν) (k : κ) : Option ν :=
  (t.bindings.find? (·.1 = k)).map (·.2)

/-- Bind a value to a key, in place of what was bound to it. -/
def set (t : Table κ ν) (k : κ) (v : ν) : Table κ ν :=
  ⟨(k, v) :: t.bindings.filter (·.1 ≠ k)⟩

@[simp] theorem get?_empty (k : κ) : (empty : Table κ ν).get? k = none := rfl

/-- A binding is seen under its own key and under no other. -/
theorem get?_set (t : Table κ ν) (k k' : κ) (v : ν) :
    (t.set k v).get? k' = if k = k' then some v else t.get? k' := by
  unfold get? set
  by_cases h : k = k'
  · simp [h]
  · rw [if_neg h, List.find?_cons_of_neg (by simpa using h)]
    rw [List.find?_filter]
    congr 2
    funext b
    by_cases hb : b.1 = k'
    · simp [hb, Ne.symm h]
    · simp [hb]

end Table
end RadioFrontEnd
