import RadioFrontEnd.Proofs.Routing

/-!
# Opening the nodes of a card

The nodes of a card are opened in order, and the first that cannot be opened ends the attempt with its
name and its cause.  `NodePaths.FailsAt` says which one that is, and `Wiring.Opens` that there is none.
One of the two always holds (`NodePaths.failsAt_or_opens`), and each of them says what the attempt
gives.  The files are looked at on the way and stay what they are.
-/

namespace RadioFrontEnd

open RadioFrontEnd.Action

namespace NodePaths

/-- The nodes of a card, in the order in which they are opened. -/
def list (paths : NodePaths) : List String :=
  paths.user :: (paths.toCard.toList ++ paths.toHost.toList)

/-- A node cannot be opened, and all the nodes before it can. -/
structure FailsAt (fs : Files) (paths : NodePaths) (node : String) (cause : FileError) : Prop where
  /-- Where the node is in the order. -/
  exists_before : ∃ before after, paths.list = before ++ node :: after ∧
    ∀ path ∈ before, ∃ place, fs.openNode path = .ok place
  /-- Why it cannot be opened. -/
  openNode_eq : fs.openNode node = .error cause

end NodePaths

namespace Transport

variable {fs : Files} {paths : NodePaths} {path : String} {cause : FileError}

theorem yields_openNode_of_error (h : fs.openNode path = .error cause) :
    (openNode path).Yields fs (.error (.unavailable path cause)) fs := by
  refine (yields_get fs).bind ?_
  rw [h]
  have hreported (message : String) :
      (report .error message >>= fun _ => pure (.error (.unavailable path cause)) :
        Action Files (Except FrontEndError Node)).Yields fs (.error (.unavailable path cause)) fs :=
    (yields_report _ _ fs).bind (yields_pure _ fs)
  dsimp only
  split_ifs
  · exact hreported _
  · exact hreported _

theorem yields_openNode?_of_error (h : fs.openNode path = .error cause) :
    (openNode? (some path)).Yields fs (.error (.unavailable path cause)) fs :=
  (yields_openNode_of_error h).bind (yields_pure _ fs)

/-- What comes last of an optional node is the node. -/
theorem eq_some_of_toList_eq_append {path? : Option String} {before after : List String}
    (h : path?.toList = before ++ path :: after) : path? = some path := by
  cases path? with
  | none => exact absurd h.symm (List.append_ne_nil_of_right_ne_nil before (List.cons_ne_nil _ _))
  | some other =>
    obtain ⟨-, hpath⟩ | ⟨-, hnil⟩ := List.singleton_eq_append_iff.mp h
    · cases hpath
      rfl
    · cases hnil

/-- The first node that cannot be opened ends the attempt. -/
theorem yields_openNodes_of_failsAt {node : String} (h : paths.FailsAt fs node cause) :
    (openNodes paths).Yields fs (.error (.unavailable node cause)) fs := by
  obtain ⟨⟨before, after, hlist, hopens⟩, hnode⟩ := h
  rw [NodePaths.list, List.cons_eq_append_iff] at hlist
  obtain ⟨rfl, huser⟩ | ⟨opened, rfl, hbulk⟩ := hlist
  · cases huser
    exact (yields_openNode_of_error hnode).bind (yields_pure _ fs)
  obtain ⟨place, hplace⟩ := hopens paths.user List.mem_cons_self
  refine (yields_openNode hplace).bind ?_
  cases hcard : paths.toCard with
  | none =>
    rw [hcard] at hbulk
    rw [eq_some_of_toList_eq_append hbulk]
    exact (Wiring.yields_openNode? .none).bind
      ((yields_openNode?_of_error hnode).bind (yields_pure _ fs))
  | some card =>
    rw [hcard, Option.toList_some, List.singleton_append, List.cons_eq_append_iff] at hbulk
    obtain ⟨rfl, hhost⟩ | ⟨rest, rfl, hhost⟩ := hbulk
    · cases hhost
      exact (yields_openNode?_of_error hnode).bind (yields_pure _ fs)
    · obtain ⟨cardPlace, hcardPlace⟩ := hopens card (List.mem_cons_of_mem _ List.mem_cons_self)
      rw [eq_some_of_toList_eq_append hhost]
      exact (Wiring.yields_openNode? (.some hcardPlace)).bind
        ((yields_openNode?_of_error hnode).bind (yields_pure _ fs))

end Transport

/-- An optional node that can be opened is a file. -/
theorem Files.exists_rel_openNode {fs : Files} {path? : Option String}
    (h : ∀ path ∈ path?, ∃ place, fs.openNode path = .ok place) :
    ∃ place?, Option.Rel (fun path place => fs.openNode path = .ok place) path? place? := by
  cases path? with
  | none => exact ⟨none, .none⟩
  | some path =>
    obtain ⟨place, hplace⟩ := h path rfl
    exact ⟨some place, .some hplace⟩

/-- Either a node cannot be opened, or all of them can, and are files. -/
theorem NodePaths.failsAt_or_opens (fs : Files) (paths : NodePaths) :
    (∃ node cause, paths.FailsAt fs node cause) ∨ ∃ w : Wiring, w.Opens fs paths := by
  have hplace {path : String} (h : (fs.openNode path).isOk = true) :
      ∃ place, fs.openNode path = .ok place := by
    cases hopen : fs.openNode path with
    | ok place => exact ⟨place, rfl⟩
    | error cause =>
      rw [hopen] at h
      cases h
  cases hfind : paths.list.find? fun path => !(fs.openNode path).isOk with
  | some node =>
    obtain ⟨hfails, before, after, hlist, hbefore⟩ := List.find?_eq_some_iff_append.mp hfind
    refine .inl ?_
    cases hopen : fs.openNode node with
    | error cause =>
      exact ⟨node, cause, ⟨before, after, hlist, fun path hpath => hplace (by
        simpa using hbefore path hpath)⟩, hopen⟩
    | ok place =>
      rw [hopen] at hfails
      cases hfails
  | none =>
    have hall (path : String) (hpath : path ∈ paths.list) :
        ∃ place, fs.openNode path = .ok place := by
      have hopen := List.find?_eq_none.mp hfind path hpath
      rw [Bool.not_eq_true, Bool.not_eq_false'] at hopen
      exact hplace hopen
    obtain ⟨user, huser⟩ := hall paths.user List.mem_cons_self
    obtain ⟨toCard, hcard⟩ := @Files.exists_rel_openNode fs paths.toCard fun path hpath =>
      hall path (List.mem_cons_of_mem _ (List.mem_append_left _ (Option.mem_toList.mpr hpath)))
    obtain ⟨toHost, hhost⟩ := @Files.exists_rel_openNode fs paths.toHost fun path hpath =>
      hall path (List.mem_cons_of_mem _ (List.mem_append_right _ (Option.mem_toList.mpr hpath)))
    exact .inr ⟨⟨user, toCard, toHost⟩, huser, hcard, hhost⟩

/-- The node that fails is one of the card. -/
theorem NodePaths.FailsAt.mem_list {fs : Files} {paths : NodePaths} {node : String}
    {cause : FileError} (h : paths.FailsAt fs node cause) : node ∈ paths.list := by
  obtain ⟨before, after, hlist, -⟩ := h.exists_before
  rw [hlist]
  exact List.mem_append_right before List.mem_cons_self

/-- The nodes are files exactly if each of them can be opened. -/
theorem NodePaths.exists_opens_iff (fs : Files) (paths : NodePaths) :
    (∃ w : Wiring, w.Opens fs paths) ↔
      ∀ node ∈ paths.list, ∃ place, fs.openNode node = .ok place := by
  constructor
  · rintro ⟨w, huser, hcard, hhost⟩ node hnode
    have hbulk {path? : Option String} {place? : Option Place}
        (h : Option.Rel (fun path place => fs.openNode path = .ok place) path? place?)
        (hmem : node ∈ path?.toList) : ∃ place, fs.openNode node = .ok place := by
      cases h with
      | none => exact absurd hmem List.not_mem_nil
      | some hopen =>
        rw [List.mem_singleton.mp hmem]
        exact ⟨_, hopen⟩
    rw [list, List.mem_cons, List.mem_append] at hnode
    obtain rfl | hmem | hmem := hnode
    · exact ⟨w.user, huser⟩
    · exact hbulk hcard hmem
    · exact hbulk hhost hmem
  · intro hall
    obtain ⟨node, cause, hfails⟩ | hopens := failsAt_or_opens fs paths
    · obtain ⟨place, hplace⟩ := hall node hfails.mem_list
      rw [hfails.openNode_eq] at hplace
      cases hplace
    · exact hopens

end RadioFrontEnd
