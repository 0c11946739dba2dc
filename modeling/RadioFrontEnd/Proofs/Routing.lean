import RadioFrontEnd.Proofs.Closing
import RadioFrontEnd.Proofs.SingleNode

/-!
# Every access goes to its own node

A card is opened with a register node and up to two bulk nodes, and each of them is a file of its
own.  `Wiring` says which file a node is, and `Wiring.route` which file an access goes to: registers
are in the register node, and the transfers of a direction are in the bulk node of this direction,
or in the register node if there is none.

A run interleaves accesses to all the files, and the card may be closed on the way.
`Wiring.writesTo` picks the writes that are routed to one file, as long as the card was open.  The
main result says that this list alone decides what the file holds, whatever else the run did
(`Wiring.contentAfter`), and that an access replies from the file that it goes to.

The invariant is `Wiring.Followed`.  A step can only break it for the file that the step is routed
to, so the step lemma has two cases for each file, and the rest is what
`Attached.exists_yields_perform` says of a single access.  That the files are different is needed
only in the end, where the routes of reads and of writes are compared.
-/

namespace RadioFrontEnd

open RadioFrontEnd.Action

/-! ## Runs -/

/-- Something that a host does with an open card. -/
inductive CardUse where
  /-- Make an access. -/
  | access (a : Access)
  /-- Close the card. -/
  | close

namespace CardUse

/-- Do it. -/
def perform : CardUse → Action (Attached Files) Reply
  | access a => a.perform
  | close => (fun _ => .done) <$> Attached.close

/-- The card is closed by it. -/
def isClose : CardUse → Bool
  | close => true
  | access _ => false

/-- Data are sent to the card. -/
def isBlockWrite : CardUse → Bool
  | access (.writeBlock _ _) | access (.send _ _ _) => true
  | access (.readRegister _) | access (.writeRegister _ _) | access (.readBlock _ _)
  | access (.fill _ _) | close => false

/-- The accesses that were made before the card was closed. -/
def live : List CardUse → List Access
  | [] => []
  | access a :: run => a :: live run
  | close :: _ => []

theorem any_isClose_concat_access (past : List CardUse) (a : Access) :
    (past ++ [access a]).any isClose = past.any isClose := by
  rw [List.any_append]
  exact Bool.or_false _

/-- What is done after a close is not live. -/
theorem live_concat_of_closed {past : List CardUse} (h : past.any isClose = true) (step : CardUse) :
    live (past ++ [step]) = live past := by
  induction past with
  | nil => exact absurd h Bool.false_ne_true
  | cons first rest ih =>
    cases first with
    | access a => exact congrArg (a :: ·) (ih h)
    | close => rfl

theorem live_concat_close (past : List CardUse) : live (past ++ [close]) = live past := by
  induction past with
  | nil => rfl
  | cons first rest ih =>
    cases first with
    | access a => exact congrArg (a :: ·) ih
    | close => rfl

theorem live_concat_access {past : List CardUse} (h : past.any isClose = false) (a : Access) :
    live (past ++ [access a]) = live past ++ [a] := by
  induction past with
  | nil => rfl
  | cons first rest ih =>
    cases first with
    | access b => exact congrArg (b :: ·) (ih h)
    | close => exact absurd h.symm Bool.false_ne_true

end CardUse

/-! ## Wirings -/

/-- The files that the nodes of a card are. -/
structure Wiring where
  /-- The register node. -/
  user : Place
  /-- The node for transfers to the card, if there is one. -/
  toCard : Option Place
  /-- The node for transfers to the host, if there is one. -/
  toHost : Option Place

namespace Wiring

/-- All the files. -/
def places (w : Wiring) : List Place :=
  w.user :: (w.toCard.toList ++ w.toHost.toList)

/-- The file that an access goes to. -/
def route (w : Wiring) : Access → Place
  | .readRegister _ | .writeRegister _ _ => w.user
  | .writeBlock _ _ | .send _ _ _ => w.toCard.getD w.user
  | .readBlock _ _ | .fill _ _ => w.toHost.getD w.user

/-- The file that an access writes to, if it writes. -/
def target (w : Wiring) (a : Access) : Option Place :=
  a.written?.map fun _ => w.route a

/-- The writes of a run that are routed to a file. -/
def writesTo (w : Wiring) (p : Place) (run : List CardUse) : List Access :=
  (CardUse.live run).filter fun a => w.target a = some p

/-- What a file holds after a run, if it is told only the writes that are routed to it. -/
def contentAfter (w : Wiring) (initial : Place → List UInt8) (run : List CardUse) (p : Place) :
    List UInt8 :=
  Access.bytesAfter (initial p) (w.writesTo p run)

/-- What a host should get for a step after a run. -/
def replyAfter (w : Wiring) (initial : Place → List UInt8) (past : List CardUse) : CardUse → Reply
  | .access a =>
    if past.any CardUse.isClose then a.replyWhenClosed
    else a.replyFrom (w.contentAfter initial past (w.route a))
  | .close => .done

/-- The file that a step writes to, if it writes. -/
def stepTarget (w : Wiring) : CardUse → Option Place
  | .access a => w.target a
  | .close => none

/-- The nodes at some paths can be opened, and these are their files. -/
structure Opens (w : Wiring) (fs : Files) (paths : NodePaths) : Prop where
  /-- The register node. -/
  user : fs.openNode paths.user = .ok w.user
  /-- The node to the card. -/
  toCard : Option.Rel (fun path place => fs.openNode path = .ok place) paths.toCard w.toCard
  /-- The node to the host. -/
  toHost : Option.Rel (fun path place => fs.openNode path = .ok place) paths.toHost w.toHost

/-- The open nodes of a card are the files of the wiring. -/
structure Carries (w : Wiring) (t : Transport) : Prop where
  /-- The register node. -/
  user : t.user.map Node.file = some w.user
  /-- The node to the card. -/
  toCard : t.toCard.map Node.file = w.toCard
  /-- The node to the host. -/
  toHost : t.toHost.map Node.file = w.toHost

variable {w : Wiring} {initial : Place → List UInt8} {past : List CardUse}

theorem mem_places_user (w : Wiring) : w.user ∈ w.places := List.mem_cons_self

theorem mem_places_toCard {p : Place} (h : w.toCard = some p) : p ∈ w.places := by
  rw [places, h]
  exact List.mem_cons_of_mem _ (List.mem_append_left _ List.mem_cons_self)

theorem mem_places_toHost {p : Place} (h : w.toHost = some p) : p ∈ w.places := by
  rw [places, h]
  exact List.mem_cons_of_mem _ (List.mem_append_right _ List.mem_cons_self)

theorem route_mem_places (w : Wiring) (a : Access) : w.route a ∈ w.places := by
  have hbulkCard : w.toCard.getD w.user ∈ w.places := by
    cases h : w.toCard with
    | none => exact w.mem_places_user
    | some p => exact mem_places_toCard h
  have hbulkHost : w.toHost.getD w.user ∈ w.places := by
    cases h : w.toHost with
    | none => exact w.mem_places_user
    | some p => exact mem_places_toHost h
  cases a with
  | readRegister _ | writeRegister _ _ => exact w.mem_places_user
  | readBlock _ _ | fill _ _ => exact hbulkHost
  | writeBlock _ _ | send _ _ _ => exact hbulkCard

/-! ## Where writes go -/

/-- An access that writes does so where it is routed. -/
theorem target_eq_some_iff {a : Access} {p : Place} :
    w.target a = some p ↔ a.written? ≠ none ∧ w.route a = p := by
  rw [target, Option.map_eq_some_iff]
  constructor
  · rintro ⟨written, hwritten, hroute⟩
    refine ⟨?_, hroute⟩
    rw [hwritten]
    exact Option.some_ne_none written
  · rintro ⟨hne, hroute⟩
    obtain ⟨written, hwritten⟩ := Option.ne_none_iff_exists'.mp hne
    exact ⟨written, hwritten, hroute⟩

/-- An access that does not write where it is routed writes nothing. -/
theorem written?_eq_none_of_target_ne {a : Access} (h : w.target a ≠ some (w.route a)) :
    a.written? = none := by
  by_contra hne
  exact h (target_eq_some_iff.mpr ⟨hne, rfl⟩)

section Distinct

variable {p : Place} (hdistinct : w.places.Nodup)

include hdistinct

theorem user_ne_toCard (h : w.toCard = some p) : w.user ≠ p := by
  rintro rfl
  refine (List.nodup_cons.mp hdistinct).1 ?_
  rw [h]
  exact List.mem_append_left _ List.mem_cons_self

theorem user_ne_toHost (h : w.toHost = some p) : w.user ≠ p := by
  rintro rfl
  refine (List.nodup_cons.mp hdistinct).1 ?_
  rw [h]
  exact List.mem_append_right _ List.mem_cons_self

theorem toCard_ne_toHost (h : w.toHost = some p) : w.toCard ≠ some p := by
  intro hcard
  have hbulk := (List.nodup_cons.mp hdistinct).2
  rw [hcard, h] at hbulk
  exact (List.nodup_cons.mp hbulk).1 List.mem_cons_self

/-- Nothing is written to the node for transfers to the host. -/
theorem target_ne_toHost (h : w.toHost = some p) (a : Access) : w.target a ≠ some p := by
  rw [Ne, target_eq_some_iff]
  rintro ⟨hwrites, hroute⟩
  have hbulk : w.toCard.getD w.user ≠ p := by
    cases hcard : w.toCard with
    | none => exact user_ne_toHost hdistinct h
    | some q =>
      rintro rfl
      exact toCard_ne_toHost hdistinct h hcard
  cases a with
  | readRegister _ | readBlock _ _ | fill _ _ => exact hwrites rfl
  | writeRegister _ _ => exact user_ne_toHost hdistinct h hroute
  | writeBlock _ _ | send _ _ _ => exact hbulk hroute

/-- Only bulk writes go to the node for transfers to the card. -/
theorem stepTarget_ne_toCard (h : w.toCard = some p) {step : CardUse}
    (hstep : step.isBlockWrite = false) : w.stepTarget step ≠ some p := by
  cases step with
  | close =>
    intro hnone
    cases hnone
  | access a =>
    rw [stepTarget, Ne, target_eq_some_iff]
    rintro ⟨hwrites, hroute⟩
    cases a with
    | readRegister _ | readBlock _ _ | fill _ _ => exact hwrites rfl
    | writeRegister _ _ => exact user_ne_toCard hdistinct h hroute
    | writeBlock _ _ | send _ _ _ => exact absurd hstep.symm Bool.false_ne_true

/-- With such a node, bulk writes do not go to the register node. -/
theorem stepTarget_ne_user (h : w.toCard = some p) {step : CardUse}
    (hstep : step.isBlockWrite = true) : w.stepTarget step ≠ some w.user := by
  have hbulk : w.toCard.getD w.user ≠ w.user := by
    rw [h]
    exact (user_ne_toCard hdistinct h).symm
  cases step with
  | close => exact absurd hstep Bool.false_ne_true
  | access a =>
    rw [stepTarget, Ne, target_eq_some_iff]
    rintro ⟨-, hroute⟩
    cases a with
    | writeBlock _ _ | send _ _ _ => exact hbulk hroute
    | readRegister _ | writeRegister _ _ | readBlock _ _ | fill _ _ =>
      exact absurd hstep Bool.false_ne_true

end Distinct

/-! ## Contents, step by step -/

theorem contentAfter_congr {run run' : List CardUse} (h : CardUse.live run = CardUse.live run')
    (p : Place) :
    w.contentAfter initial run p = w.contentAfter initial run' p := by
  rw [contentAfter, writesTo, h]
  rfl

theorem contentAfter_concat_of_ne (hopen : past.any CardUse.isClose = false) {a : Access}
    {p : Place} (h : w.target a ≠ some p) :
    w.contentAfter initial (past ++ [.access a]) p = w.contentAfter initial past p := by
  have hnone : [a].filter (fun a => w.target a = some p) = [] := by
    rw [List.filter_cons_of_neg (by rw [decide_eq_true_eq]; exact h), List.filter_nil]
  rw [contentAfter, writesTo, CardUse.live_concat_access hopen, List.filter_append, hnone,
    List.append_nil]
  rfl

/-- The file that an access goes to holds what the access makes of it, be it nothing new. -/
theorem contentAfter_concat_route (hopen : past.any CardUse.isClose = false) (a : Access) :
    w.contentAfter initial (past ++ [.access a]) (w.route a) =
      a.overwrite (w.contentAfter initial past (w.route a)) := by
  by_cases h : w.target a = some (w.route a)
  · have hone : [a].filter (fun b => w.target b = some (w.route a)) = [a] := by
      rw [List.filter_cons_of_pos (by rw [decide_eq_true_eq]; exact h), List.filter_nil]
    rw [contentAfter, writesTo, CardUse.live_concat_access hopen, List.filter_append, hone,
      Access.bytesAfter_concat]
    rfl
  · rw [contentAfter_concat_of_ne hopen h, Access.overwrite, written?_eq_none_of_target_ne h]

/-! ## Opening -/

/-- The open nodes at some paths, if these are their files. -/
def transport (w : Wiring) (paths : NodePaths) : Transport where
  user := some ⟨paths.user, w.user⟩
  toCard := .map₂ .mk paths.toCard w.toCard
  toHost := .map₂ .mk paths.toHost w.toHost

section Opening

variable {fs : Files} {paths : NodePaths} {path? : Option String} {place? : Option Place}

theorem yields_openNode?
    (h : Option.Rel (fun path place => fs.openNode path = .ok place) path? place?) :
    (Transport.openNode? path?).Yields fs (.ok (.map₂ .mk path? place?)) fs := by
  cases h with
  | some hopen => exact (Transport.yields_openNode hopen).bind (yields_pure _ fs)
  | none => exact yields_pure _ fs

theorem file_map₂_mk
    (h : Option.Rel (fun path place => fs.openNode path = .ok place) path? place?) :
    (Option.map₂ Node.mk path? place?).map Node.file = place? := by
  cases h <;> rfl

theorem Opens.yields_openNodes (h : w.Opens fs paths) :
    (Transport.openNodes paths).Yields fs (.ok (w.transport paths)) fs :=
  (Transport.yields_openNode h.user).bind
    ((yields_openNode? h.toCard).bind
      ((yields_openNode? h.toHost).bind (yields_pure _ fs)))

theorem Opens.carries (h : w.Opens fs paths) : w.Carries (w.transport paths) :=
  ⟨rfl, file_map₂_mk h.toCard, file_map₂_mk h.toHost⟩

theorem Opens.exists_yields_openNodes (h : w.Opens fs paths) :
    ∃ t, (Transport.openNodes paths).Yields fs (.ok t) fs ∧ w.Carries t :=
  ⟨_, h.yields_openNodes, h.carries⟩

end Opening

/-- The node that an access goes to is the file that it is routed to. -/
theorem Carries.exists_nodeOf?_eq {t : Transport} (h : w.Carries t) (a : Access) :
    ∃ node, t.nodeOf? a = some node ∧ node.file = w.route a := by
  obtain ⟨user, huser, hfile⟩ := Option.map_eq_some_iff.mp h.user
  -- both sides fall back on the register node, and in the same case
  have hbulk {bulk : Option Node} {place : Option Place} (hb : bulk.map Node.file = place) :
      ∃ node, bulk.or t.user = some node ∧ node.file = place.getD w.user := by
    subst hb
    cases bulk with
    | none => exact ⟨user, huser, hfile⟩
    | some node => exact ⟨node, rfl, rfl⟩
  cases a with
  | readRegister _ | writeRegister _ _ => exact ⟨user, huser, hfile⟩
  | readBlock _ _ | fill _ _ => exact hbulk h.toHost
  | writeBlock _ _ | send _ _ _ => exact hbulk h.toCard

/-! ## Runs on an open card -/

/-- A card after a run: every file of the wiring holds what the writes routed to it make of it, and
no other file changed. -/
structure Followed (w : Wiring) (initial : Place → List UInt8) (fs : Files) (past : List CardUse)
    (a : Attached Files) : Prop where
  /-- Until it is closed, the card has its nodes. -/
  carries : past.any CardUse.isClose = false → w.Carries a.transport
  /-- Then it has none. -/
  closed : past.any CardUse.isClose = true → a.transport = .closed
  /-- The files of the wiring. -/
  consists : ∀ p ∈ w.places, a.system.Consists p (w.contentAfter initial past p)
  /-- All files to which nothing was written. -/
  get?_eq : ∀ q, (∀ access ∈ CardUse.live past, w.target access ≠ some q) →
    a.system.get? q = fs.get? q

/-- The files before and after a step. -/
structure Touches (w : Wiring) (step : CardUse) (fs fs' : Files) : Prop where
  /-- Only the target of the step changes. -/
  get?_eq : ∀ q, w.stepTarget step ≠ some q → fs'.get? q = fs.get? q
  /-- If the step has no target, then nothing changes. -/
  eq_of_stepTarget_eq_none : w.stepTarget step = none → fs' = fs

theorem Touches.refl (w : Wiring) (step : CardUse) (fs : Files) : w.Touches step fs fs :=
  ⟨fun _ _ => rfl, fun _ => rfl⟩

/-- An access to the file that it is routed to changes no more than its target. -/
theorem touches_of_accessed {fs fs' : Files} {bytes : List UInt8} {a : Access}
    (h : Files.Accessed fs fs' (w.route a) bytes a) : w.Touches (.access a) fs fs' where
  get?_eq q hq := by
    by_cases hplace : q = w.route a
    · subst hplace
      rw [h.eq_of_written?_eq_none (written?_eq_none_of_target_ne hq)]
    · exact h.get?_eq q hplace
  eq_of_stepTarget_eq_none hnone :=
    h.eq_of_written?_eq_none (Option.map_eq_none_iff.mp hnone)

namespace Followed

variable {fs : Files} {a : Attached Files}

/-- A step that leaves the live accesses as they are, and the files too. -/
theorem concat_of_live_eq (h : w.Followed initial fs past a) {step : CardUse} {t : Transport}
    (hlive : CardUse.live (past ++ [step]) = CardUse.live past)
    (hclosed : (past ++ [step]).any CardUse.isClose = true) (ht : t = .closed) :
    w.Followed initial fs (past ++ [step]) ⟨t, a.system⟩ where
  carries hopen := absurd (hopen.symm.trans hclosed) Bool.false_ne_true
  closed _ := ht
  consists p hp := by
    rw [contentAfter_congr hlive]
    exact h.consists p hp
  get?_eq q hq := h.get?_eq q (by rwa [hlive] at hq)

/-- An access to an open card, whose file was accessed. -/
theorem concat_of_accessed (h : w.Followed initial fs past a)
    (hopen : past.any CardUse.isClose = false) {x : Access} {fs' : Files}
    (hfs : Files.Accessed a.system fs' (w.route x) (w.contentAfter initial past (w.route x)) x) :
    w.Followed initial fs (past ++ [.access x]) { a with system := fs' } where
  carries _ := h.carries hopen
  closed hclosed := by
    rw [CardUse.any_isClose_concat_access, hopen] at hclosed
    exact absurd hclosed Bool.false_ne_true
  consists p hp := by
    by_cases hplace : p = w.route x
    · rw [hplace, contentAfter_concat_route hopen]
      exact hfs.consists
    · have hother : w.target x ≠ some p := fun htarget =>
        hplace (target_eq_some_iff.mp htarget).2.symm
      rw [contentAfter_concat_of_ne hopen hother]
      exact (h.consists p hp).of_get?_eq (hfs.get?_eq p hplace)
  get?_eq q hq := by
    rw [CardUse.live_concat_access hopen] at hq
    have hlast : w.target x ≠ some q := hq x (List.mem_append_right _ List.mem_cons_self)
    have hpast := h.get?_eq q fun y hy => hq y (List.mem_append_left _ hy)
    exact ((touches_of_accessed hfs).get?_eq q hlast).trans hpast

/-- **One step.**  It gets its reply, keeps the invariant, and changes only its target. -/
theorem exists_yields_perform (h : w.Followed initial fs past a) (step : CardUse) :
    ∃ b, step.perform.Yields a (w.replyAfter initial past step) b ∧
      w.Followed initial fs (past ++ [step]) b ∧ w.Touches step a.system b.system := by
  cases step with
  | close =>
    have hclosed : (past ++ [CardUse.close]).any CardUse.isClose = true := by
      rw [List.any_append]
      exact Bool.or_true _
    exact ⟨_, (Attached.yields_close a).map _,
      h.concat_of_live_eq (CardUse.live_concat_close past) hclosed rfl, Touches.refl w _ _⟩
  | access x =>
    cases hany : past.any CardUse.isClose with
    | true =>
      -- the state is the one that the close left, so the step adds nothing to the live accesses
      have hinert := (Attached.inert (h.closed hany)).yields_access x
      have hreply : w.replyAfter initial past (.access x) = x.replyWhenClosed := if_pos hany
      rw [hreply]
      exact ⟨a, hinert, h.concat_of_live_eq (CardUse.live_concat_of_closed hany _)
        ((CardUse.any_isClose_concat_access past x).trans hany) (h.closed hany), Touches.refl w _ _⟩
    | false =>
      obtain ⟨node, hnode, hfile⟩ := (h.carries hany).exists_nodeOf?_eq x
      have hcontent := h.consists (w.route x) (w.route_mem_places x)
      -- the card speaks of the file of the node, the wiring of the place that the access goes to
      rw [← hfile] at hcontent
      obtain ⟨fs', hrun, hfs⟩ := Attached.exists_yields_perform hnode hcontent
      rw [hfile] at hrun hfs
      have hreply : w.replyAfter initial past (.access x) =
          x.replyFrom (w.contentAfter initial past (w.route x)) :=
        if_neg (by rw [hany]; exact Bool.false_ne_true)
      rw [hreply]
      exact ⟨_, hrun, h.concat_of_accessed hany hfs, touches_of_accessed hfs⟩

end Followed

theorem target_ne_of_notMem {q : Place} (hq : q ∉ w.places) (a : Access) :
    w.target a ≠ some q := by
  intro htarget
  obtain ⟨-, rfl⟩ := target_eq_some_iff.mp htarget
  exact hq (w.route_mem_places a)

end Wiring

/-- **Every access goes to its own node and to no other.**  A card is opened on nodes that are
different regular files, with or without bulk nodes.  After any run, and one more step:

* every file holds its first bytes with the writes that were routed to it put over them, and the
  step gets the reply that the content of its own file gives, or after a close that of a closed card;
* the step changes no file but its target, and none if it has no target;
* the node for transfers to the host, and any file that is no node, is as it was when all began;
* a node for transfers to the card changes only through bulk writes, and these do not change the
  register node then. -/
theorem accesses_reach_their_own_nodes {w : Wiring} {fs : Files} {paths : NodePaths}
    {initial : Place → List UInt8} (hopens : w.Opens fs paths) (hdistinct : w.places.Nodup)
    (hfiles : ∀ p ∈ w.places, fs.Consists p (initial p)) (past : List CardUse) (step : CardUse) :
    ∃ (transport : Transport) (replies : List Reply) (a b : Attached Files),
      (Transport.openNodes paths).Yields fs (.ok transport) fs ∧
      (past.mapM CardUse.perform).Yields ⟨transport, fs⟩ replies a ∧
      step.perform.Yields a (w.replyAfter initial past step) b ∧
      (∀ p ∈ w.places, a.system.Consists p (w.contentAfter initial past p) ∧
        b.system.Consists p (w.contentAfter initial (past ++ [step]) p)) ∧
      (∀ q, w.stepTarget step ≠ some q → b.system.get? q = a.system.get? q) ∧
      (w.stepTarget step = none → b.system = a.system) ∧
      (∀ q, q ∉ w.places ∨ w.toHost = some q → b.system.get? q = fs.get? q) ∧
      ∀ p, w.toCard = some p →
        (step.isBlockWrite = false → b.system.get? p = a.system.get? p) ∧
        (step.isBlockWrite = true → b.system.get? w.user = a.system.get? w.user) := by
  obtain ⟨transport, hopen, hcarries⟩ := hopens.exists_yields_openNodes
  have hstart : w.Followed initial fs [] ⟨transport, fs⟩ :=
    ⟨fun _ => hcarries, fun h => absurd h Bool.false_ne_true, hfiles, fun _ _ => rfl⟩
  obtain ⟨replies, a, hpast, ha⟩ := exists_yields_mapM
    (P := fun past (a : Attached Files) => w.Followed initial fs past a) hstart
    (fun past x u hu => by
      obtain ⟨t, hx, ht, -⟩ := hu.exists_yields_perform x
      exact ⟨_, t, hx, ht⟩) past
  obtain ⟨b, hstep, hb, htouches⟩ := ha.exists_yields_perform step
  refine ⟨transport, replies, a, b, hopen, hpast, hstep, ?_, htouches.get?_eq,
    htouches.eq_of_stepTarget_eq_none, ?_, ?_⟩
  · intro p hp
    exact ⟨ha.consists p hp, hb.consists p hp⟩
  · rintro q (hq | hq)
    · exact hb.get?_eq q fun access _ => Wiring.target_ne_of_notMem hq access
    · exact hb.get?_eq q fun access _ => Wiring.target_ne_toHost hdistinct hq access
  · intro p hp
    refine ⟨fun hwrite => ?_, fun hwrite => ?_⟩
    · exact htouches.get?_eq p (Wiring.stepTarget_ne_toCard hdistinct hp hwrite)
    · exact htouches.get?_eq w.user (Wiring.stepTarget_ne_user hdistinct hp hwrite)

/-- A host with a card of three nodes, which are files of their own. -/
def Files.withThreeNodes : Files :=
  (((Files.fresh "work").set
    ["work", "io"] { kind := .regular (.ofBytes ⟨#[1, 2, 3, 4]⟩) }).set
    ["work", "tx"] { kind := .regular (.ofBytes ⟨#[5, 6]⟩) }).set
    ["work", "rx"] { kind := .regular (.ofBytes ⟨#[7, 8]⟩) }

theorem Files.openNode_withThreeNodes :
    withThreeNodes.openNode "io" = .ok ["work", "io"] ∧
    withThreeNodes.openNode "tx" = .ok ["work", "tx"] ∧
    withThreeNodes.openNode "rx" = .ok ["work", "rx"] := by
  refine ⟨?_, ?_, ?_⟩ <;> cbv

/-- A register and a block are written at the same offset, and a block is read from there. -/
theorem accesses_reach_their_own_nodes_at_one_offset :
    let w : Wiring := ⟨["work", "io"], some ["work", "tx"], some ["work", "rx"]⟩
    let paths : NodePaths := ⟨"io", some "tx", some "rx"⟩
    w.Opens .withThreeNodes paths ∧ w.places.Nodup ∧
    Files.withThreeNodes.Consists ["work", "io"] [1, 2, 3, 4] ∧
    Files.withThreeNodes.Consists ["work", "tx"] [5, 6] ∧
    Files.withThreeNodes.Consists ["work", "rx"] [7, 8] ∧
    ∃ (transport : Transport) (replies : List Reply) (a b : Attached Files),
      (Transport.openNodes paths).Yields .withThreeNodes (.ok transport) .withThreeNodes ∧
      ([.access (.writeRegister 1 0xD0C0B0A0), .access (.writeBlock ⟨#[0xEE]⟩ 1)].mapM
        CardUse.perform).Yields ⟨transport, .withThreeNodes⟩ replies a ∧
      (CardUse.access (.readBlock [0] 1)).perform.Yields a (.received [8] (.ok ())) b ∧
      b.system.Consists ["work", "io"] [1, 0xA0, 0xB0, 0xC0, 0xD0] ∧
      b.system.Consists ["work", "tx"] [5, 0xEE] ∧ b.system.Consists ["work", "rx"] [7, 8] := by
  intro w paths
  let initial : Place → List UInt8 := fun p =>
    if p = ["work", "io"] then [1, 2, 3, 4] else if p = ["work", "tx"] then [5, 6] else [7, 8]
  obtain ⟨hopenUser, hopenDown, hopenUp⟩ := Files.openNode_withThreeNodes
  have hopens : w.Opens .withThreeNodes paths := ⟨hopenUser, .some hopenDown, .some hopenUp⟩
  have hdistinct : w.places.Nodup := by decide
  have huser : Files.withThreeNodes.Consists ["work", "io"] [1, 2, 3, 4] :=
    Files.consists_of_get?_eq rfl
  have hdown : Files.withThreeNodes.Consists ["work", "tx"] [5, 6] := Files.consists_of_get?_eq rfl
  have hup : Files.withThreeNodes.Consists ["work", "rx"] [7, 8] := Files.consists_of_get?_eq rfl
  have hfiles : ∀ p ∈ w.places, Files.withThreeNodes.Consists p (initial p) := by
    intro p hp
    rcases List.mem_cons.mp hp with rfl | hp
    · exact huser
    rcases List.mem_cons.mp hp with rfl | hp
    · exact hdown
    · rw [List.mem_singleton.mp hp]
      exact hup
  obtain ⟨transport, replies, a, b, hopen, hpast, hstep, hcontent, -⟩ :=
    accesses_reach_their_own_nodes hopens hdistinct hfiles
      [.access (.writeRegister 1 0xD0C0B0A0), .access (.writeBlock ⟨#[0xEE]⟩ 1)]
      (.access (.readBlock [0] 1))
  exact ⟨hopens, hdistinct, huser, hdown, hup, transport, replies, a, b, hopen, hpast, hstep,
    (hcontent ["work", "io"] (by decide)).2, (hcontent ["work", "tx"] (by decide)).2,
    (hcontent ["work", "rx"] (by decide)).2⟩

end RadioFrontEnd
