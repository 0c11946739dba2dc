import RadioFrontEnd.Proofs.Yaml.Record
import RadioFrontEnd.Yaml.Document

/-!
# The node of a written record

From the tokens of a record, the parser makes a node.  `Outline.IsNode` says which nodes an outline
may become: the scalars keep their style and text, and nothing is said about marks, which matter only
to what is told about failures.

The parser has a bound on its depth, which each call lowers by one.  A call needs no more than the
number of tokens that it takes, and that is all `ReadsAsNode` and `ReadAsEntries` ask for; the bound
that a document starts with is four times the number of all its tokens.
-/

namespace RadioFrontEnd.Yaml

/-- The node is a scalar in a style, with a text and nothing more. -/
def Node.IsScalar (node : Node) (style : ScalarStyle) (s : String) : Prop :=
  ∃ mark, node = .scalar ⟨mark, none, none⟩ style s

namespace Outline

mutual

/-- The node is what the value is written for. -/
def IsNode : Outline → Node → Prop
  | scalar style text, node => node.IsScalar style text
  | record _ entries, node =>
    ∃ mark nodes, node = .mapping ⟨mark, none, none⟩ nodes ∧ AreEntries entries nodes

/-- The entries of a mapping are what the entries of a record are written for. -/
def AreEntries : List (String × Outline) → List (Node × Node) → Prop
  | [], nodes => nodes = []
  | (key, value) :: entries, nodes =>
    ∃ keyNode valueNode rest, nodes = (keyNode, valueNode) :: rest ∧
      keyNode.IsScalar .plain key ∧ value.IsNode valueNode ∧ AreEntries entries rest

end

end Outline

namespace Document

variable {r : Reading} {n : Nat}

theorem run_bind {α β : Type} (m : Reader α) (f : α → Reader β) (r : Reading) :
    (m >>= f).run r = (f (m.run r).1).run (m.run r).2 := rfl

theorem run_pure {α : Type} (x : α) (r : Reading) : (pure x : Reader α).run r = (x, r) := rfl

theorem run_skip (r : Reading) (t : Token) (ts : List Token) :
    skip.run { r with tokens := t :: ts } = ((), { r with tokens := ts }) := rfl

theorem run_next? (h : r.failure = none) (t : Token) (ts : List Token) :
    next?.run { r with tokens := t :: ts } = (some t, { r with tokens := t :: ts }) := by
  show next? { r with tokens := t :: ts } = _
  simp only [next?, h]

theorem readNode_scalar (h : r.failure = none) (setting : Setting) (style : ScalarStyle)
    (s : String) (mark : Mark) (ts : List Token) :
    (readNode (n + 1) setting).run { r with tokens := ⟨.scalar style s, mark⟩ :: ts } =
      (.scalar ⟨mark, none, none⟩ style s, { r with tokens := ts }) := by
  cases setting <;>
    simp only [readNode, readProperties, readAnchor, readTag, resolveTag, number, run_next? h,
      run_bind, run_pure] <;>
    rfl

/-- What a block mapping is, once its entries are read. -/
theorem readNode_mapping (h : r.failure = none) {setting : Setting} (hsetting : setting ≠ .flow)
    (mark : Mark) (ts : List Token) :
    (readNode (n + 1) setting).run { r with tokens := ⟨.blockMappingStart, mark⟩ :: ts } =
      (.mapping ⟨mark, none, none⟩ ((readBlockEntries n).run { r with tokens := ts }).1,
        ((readBlockEntries n).run { r with tokens := ts }).2) := by
  cases setting with
  | flow => exact absurd rfl hsetting
  | block | entry =>
    simp only [readNode, readProperties, readAnchor, readTag, resolveTag, number, run_next? h,
      run_bind, run_pure]
    rfl

theorem readUnless_eq (h : r.failure = none) (setting : Setting) {kinds : List TokenKind}
    (place : Option Mark) {t : Token} (ht : kinds.contains t.kind = false) (ts : List Token) :
    (readUnless (n + 1) setting kinds place).run { r with tokens := t :: ts } =
      (readNode n setting).run { r with tokens := t :: ts } := by
  simp only [readUnless, run_bind, run_next? h, ht, Bool.false_eq_true, if_false]

/-- The value of a key of a block mapping, behind its colon. -/
theorem readBlockValue_eq (h : r.failure = none) {t : Token}
    (ht : [TokenKind.key, .value, .blockEnd].contains t.kind = false) (mark : Mark)
    (ts : List Token) :
    (readBlockValue (n + 2)).run { r with tokens := ⟨.value, mark⟩ :: t :: ts } =
      (readNode n .entry).run { r with tokens := t :: ts } := by
  simp only [readBlockValue, run_bind, run_next? h, run_skip]
  exact readUnless_eq h .entry _ ht ts

theorem readBlockEntries_end (h : r.failure = none) (mark : Mark) (ts : List Token) :
    (readBlockEntries (n + 1)).run { r with tokens := ⟨.blockEnd, mark⟩ :: ts } =
      ([], { r with tokens := ts }) := by
  simp only [readBlockEntries, run_bind, run_next? h, run_skip, run_pure]

/-- An entry of a block mapping whose key is a scalar, once its value and the entries after it are
read. -/
theorem readBlockEntries_key (h : r.failure = none) (style : ScalarStyle) (key : String)
    {t : Token} (ht : [TokenKind.key, .value, .blockEnd].contains t.kind = false)
    (m₁ m₂ m₃ : Mark) (ts : List Token) :
    (readBlockEntries (n + 3)).run
        { r with tokens := ⟨.key, m₁⟩ :: ⟨.scalar style key, m₂⟩ :: ⟨.value, m₃⟩ :: t :: ts } =
      let value := (readNode n .entry).run { r with tokens := t :: ts }
      let entries := (readBlockEntries (n + 2)).run value.2
      ((.scalar ⟨m₂, none, none⟩ style key, value.1) :: entries.1, entries.2) := by
  have hkey : [TokenKind.key, .value, .blockEnd].contains (.scalar style key) = false := by
    simp
  rw [readBlockEntries]
  simp only [run_bind, run_next? h, run_skip, run_pure]
  have hread := (readUnless_eq h .entry (some (Token.after ⟨.key, m₁⟩)) hkey
    (⟨.value, m₃⟩ :: t :: ts)).trans (readNode_scalar h (n := n) .entry style key m₂ _)
  rw [hread, readBlockValue_eq h ht]

/-! ## The node of a written record -/

/-- The first token of a value ends no mapping and starts no entry. -/
theorem exists_kinds_eq_cons (o : Outline) :
    ∃ kind kinds, o.kinds = kind :: kinds ∧
      [TokenKind.key, .value, .blockEnd].contains kind = false := by
  cases o <;> exact ⟨_, _, rfl, by simp⟩

/-- From the tokens of a value, and whatever comes after them, its node is read. -/
def ReadsAsNode (o : Outline) : Prop :=
  ∀ {r : Reading} {ts : List Token} {rest : List TokenKind} {n : Nat} {setting : Setting},
    r.failure = none → ts.map (·.kind) = o.kinds ++ rest → o.kinds.length ≤ n → setting ≠ .flow →
    ∃ node us, (readNode n setting).run { r with tokens := ts } = (node, { r with tokens := us }) ∧
      us.map (·.kind) = rest ∧ o.IsNode node

/-- From the tokens of the entries of a record, with the end after them, their nodes are read. -/
def ReadAsEntries (entries : List (String × Outline)) : Prop :=
  ∀ {r : Reading} {ts : List Token} {rest : List TokenKind} {n : Nat},
    r.failure = none → ts.map (·.kind) = Outline.entryKinds entries ++ .blockEnd :: rest →
    (Outline.entryKinds entries).length + 1 ≤ n →
    ∃ nodes us, (readBlockEntries n).run { r with tokens := ts } =
        (nodes, { r with tokens := us }) ∧
      us.map (·.kind) = rest ∧ Outline.AreEntries entries nodes

theorem readsAsNode_scalar (style : ScalarStyle) (text : String) :
    ReadsAsNode (.scalar style text) := by
  intro r ts rest n setting hr hts hn _
  rw [Outline.kinds] at hts hn
  obtain ⟨⟨_, mark⟩, us, rfl, ⟨⟩, hus⟩ := List.map_eq_cons_iff.mp hts
  obtain ⟨n, rfl⟩ := Nat.exists_eq_add_of_le' hn
  exact ⟨_, us, readNode_scalar hr setting style text mark us, hus, mark, rfl⟩

theorem ReadAsEntries.record {entries : List (String × Outline)} (h : ReadAsEntries entries)
    (depth : Nat) : ReadsAsNode (.record depth entries) := by
  intro r ts rest n setting hr hts hn hsetting
  rw [Outline.kinds, List.append_assoc] at hts
  rw [Outline.kinds, List.length_append, List.length_cons, List.length_singleton] at hn
  obtain ⟨⟨_, mark⟩, vs, rfl, ⟨⟩, hvs⟩ := List.map_eq_cons_iff.mp hts
  obtain ⟨n, rfl⟩ := Nat.exists_eq_add_of_le' (Nat.le_trans (Nat.succ_le_succ (Nat.zero_le _)) hn)
  obtain ⟨nodes, us, hread, hus, hnodes⟩ := h hr hvs (Nat.le_of_succ_le_succ hn)
  refine ⟨.mapping ⟨mark, none, none⟩ nodes, us, ?_, hus, mark, nodes, rfl, hnodes⟩
  rw [readNode_mapping hr hsetting, hread]

theorem reads : (∀ o, ReadsAsNode o) ∧ ∀ entries, ReadAsEntries entries := by
  refine Outline.induction readsAsNode_scalar (fun depth entries h => h.record depth) ?_ ?_
  · intro r ts rest n hr hts hn
    obtain ⟨⟨_, mark⟩, us, rfl, ⟨⟩, hus⟩ := List.map_eq_cons_iff.mp hts
    obtain ⟨n, rfl⟩ := Nat.exists_eq_add_of_le' hn
    exact ⟨[], us, readBlockEntries_end hr mark us, hus, rfl⟩
  · intro key value entries hvalue hentries r ts rest n hr hts hn
    simp only [Outline.entryKinds, List.cons_append, List.append_assoc] at hts
    simp only [Outline.entryKinds, List.length_append, List.length_cons] at hn
    obtain ⟨⟨_, m₁⟩, ts₁, rfl, ⟨⟩, hts₁⟩ := List.map_eq_cons_iff.mp hts
    obtain ⟨⟨_, m₂⟩, ts₂, rfl, ⟨⟩, hts₂⟩ := List.map_eq_cons_iff.mp hts₁
    obtain ⟨⟨_, m₃⟩, ts₃, rfl, ⟨⟩, hts₃⟩ := List.map_eq_cons_iff.mp hts₂
    obtain ⟨n, rfl⟩ := Nat.exists_eq_add_of_le' (show 3 ≤ n by omega)
    obtain ⟨valueNode, us, hread, hus, hnode⟩ :=
      hvalue hr hts₃ (show value.kinds.length ≤ n by omega) (show Setting.entry ≠ .flow by decide)
    obtain ⟨nodes, vs, hread', hvs, hnodes⟩ := hentries (n := n + 2) hr hus (by omega)
    -- The key is told from a missing value by the first token of the value.
    obtain ⟨kind, kinds, hkinds, hkind⟩ := exists_kinds_eq_cons value
    rw [hkinds] at hts₃
    obtain ⟨t, ts, rfl, ht, -⟩ := List.map_eq_cons_iff.mp hts₃
    refine ⟨_, vs, ?_, hvs, .scalar ⟨m₂, none, none⟩ .plain key, valueNode, nodes, rfl,
      ⟨m₂, rfl⟩, hnode, hnodes⟩
    rw [readBlockEntries_key hr .plain key (by rw [ht]; exact hkind)]
    simp only [hread, hread']

/-- A document that starts with a block mapping has no directives. -/
theorem readRoot_mapping (h : r.failure = none) (mark : Mark) (ts : List Token) :
    (readRoot n).run { r with tokens := ⟨.blockMappingStart, mark⟩ :: ts } =
      let x := (readNode n .block).run
        { r with tokens := ⟨.blockMappingStart, mark⟩ :: ts, handles := standardHandles }
      (some x.1, x.2) := by
  simp only [readRoot, run_bind, run_next? h, run_pure]
  rfl

/-- The document, once its root has been read. -/
def taken (x : Option Node × Reading) : Document :=
  let (_, r) := next?.run x.2
  { root := x.1, failure := r.failure, isFollowed := !endsText r.tokens }

/-- **The document of a written record**: its root is the node of the record, nothing goes wrong
and nothing follows. -/
theorem ofText_render {entries : List (String × Outline)} (hne : entries ≠ [])
    (h : Outline.AreLegible entries) (depth : Nat) :
    ∃ root, ofText (Outline.render entries) = ⟨some root, none, false⟩ ∧
      (Outline.record depth entries).IsNode root := by
  obtain ⟨-, hkinds⟩ := Outline.tokens_render hne h depth
  obtain ⟨⟨_, first⟩, ts, htokens, ⟨⟩, -⟩ := List.map_eq_cons_iff.mp hkinds
  have hlength : (Outline.record depth entries).kinds.length ≤
      4 * (tokens (Outline.render entries).toList).tokens.length + 4 := by
    have hall := congrArg List.length hkinds
    rw [List.length_map, List.length_append] at hall
    omega
  let r : Reading :=
    { tokens := []
      ending := (tokens (Outline.render entries).toList).failure.getD ⟨.missingNode, {}⟩
      failure := none
      handles := []
      anchors := [] }
  have hr : r.failure = none := rfl
  have hr' : { r with handles := standardHandles }.failure = none := rfl
  obtain ⟨root, us, hread, hus, hroot⟩ := reads.1 (.record depth entries) hr' hkinds hlength
    (show Setting.block ≠ .flow by decide)
  obtain ⟨⟨_, last⟩, us, rfl, ⟨⟩, hnil⟩ := List.map_eq_cons_iff.mp hus
  rw [List.map_eq_nil_iff] at hnil
  subst hnil
  rw [htokens] at hread
  have hrun := (readRoot_mapping hr first ts).trans
    (congrArg (fun x : Node × Reading => (some x.1, x.2)) hread)
  refine ⟨root, ?_, hroot⟩
  calc ofText (Outline.render entries)
      = taken ((readRoot (4 * (tokens (Outline.render entries).toList).tokens.length + 4)).run
          { r with tokens := (tokens (Outline.render entries).toList).tokens }) := rfl
    _ = taken (some root, { r with tokens := [⟨.streamEnd, last⟩], handles := standardHandles })
        := by
        rw [htokens]
        exact congrArg taken hrun
    _ = ⟨some root, none, false⟩ := rfl

end Document
end RadioFrontEnd.Yaml
