import Mathlib.Data.List.TakeWhile
import RadioFrontEnd.Proofs.Yaml.Scalar
import RadioFrontEnd.Yaml.Scan

/-!
# The scanner on the lines of a record

A scanner carries a lot: the columns of the open blocks, a word that may turn out to be a key, and
whether a key may start where it stands.  A key is known as one only at its colon, and a block as
over only at the next token.  A law of whole scans that spoke of all this would have to be carried
through every kind of line.

A record needs two places.  `AtLine` says that the scanner stands before the first token of a line,
and `AtValue` that it stands right behind the colon of a key.  Each says which text is left, which
blocks are open and which kinds of tokens there are so far.

## Where a line starts

`AtLine` does not say where the cursor is.  A plain scalar ends where the next line turns out not to
be indented enough, so its reader has passed the indentation of that line; the reader of a quoted
scalar stops at the quote.  What the two have in common is the token that the spaces lead to, and
that is what `AtLine` fixes.

Nor does it say that the blocks which end before the line are closed.  They are closed when the next
token is looked at, all at once.  `AtLine` counts their ends as there already, so that a record in a
record ends without a step of the scanner (`AtLine.close`).

## From place to place

A key leads from a line to its value: `AtLine.exists_key` for a further key of a block and
`AtLine.exists_first_key` for one that opens a block.  A value leads to the next line:
`AtValue.exists_scalar` for a scalar and `AtValue.atLine` for a record, which starts there.  At the
end of the text, `AtLine.run_eq` tells the whole scan.
-/

namespace RadioFrontEnd.Yaml

theorem ok_bind {ε α β : Type} (x : α) (f : α → Except ε β) : (Except.ok x >>= f) = f x := rfl

/-! ## Indentation -/

/-- The number of spaces with which a text starts. -/
def indentation (text : List Char) : Nat := (text.takeWhile (· == ' ')).length

/-- A text without the spaces with which it starts. -/
def unindented (text : List Char) : List Char := text.dropWhile (· == ' ')

theorem IsFlush.head?_ne_space {cs : List Char} (h : IsFlush cs) : cs.head? ≠ some ' ' :=
  fun hspace => absurd (h ' ' hspace).1 (by decide)

theorem takeWhile_space_of_isFlush {cs : List Char} (h : IsFlush cs) :
    cs.takeWhile (· == ' ') = [] := by
  cases cs with
  | nil => rfl
  | cons c cs =>
    have hc : (c == ' ') = false := beq_false_of_ne fun hspace => by
      rw [hspace] at h
      exact h.head?_ne_space rfl
    rw [List.takeWhile_cons, hc]
    rfl

theorem indentation_blanks_append {rest : List Char} (h : IsFlush rest) (n : Nat) :
    indentation (Written.blanks n ++ rest) = n := by
  rw [indentation, Written.blanks, List.takeWhile_append_of_pos, List.length_append,
    takeWhile_space_of_isFlush h]
  · simp
  · intro c hc
    rw [List.eq_of_mem_replicate hc]
    rfl

theorem blanks_indentation_append (text : List Char) :
    Written.blanks (indentation text) ++ unindented text = text := by
  have hblanks : text.takeWhile (· == ' ') = Written.blanks (indentation text) :=
    List.eq_replicate_iff.mpr ⟨rfl, fun c hc => by simpa using List.mem_takeWhile_imp hc⟩
  rw [← hblanks, unindented]
  exact List.takeWhile_append_dropWhile

theorem unindented_blanks_append {rest : List Char} (h : IsFlush rest) (n : Nat) :
    unindented (Written.blanks n ++ rest) = rest := by
  have htext := blanks_indentation_append (Written.blanks n ++ rest)
  rw [indentation_blanks_append h] at htext
  exact List.append_cancel_left htext

namespace Scanner

/-! ## Spaces -/

theorem length_passSpaces_le (inFlow inComment keyAllowed : Bool) (cs : List Char) (mark : Mark) :
    (passSpaces inFlow inComment keyAllowed cs mark).1.rest.length ≤ cs.length := by
  fun_induction passSpaces inFlow inComment keyAllowed cs mark <;>
    simp only [List.length_cons, List.length_nil] <;> omega

theorem passSpaces_of_isFlush {cs : List Char} (h : IsFlush cs) (keyAllowed : Bool) (mark : Mark) :
    passSpaces false false keyAllowed cs mark = (⟨cs, mark⟩, keyAllowed) := by
  cases cs with
  | nil => rfl
  | cons c cs =>
    obtain ⟨hspace, hcomment⟩ := h c rfl
    rw [isSpace, isBlank, Bool.or_eq_false_iff, Bool.or_eq_false_iff] at hspace
    rw [passSpaces, hspace.2, hspace.1.1, hspace.1.2]
    · simp [hcomment]
    · exact fun _ hc _ => ne_return_of_not_isBreak hspace.2 hc

theorem passSpaces_blanks (keyAllowed : Bool) (n : Nat) (rest : List Char) (mark : Mark) :
    passSpaces false false keyAllowed (Written.blanks n ++ rest) mark =
      passSpaces false false keyAllowed rest (mark.advance n) := by
  induction n generalizing mark with
  | zero => rfl
  | succ n ih =>
    have hstep : passSpaces false false keyAllowed (' ' :: (Written.blanks n ++ rest)) mark =
        passSpaces false false keyAllowed (Written.blanks n ++ rest) (mark.advance 1) := by
      rw [passSpaces]
      · rfl
      · exact fun _ hc _ => absurd hc (by decide)
    rw [Written.blanks, List.replicate_succ, List.cons_append, Nat.add_comm n,
      ← Mark.advance_advance]
    exact hstep.trans (ih (mark.advance 1))

/-- A line break allows a key behind the indentation of the next line. -/
theorem passSpaces_line {text : List Char} (h : IsFlush (unindented text)) (keyAllowed : Bool)
    (mark : Mark) :
    passSpaces false false keyAllowed ('\n' :: text) mark =
      (⟨unindented text, (mark.newLine 1).advance (indentation text)⟩, true) := by
  have hbreak : passSpaces false false keyAllowed ('\n' :: text) mark =
      passSpaces false false (keyAllowed || true) text (mark.newLine 1) := by
    rw [passSpaces]
    · rfl
    · exact fun _ hc _ => absurd hc (by decide)
  have hblanks := passSpaces_blanks true (indentation text) (unindented text) (mark.newLine 1)
  rw [blanks_indentation_append] at hblanks
  rw [hbreak, Bool.or_true, hblanks, passSpaces_of_isFlush h]

/-! ## Steps -/

theorem run_eq_of_fetch {s t : Scanner} (h : s.fetch = .ok t) (hdone : t.isDone = false)
    (hshorter : t.cursor.rest.length < s.cursor.rest.length) : s.run = t.run := by
  rw [run, h]
  simp only [hdone, hshorter, if_true, Bool.false_eq_true, if_false]

theorem run_eq_of_isDone {s t : Scanner} (h : s.fetch = .ok t) (hdone : t.isDone = true) :
    s.run = ⟨t.produced.reverse, none⟩ := by
  rw [run, h]
  simp only [hdone, if_true]

/-- A scanner outside of flow collections, with nothing that may turn out to be a key. -/
def resting (cursor : Cursor) (indents : List Nat) (keyAllowed : Bool) (produced : List Token) :
    Scanner where
  cursor
  indents
  candidate := none
  outer := []
  keyAllowed
  produced

@[simp] theorem inFlow_resting (cursor : Cursor) (indents : List Nat) (keyAllowed : Bool)
    (produced : List Token) : (resting cursor indents keyAllowed produced).inFlow = false := rfl

/-- What is done before the next token is looked at. -/
def prepare (s : Scanner) : Except Stop Scanner := do
  let s ← s.toNextToken.dropStale
  return s.unroll (some s.cursor.mark.column)

theorem fetch_eq_of_prepare {s t : Scanner} (h : s.prepare = .ok t) :
    s.fetch = match t.cursor.rest with
      | [] => t.fetchEnd
      | c :: cs => t.fetchAt c cs := by
  rw [prepare] at h
  rw [fetch]
  cases hstale : s.toNextToken.dropStale with
  | error e =>
    rw [hstale] at h
    cases h
  | ok u =>
    rw [hstale] at h
    cases h
    rfl

theorem closeBlocks_append {column : Option Nat} {deeper blocks : List Nat}
    (hdeeper : ∀ i ∈ deeper, column.all (· < i) = true)
    (hblocks : ∀ i ∈ blocks.head?, column.all (· < i) = false) (mark : Mark)
    (tokens : List Token) :
    closeBlocks column mark (deeper ++ blocks) tokens =
      (blocks, List.replicate deeper.length ⟨.blockEnd, mark⟩ ++ tokens) := by
  induction deeper generalizing tokens with
  | nil =>
    cases blocks with
    | nil => rfl
    | cons i is =>
      rw [List.nil_append, closeBlocks, hblocks i rfl]
      rfl
  | cons i is ih =>
    rw [List.cons_append, closeBlocks, hdeeper i List.mem_cons_self, if_pos rfl,
      ih fun j hj => hdeeper j (List.mem_cons_of_mem i hj), List.length_cons,
      List.replicate_succ', List.append_assoc]
    rfl

/-- Closing down to a column leaves the blocks that start there or before. -/
theorem closeBlocks_some {column : Nat} {deeper blocks : List Nat}
    (hdeeper : ∀ i ∈ deeper, column < i) (hblocks : ∀ i ∈ blocks.head?, i ≤ column) (mark : Mark)
    (tokens : List Token) :
    closeBlocks (some column) mark (deeper ++ blocks) tokens =
      (blocks, List.replicate deeper.length ⟨.blockEnd, mark⟩ ++ tokens) := by
  have hclosed : ∀ i ∈ deeper, (some column).all (· < i) = true :=
    fun i hi => decide_eq_true (hdeeper i hi)
  have hopen : ∀ i ∈ blocks.head?, (some column).all (· < i) = false :=
    fun i hi => decide_eq_false (Nat.not_lt_of_le (hblocks i hi))
  exact closeBlocks_append hclosed hopen mark tokens

/-- A token starts here: the spaces before it are passed, and deeper blocks are closed. -/
theorem prepare_resting {cursor next : Cursor} {keyAllowed allowed : Bool}
    {deeper blocks : List Nat} (produced : List Token)
    (hpass : passSpaces false false keyAllowed cursor.rest cursor.mark = (next, allowed))
    (hdeeper : ∀ i ∈ deeper, next.mark.column < i)
    (hblocks : ∀ i ∈ blocks.head?, i ≤ next.mark.column) :
    (resting cursor (deeper ++ blocks) keyAllowed produced).prepare =
      .ok (resting next blocks allowed
        (List.replicate deeper.length ⟨.blockEnd, next.mark⟩ ++ produced)) := by
  have hnext : (resting cursor (deeper ++ blocks) keyAllowed produced).toNextToken =
      resting next (deeper ++ blocks) allowed produced := by
    simp only [toNextToken, resting, inFlow, List.isEmpty_nil, Bool.not_true, hpass]
  rw [prepare, hnext]
  show Except.ok ((resting next (deeper ++ blocks) allowed produced).unroll _) = _
  rw [unroll, inFlow_resting, if_neg Bool.false_ne_true]
  show Except.ok { resting next (deeper ++ blocks) allowed produced with
    indents := (closeBlocks (some next.mark.column) next.mark (deeper ++ blocks) produced).1
    produced := (closeBlocks (some next.mark.column) next.mark (deeper ++ blocks) produced).2 } = _
  rw [closeBlocks_some hdeeper hblocks]
  rfl

section Plain

variable {c : Char} {cs : List Char}

/-- What follows a question mark, a colon or a dash at the start of a plain scalar is no space. -/
theorem exists_next_of_mark (h : Written.Standing c cs) (hc : c = '-' ∨ c = '?' ∨ c = ':')
    (stop : List Char) : ∃ d ds, cs ++ stop = d :: ds ∧ isSpace d = false := by
  have hmark := h.not_mark
  have hsign : "?:-".toList.contains c = true := by
    rcases hc with rfl | rfl | rfl <;> decide
  rw [hsign, Bool.true_and] at hmark
  cases cs with
  | nil => cases hmark
  | cons d ds =>
    rw [List.head?_cons, Written.isGap, Bool.or_eq_false_iff] at hmark
    exact ⟨d, ds ++ stop, rfl, hmark.1⟩

theorem startsPlain_of_standing (h : Written.Standing c cs) (stop : List Char) :
    startsPlain false c (cs ++ stop) = true := by
  by_cases hc : c = '-' ∨ c = '?' ∨ c = ':'
  · obtain ⟨d, ds, hnext, hd⟩ := exists_next_of_mark h hc stop
    have hblank : isBlank d = false := (Bool.or_eq_false_iff.mp hd).1
    rw [hnext]
    rcases hc with rfl | rfl | rfl <;>
      simp [startsPlain, startsWithSpace, hd, hblank]
  · have hindicator : isIndicator c = false := by
      have hcover : "-?:,[]\x7b\x7d#&*!|>'\"%@\x60".toList.all (fun d =>
          (d = '-' ∨ d = '?' ∨ d = ':') ∨ Written.signs.contains d = true) = true := by decide
      rw [isIndicator, List.contains_eq_mem, decide_eq_false_iff_not]
      intro hmem
      rcases of_decide_eq_true (List.all_eq_true.mp hcover c hmem) with hmark | hsign
      · exact hc hmark
      · exact h.ne_sign hsign rfl
    rw [startsPlain, h.isSpace_eq, hindicator]
    rfl

/-- Where a plain scalar can start, one is fetched. -/
theorem fetchAt_eq_fetchPlain {s : Scanner} (stop : List Char) (hflow : s.inFlow = false)
    (hmarker : s.cursor.atMarker = false) (h : Written.Standing c cs) :
    s.fetchAt c (cs ++ stop) = s.fetchPlain := by
  have hmark (d : Char) (hd : d = '-' ∨ d = '?' ∨ d = ':') :
      ¬ (c = d ∧ startsWithSpace (cs ++ stop) = true) := by
    rintro ⟨rfl, hspaced⟩
    obtain ⟨e, es, hnext, he⟩ := exists_next_of_mark h hd stop
    rw [hnext, startsWithSpace, he] at hspaced
    cases hspaced
  have hne (d : Char) (hd : Written.signs.contains d = true) : c ≠ d := h.ne_sign hd
  -- Every other kind of token is ruled out by its sign, or by the space that has to follow it.
  simp only [fetchAt, hflow, hmarker, startsPlain_of_standing h stop, hne '%' (by decide),
    hne '[' (by decide), hne '{' (by decide), hne ']' (by decide), hne '}' (by decide),
    hne ',' (by decide), hne '*' (by decide), hne '&' (by decide), hne '!' (by decide),
    hne '|' (by decide), hne '>' (by decide), hne '\'' (by decide), hne '"' (by decide),
    hmark '-' (by decide), hmark '?' (by decide), hmark ':' (by decide), Bool.false_eq_true,
    false_or, and_false, false_and, if_false, if_true]

end Plain

theorem fetchAt_quote {s : Scanner} (hflow : s.inFlow = false)
    (hmarker : s.cursor.atMarker = false) (cs : List Char) :
    s.fetchAt '\'' cs = s.fetchQuoted true := by
  simp [fetchAt, hflow, hmarker]

/-! ## Keys -/

theorem unroll_eq_self {s : Scanner} {column : Nat} (hflow : s.inFlow = false)
    (h : ∀ i ∈ s.indents.head?, i ≤ column) : s.unroll (some column) = s := by
  have hclose : closeBlocks (some column) s.cursor.mark s.indents s.produced =
      (s.indents, s.produced) :=
    closeBlocks_some (fun _ hi => absurd hi List.not_mem_nil) h s.cursor.mark s.produced
  rw [unroll, hflow, if_neg Bool.false_ne_true, hclose]

theorem fetchPlain_eq {s t : Scanner} {r : Plain.Result} (hsave : s.saveCandidate = .ok t)
    (hread : Plain.read ⟨t.inFlow, t.plainIndent⟩ t.cursor = .ok r) :
    s.fetchPlain = .ok { t.emit (.scalar .plain (.ofList r.text)) t.cursor.mark with
      cursor := r.next, keyAllowed := r.brokeLine } := by
  simp only [inFlow, plainIndent] at hread
  rw [fetchPlain, hsave]
  simp only [ok_bind, attempt, inFlow, plainIndent, hread]
  rfl

theorem fetchQuoted_eq {s t : Scanner} {r : Quoted.Result} (hsave : s.saveCandidate = .ok t)
    (hread : Quoted.read true t.cursor = .ok r) :
    s.fetchQuoted true = .ok { t.emit (.scalar .singleQuoted (.ofList r.text)) t.cursor.mark with
      cursor := r.next, keyAllowed := false } := by
  rw [fetchQuoted, hsave]
  simp only [ok_bind, attempt, hread]
  rfl

/-- A scanner behind the word that is to be a key, at its colon. -/
def behindKey (key rest : List Char) (mark : Mark) (blocks : List Nat) (produced : List Token) :
    Scanner where
  cursor := ⟨':' :: rest, mark.advance key.length⟩
  indents := blocks
  candidate := some ⟨blocks.head? == some mark.column, produced.length, mark⟩
  outer := []
  keyAllowed := false
  produced := ⟨.scalar .plain (.ofList key), mark⟩ :: produced

/-- Where a key may start, a word before a colon becomes a candidate for one. -/
theorem fetchAt_word {key rest : List Char} (hkey : IsWord key)
    (hrest : startsWithSpace rest = true) (mark : Mark) (blocks : List Nat)
    (produced : List Token) :
    ∃ c cs, key = c :: cs ∧
      (resting ⟨key ++ ':' :: rest, mark⟩ blocks true produced).fetchAt c (cs ++ ':' :: rest) =
        .ok (behindKey key rest mark blocks produced) := by
  have hplain := Written.standsPlain_of_isWord hkey
  obtain ⟨c, cs, rfl⟩ := List.exists_cons_of_ne_nil hkey.1
  have hword (d : Char) (hd : isWordChar d = false) : c ≠ d :=
    ne_of_isWordChar (hkey.2 c List.mem_cons_self) hd
  have hmarker : (Cursor.mk (c :: cs ++ ':' :: rest) mark).atMarker = false := by
    rw [Cursor.atMarker, List.cons_append]
    simp [hword '-' (by decide), hword '.' (by decide)]
  have hspace : ' ' ∉ c :: cs := fun hmem =>
    ne_of_isWordChar (hkey.2 ' ' hmem) (by decide) rfl
  refine ⟨c, cs, rfl, ?_⟩
  rw [fetchAt_eq_fetchPlain (':' :: rest) rfl hmarker (Written.standing_of_standsPlain hplain)]
  have hread (indent : Nat) : Plain.read ⟨false, indent⟩ ⟨c :: cs ++ ':' :: rest, mark⟩ =
      .ok ⟨c :: cs, ⟨':' :: rest, mark.advance (c :: cs).length⟩, false⟩ := by
    rw [Plain.read_append (':' :: rest) hplain fun hmem => absurd hmem hspace,
      Plain.readFrom_colon hrest, List.reverse_reverse]
  let candidate : Candidate := ⟨blocks.head? == some mark.column, produced.length, mark⟩
  let saved : Scanner := { resting ⟨c :: cs ++ ':' :: rest, mark⟩ blocks true produced with
    candidate := some candidate }
  have hsave : (resting ⟨c :: cs ++ ':' :: rest, mark⟩ blocks true produced).saveCandidate =
    .ok saved := rfl
  exact fetchPlain_eq hsave (hread _)

/-- A scanner behind a key and its colon.  If the key lies deeper than the open blocks, a mapping
started with it. -/
def behindColon (key rest : List Char) (mark : Mark) (blocks : List Nat) (deeper : Bool)
    (produced : List Token) : Scanner :=
  resting ⟨rest, (mark.advance key.length).advance 1⟩
    (if deeper then mark.column :: blocks else blocks) false
    (⟨.value, mark.advance key.length⟩ :: ⟨.scalar .plain (.ofList key), mark⟩ :: ⟨.key, mark⟩ ::
      ((if deeper then [⟨.blockMappingStart, mark⟩] else []) ++ produced))

theorem toNextToken_behindKey (key rest : List Char) (mark : Mark) (blocks : List Nat)
    (produced : List Token) :
    (behindKey key rest mark blocks produced).toNextToken =
      behindKey key rest mark blocks produced := by
  have hflush : IsFlush (':' :: rest) := by
    rintro _ ⟨⟩
    exact ⟨rfl, by decide⟩
  rw [toNextToken]
  show { behindKey key rest mark blocks produced with
    cursor := (passSpaces false false false (':' :: rest) (mark.advance key.length)).1
    keyAllowed := (passSpaces false false false (':' :: rest) (mark.advance key.length)).2 } = _
  rw [passSpaces_of_isFlush hflush]
  rfl

/-- A word is given up as a candidate when it is too long for a key. -/
theorem isStale_behindKey {key rest : List Char} {mark : Mark} {blocks : List Nat}
    {produced : List Token} (required : Bool) (position : Nat) :
    (behindKey key rest mark blocks produced).isStale ⟨required, position, mark⟩ =
      decide (maxKey < key.length) := by
  simp [isStale, behindKey, Mark.advance]

theorem fetchAt_colon {s : Scanner} {rest : List Char} (hmarker : s.cursor.atMarker = false)
    (hrest : startsWithSpace rest = true) : s.fetchAt ':' rest = s.fetchValue := by
  simp [fetchAt, hmarker, hrest]

theorem not_atMarker_colon (rest : List Char) (mark : Mark) :
    (Cursor.mk (':' :: rest) mark).atMarker = false := by
  simp [Cursor.atMarker]

/-- The colon makes the candidate a key. -/
theorem fetch_behindKey {key rest : List Char} {mark : Mark} {blocks : List Nat}
    (hkey : key.length ≤ maxKey) (hrest : startsWithSpace rest = true)
    (hblocks : ∀ i ∈ blocks.head?, i ≤ mark.column) (produced : List Token) :
    (behindKey key rest mark blocks produced).fetch =
      .ok (behindColon key rest mark blocks (blocks.head?.all (· < mark.column)) produced) := by
  have hprepare : (behindKey key rest mark blocks produced).prepare =
      .ok (behindKey key rest mark blocks produced) := by
    -- A key may not be long, and this one is short enough to be still waited for.
    have hfresh : (behindKey key rest mark blocks produced).isStale
        ⟨blocks.head? == some mark.column, produced.length, mark⟩ = false := by
      rw [isStale_behindKey, decide_eq_false (Nat.not_lt_of_le hkey)]
    have hkeep : (behindKey key rest mark blocks produced).dropStale =
        .ok (behindKey key rest mark blocks produced) := by
      simp only [dropStale, behindKey, freshOnly] at hfresh ⊢
      simp [hfresh]
    rw [prepare, toNextToken_behindKey, hkeep, ok_bind, unroll_eq_self rfl fun i hi => ?_]
    · rfl
    · exact Nat.le_trans (hblocks i hi) (Nat.le_add_right _ _)
  rw [fetch_eq_of_prepare hprepare]
  show (behindKey key rest mark blocks produced).fetchAt ':' rest = _
  rw [fetchAt_colon (not_atMarker_colon rest _) hrest]
  cases hdeeper : blocks.head?.all (· < mark.column)
  all_goals
    simp [fetchValue, behindKey, behindColon, promote, insert, isDeeper, inFlow, emit, skip,
      Cursor.skip, resting, hdeeper]
    rfl

/-! ## Between the entries -/

/-- The kinds of tokens that are listed latest first, in order. -/
def kindsOf (produced : List Token) : List TokenKind := produced.reverse.map (·.kind)

@[simp] theorem kindsOf_cons (t : Token) (produced : List Token) :
    kindsOf (t :: produced) = kindsOf produced ++ [t.kind] := by
  rw [kindsOf, List.reverse_cons, List.map_append]
  rfl

theorem kindsOf_replicate_append (n : Nat) (t : Token) (produced : List Token) :
    kindsOf (List.replicate n t ++ produced) = kindsOf produced ++ List.replicate n t.kind := by
  rw [kindsOf, List.reverse_append, List.reverse_replicate, List.map_append, List.map_replicate]
  rfl

/-- The scanner stands before the first token of a line, where a key may start.  The line and those
after it are the text; the blocks are those that stay open here, and the ends of the deeper ones,
which are still to come, are counted among the kinds. -/
def AtLine (s : Scanner) (text : List Char) (blocks : List Nat) (kinds : List TokenKind) : Prop :=
  ∃ cursor deeper keyAllowed produced mark,
    s = resting cursor (deeper ++ blocks) keyAllowed produced ∧
    passSpaces false false keyAllowed cursor.rest cursor.mark = (⟨unindented text, mark⟩, true) ∧
    mark.column = indentation text ∧ (∀ i ∈ deeper, indentation text < i) ∧
    kindsOf produced ++ List.replicate deeper.length .blockEnd = kinds

/-- The scanner stands right after the colon of a key of the innermost block. -/
def AtValue (s : Scanner) (text : List Char) (column : Nat) (blocks : List Nat)
    (kinds : List TokenKind) : Prop :=
  ∃ mark produced, s = resting ⟨text, mark⟩ (column :: blocks) false produced ∧
    column < mark.column ∧ kindsOf produced = kinds

/-- A block that starts deeper than the line ends before it. -/
theorem AtLine.close {s : Scanner} {text : List Char} {column : Nat} {blocks : List Nat}
    {kinds : List TokenKind} (h : s.AtLine text (column :: blocks) kinds)
    (hcolumn : indentation text < column) : s.AtLine text blocks (kinds ++ [.blockEnd]) := by
  obtain ⟨cursor, deeper, keyAllowed, produced, mark, hs, hpass, hmark, hdeeper, hkinds⟩ := h
  refine ⟨cursor, deeper ++ [column], keyAllowed, produced, mark, ?_, hpass, hmark, ?_, ?_⟩
  · rw [hs, List.append_assoc, List.singleton_append]
  · intro i hi
    rcases List.mem_append.mp hi with hi | hi
    · exact hdeeper i hi
    · rw [List.mem_singleton.mp hi]
      exact hcolumn
  · rw [List.length_append, List.length_singleton, List.replicate_succ', ← List.append_assoc,
      hkinds]

/-- Where a token starts, the scanner is at it once the spaces are passed and the deeper blocks are
closed. -/
theorem AtLine.exists_prepare {s : Scanner} {text : List Char} {blocks : List Nat}
    {kinds : List TokenKind} (h : s.AtLine text blocks kinds)
    (hblocks : ∀ i ∈ blocks.head?, i ≤ indentation text) :
    ∃ mark produced, s.prepare = .ok (resting ⟨unindented text, mark⟩ blocks true produced) ∧
      mark.column = indentation text ∧ kindsOf produced = kinds ∧
      (unindented text).length ≤ s.cursor.rest.length := by
  obtain ⟨cursor, deeper, keyAllowed, produced, mark, rfl, hpass, hmark, hdeeper, hkinds⟩ := h
  refine ⟨mark, List.replicate deeper.length ⟨.blockEnd, mark⟩ ++ produced, ?_, hmark, ?_, ?_⟩
  · rw [← hmark] at hdeeper hblocks
    exact prepare_resting produced hpass hdeeper hblocks
  · rw [kindsOf_replicate_append, hkinds]
  · have hlength := length_passSpaces_le false false keyAllowed cursor.rest cursor.mark
    rw [hpass] at hlength
    exact hlength

/-- What a key can be: a word that is not too long. -/
def IsKey (key : List Char) : Prop := IsWord key ∧ key.length ≤ maxKey

instance (key : List Char) : Decidable (IsKey key) :=
  inferInstanceAs (Decidable (IsWord key ∧ key.length ≤ maxKey))

theorem AtLine.exists_run_eq_of_key {s : Scanner} {key rest : List Char} {column : Nat}
    {blocks : List Nat} {kinds : List TokenKind}
    (h : s.AtLine (Written.blanks column ++ (key ++ ':' :: rest)) blocks kinds)
    (hkey : IsKey key) (hrest : startsWithSpace rest = true)
    (hblocks : ∀ i ∈ blocks.head?, i ≤ column) :
    ∃ mark produced, mark.column = column ∧ kindsOf produced = kinds ∧
      s.run = (behindColon key rest mark blocks (blocks.head?.all (· < mark.column))
        produced).run := by
  have hflush : IsFlush (key ++ ':' :: rest) := hkey.1.isFlush_append (':' :: rest)
  have hindent := indentation_blanks_append hflush column
  obtain ⟨mark, produced, hprepare, hmark, hkinds, hlength⟩ :=
    h.exists_prepare (by rw [hindent]; exact hblocks)
  rw [unindented_blanks_append hflush] at hprepare hlength
  rw [hindent] at hmark
  obtain ⟨c, cs, rfl, hfetch⟩ := fetchAt_word hkey.1 hrest mark blocks produced
  have hword : s.fetch = .ok (behindKey (c :: cs) rest mark blocks produced) :=
    (fetch_eq_of_prepare hprepare).trans hfetch
  have hcolon := fetch_behindKey hkey.2 hrest (hmark ▸ hblocks) produced
  refine ⟨mark, produced, hmark, hkinds, ?_⟩
  rw [run_eq_of_fetch hword rfl, run_eq_of_fetch hcolon rfl]
  · exact Nat.lt_succ_self _
  · refine Nat.lt_of_lt_of_le ?_ hlength
    simp only [behindKey, List.length_append, List.length_cons]
    omega

/-- **The next key of the innermost block.** -/
theorem AtLine.exists_key {s : Scanner} {key rest : List Char} {column : Nat}
    {blocks : List Nat} {kinds : List TokenKind}
    (h : s.AtLine (Written.blanks column ++ (key ++ ':' :: rest)) (column :: blocks) kinds)
    (hkey : IsKey key) (hrest : startsWithSpace rest = true) :
    ∃ t : Scanner, s.run = t.run ∧ t.AtValue rest column blocks
      (kinds ++ [.key, .scalar .plain (.ofList key), .value]) := by
  obtain ⟨mark, produced, hmark, hkinds, hrun⟩ := h.exists_run_eq_of_key hkey hrest
    (fun i hi => by cases hi; exact Nat.le_refl _)
  have hlevel : (column :: blocks).head?.all (· < mark.column) = false := by
    rw [List.head?_cons, Option.all_some, hmark, decide_eq_false (Nat.lt_irrefl column)]
  rw [hlevel] at hrun
  refine ⟨_, hrun, _, _, rfl, ?_, ?_⟩
  · rw [Mark.column_advance, Mark.column_advance, hmark]
    omega
  · simp only [Bool.false_eq_true, if_false, List.nil_append, kindsOf_cons, hkinds,
      List.append_assoc, List.cons_append]

/-- **The first key of a block.** -/
theorem AtLine.exists_first_key {s : Scanner} {key rest : List Char} {column : Nat}
    {blocks : List Nat} {kinds : List TokenKind}
    (h : s.AtLine (Written.blanks column ++ (key ++ ':' :: rest)) blocks kinds)
    (hkey : IsKey key) (hrest : startsWithSpace rest = true)
    (hblocks : ∀ i ∈ blocks.head?, i < column) :
    ∃ t : Scanner, s.run = t.run ∧ t.AtValue rest column blocks
      (kinds ++ [.blockMappingStart, .key, .scalar .plain (.ofList key), .value]) := by
  obtain ⟨mark, produced, hmark, hkinds, hrun⟩ := h.exists_run_eq_of_key hkey hrest
    (fun i hi => Nat.le_of_lt (hblocks i hi))
  have hdeeper : blocks.head?.all (· < mark.column) = true := by
    rw [Option.all_eq_true, hmark]
    exact fun i hi => decide_eq_true (hblocks i hi)
  rw [hdeeper, behindColon, if_pos rfl, if_pos rfl, hmark] at hrun
  refine ⟨_, hrun, _, _, rfl, ?_, ?_⟩
  · rw [Mark.column_advance, Mark.column_advance, hmark]
    omega
  · simp only [kindsOf_cons, hkinds, List.append_assoc, List.cons_append, List.nil_append]

/-! ## Values -/

theorem length_unindented_le (text : List Char) : (unindented text).length ≤ text.length :=
  (List.dropWhile_sublist _).length_le

theorem saveCandidate_resting (cursor : Cursor) (blocks : List Nat) (produced : List Token) :
    (resting cursor blocks false produced).saveCandidate =
      .ok (resting cursor blocks false produced) := rfl

/-- The value starts behind the spaces after the colon. -/
theorem prepare_value {rest : List Char} {mark : Mark} {column : Nat} (hrest : IsFlush rest)
    (hcolumn : column < mark.column) (blocks : List Nat) (produced : List Token) :
    (resting ⟨' ' :: rest, mark⟩ (column :: blocks) false produced).prepare =
      .ok (resting ⟨rest, mark.advance 1⟩ (column :: blocks) false produced) := by
  have hpass : passSpaces false false false (' ' :: rest) mark = (⟨rest, mark.advance 1⟩, false) :=
    (passSpaces_blanks false 1 rest mark).trans (passSpaces_of_isFlush hrest false _)
  have hopen : ∀ i ∈ (column :: blocks).head?, i ≤ (mark.advance 1).column := by
    rintro _ ⟨⟩
    exact Nat.le_trans (Nat.le_of_lt hcolumn) (Nat.le_add_right _ 1)
  show (resting ⟨' ' :: rest, mark⟩ ([] ++ column :: blocks) false produced).prepare = _
  rw [prepare_resting produced hpass (fun _ hi => absurd hi List.not_mem_nil) hopen]
  rfl

/-- A plain scalar after its key.  The next line is reached with it. -/
theorem fetch_plainValue {cs text : List Char} {mark : Mark} {column : Nat}
    (hcs : Written.standsPlain cs = true) (hcolumn : column < mark.column)
    (htext : IsFlush (unindented text)) (hindent : indentation text ≤ column)
    (blocks : List Nat) (produced : List Token) :
    (resting ⟨' ' :: (cs ++ '\n' :: text), mark⟩ (column :: blocks) false produced).fetch =
      .ok (resting ⟨unindented text,
          (((mark.advance 1).advance cs.length).newLine 1).advance (indentation text)⟩
        (column :: blocks) true (⟨.scalar .plain (.ofList cs), mark.advance 1⟩ :: produced)) := by
  cases cs with
  | nil => cases hcs
  | cons c cs =>
    have hstanding := Written.standing_of_standsPlain hcs
    have hflush : IsFlush (c :: cs ++ '\n' :: text) := by
      rintro _ ⟨⟩
      exact ⟨hstanding.isSpace_eq, hstanding.ne_sign (by decide)⟩
    have hpositive : 0 < (mark.advance 1).column := Nat.succ_pos _
    -- Only the next line tells that the scalar is over, and the reader has passed its indentation.
    have hread : Plain.read ⟨false, column + 1⟩ ⟨c :: cs ++ '\n' :: text, mark.advance 1⟩ =
        .ok ⟨c :: cs, ⟨unindented text,
          (((mark.advance 1).advance (c :: cs).length).newLine 1).advance (indentation text)⟩,
          true⟩ := by
      have hline := Plain.readFrom_line (Nat.lt_succ_of_le hindent) htext (c :: cs).reverse
        ((mark.advance 1).advance (c :: cs).length)
      rw [blanks_indentation_append, List.reverse_reverse] at hline
      rw [Plain.read_append ('\n' :: text) hcs fun _ => ⟨Nat.succ_le_succ (Nat.le_of_lt hcolumn),
        hpositive⟩]
      exact hline
    rw [fetch_eq_of_prepare (prepare_value hflush hcolumn blocks produced)]
    show (resting ⟨c :: cs ++ '\n' :: text, mark.advance 1⟩ (column :: blocks) false
      produced).fetchAt c (cs ++ '\n' :: text) = _
    rw [fetchAt_eq_fetchPlain _ rfl (Cursor.not_atMarker hpositive) hstanding]
    exact fetchPlain_eq (saveCandidate_resting _ (column :: blocks) produced) hread

/-- A quoted scalar after its key.  Only the line break after it leads to the next line. -/
theorem fetch_quotedValue {cs : List Char} {mark : Mark} {column : Nat} (hcs : IsLine cs)
    (hcolumn : column < mark.column) (text : List Char) (blocks : List Nat)
    (produced : List Token) :
    (resting ⟨' ' :: '\'' :: (Written.doubled cs ++ '\'' :: '\n' :: text), mark⟩ (column :: blocks)
        false produced).fetch =
      .ok (resting ⟨'\n' :: text, (mark.advance 1).advance ((Written.doubled cs).length + 2)⟩
        (column :: blocks) false
        (⟨.scalar .singleQuoted (.ofList cs), mark.advance 1⟩ :: produced)) := by
  have hflush : IsFlush ('\'' :: (Written.doubled cs ++ '\'' :: '\n' :: text)) := by
    rintro _ ⟨⟩
    exact ⟨rfl, by decide⟩
  have hpositive : 0 < (mark.advance 1).column := Nat.succ_pos _
  rw [fetch_eq_of_prepare (prepare_value hflush hcolumn blocks produced)]
  show (resting ⟨'\'' :: (Written.doubled cs ++ '\'' :: '\n' :: text), mark.advance 1⟩
    (column :: blocks) false produced).fetchAt '\'' _ = _
  rw [fetchAt_quote rfl (Cursor.not_atMarker hpositive)]
  exact fetchQuoted_eq (saveCandidate_resting _ (column :: blocks) produced)
    (Quoted.read_single hcs (by simp) (mark.advance 1))

/-- **A scalar after its key.**  It takes the scanner to the next line. -/
theorem AtValue.exists_scalar {s : Scanner} {style : ScalarStyle} {cs text : List Char}
    {column : Nat} {blocks : List Nat} {kinds : List TokenKind}
    (h : s.AtValue (' ' :: (Written.inStyle style cs ++ '\n' :: text)) column blocks kinds)
    (hcs : Written.Suits style cs) (htext : IsFlush (unindented text))
    (hindent : indentation text ≤ column) :
    ∃ t : Scanner, s.run = t.run ∧
      t.AtLine text (column :: blocks) (kinds ++ [.scalar style (.ofList cs)]) := by
  obtain ⟨mark, produced, rfl, hcolumn, hkinds⟩ := h
  have hlength := length_unindented_le text
  rcases hcs with ⟨rfl, hcs⟩ | ⟨rfl, hcs⟩
  · have hfetch := fetch_plainValue hcs hcolumn htext hindent blocks produced
    refine ⟨_, run_eq_of_fetch hfetch rfl ?_, _, [], _, _, _, rfl,
      passSpaces_of_isFlush htext true _, Nat.zero_add _, by simp, ?_⟩
    · simp only [resting, Written.inStyle, if_true, List.length_cons, List.length_append]
      omega
    · simp only [kindsOf_cons, hkinds, List.length_nil, List.replicate_zero, List.append_nil]
  · have hshape : Written.inStyle .singleQuoted cs ++ '\n' :: text =
        '\'' :: (Written.doubled cs ++ '\'' :: '\n' :: text) := by
      simp [Written.inStyle]
    rw [hshape]
    have hfetch := fetch_quotedValue hcs hcolumn text blocks produced
    refine ⟨_, run_eq_of_fetch hfetch rfl ?_, _, [], _, _, _, rfl,
      passSpaces_line htext false _, Nat.zero_add _, by simp, ?_⟩
    · simp only [resting, List.length_cons, List.length_append]
      omega
    · simp only [kindsOf_cons, hkinds, List.length_nil, List.replicate_zero, List.append_nil]

/-- A record after its key starts in the next line. -/
theorem AtValue.atLine {s : Scanner} {text : List Char} {column : Nat} {blocks : List Nat}
    {kinds : List TokenKind} (h : s.AtValue ('\n' :: text) column blocks kinds)
    (htext : IsFlush (unindented text)) : s.AtLine text (column :: blocks) kinds := by
  obtain ⟨mark, produced, rfl, -, hkinds⟩ := h
  refine ⟨_, [], _, _, _, rfl, passSpaces_line htext false _, Nat.zero_add _, by simp, ?_⟩
  rw [List.length_nil, List.replicate_zero, List.append_nil, hkinds]

/-! ## The start and the end -/

theorem atLine_start {text : List Char} (h : IsFlush text) : (start text).AtLine text [] [] := by
  have hindent : indentation text = 0 := indentation_blanks_append h 0
  have hunindented : unindented text = text := unindented_blanks_append h 0
  refine ⟨⟨text, {}⟩, [], true, [], {}, rfl, ?_, hindent.symm, by simp, rfl⟩
  rw [hunindented]
  exact passSpaces_of_isFlush h true {}

/-- At the end of the text, all blocks are closed and the scan is complete. -/
theorem AtLine.run_eq {s : Scanner} {blocks : List Nat} {kinds : List TokenKind}
    (h : s.AtLine [] blocks kinds) (hblocks : ∀ i ∈ blocks.head?, i ≤ 0) :
    s.run.failure = none ∧ s.run.tokens.map (·.kind) =
      kinds ++ List.replicate blocks.length .blockEnd ++ [.streamEnd] := by
  obtain ⟨mark, produced, hprepare, hmark, hkinds, -⟩ := h.exists_prepare hblocks
  have hclose : closeBlocks none mark blocks produced =
      ([], List.replicate blocks.length ⟨.blockEnd, mark⟩ ++ produced) := by
    have hall : closeBlocks none mark (blocks ++ []) produced =
        ([], List.replicate blocks.length ⟨.blockEnd, mark⟩ ++ produced) :=
      closeBlocks_append (fun _ _ => rfl) (by simp) mark produced
    rwa [List.append_nil] at hall
  have hend : (resting ⟨[], mark⟩ blocks true produced).fetchEnd =
      .ok (resting ⟨[], mark⟩ [] false
        (⟨.streamEnd, mark⟩ :: (List.replicate blocks.length ⟨.blockEnd, mark⟩ ++ produced))) := by
    have hzero : mark.column = 0 := hmark
    rw [fetchEnd]
    simp only [resting, hzero, if_true, unroll, inFlow, List.isEmpty_nil, Bool.not_true,
      Bool.false_eq_true, if_false, hclose]
    rfl
  have hfetch : s.fetch = _ := (fetch_eq_of_prepare hprepare).trans hend
  rw [run_eq_of_isDone hfetch rfl]
  refine ⟨rfl, ?_⟩
  show kindsOf _ = _
  rw [resting, kindsOf_cons, kindsOf_replicate_append, hkinds]

end Scanner
end RadioFrontEnd.Yaml
