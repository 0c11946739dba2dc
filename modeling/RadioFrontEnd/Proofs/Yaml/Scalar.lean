import Mathlib
import RadioFrontEnd.Yaml.Plain
import RadioFrontEnd.Yaml.Printer
import RadioFrontEnd.Yaml.Quoted

/-!
# Scalars read back

A text of one line is written either as it is or between single quotes.  This file says that the
reader of each form takes exactly the text, and where it stops.

The readers keep the blanks since the last word apart, as a gap, because a gap at the end of a plain
scalar is not part of it.  The text read so far is therefore `Gap.close`, the word and the gap
together; as long as no line is left, each character extends it by itself.

A plain scalar may stop in two ways.  A colon with a space after it ends it at once, which is what
makes a key.  A line break ends it only when the next line turns out not to be indented enough, and
by then the break and the blanks after it are passed (`readFrom_line`).  So the reader of a plain
scalar ends at the next key, while the reader of a quoted one ends right after the quote.
-/

namespace RadioFrontEnd.Yaml

/-! ## Characters -/

/-- A character that can stand in a line of a written text. -/
def isInline (c : Char) : Bool := Written.isPlainlyPrintable c && !isBreak c

/-- The text can be written in one line. -/
def IsLine (cs : List Char) : Prop := ∀ c ∈ cs, isInline c = true

theorem not_isBreak_of_isInline {c : Char} (h : isInline c = true) : isBreak c = false := by
  simp only [isInline, Bool.and_eq_true, Bool.not_eq_true'] at h
  exact h.2

theorem isPrintable_of_isInline {c : Char} (h : isInline c = true) : isPrintable c = true := by
  simp only [isInline, Written.isPlainlyPrintable, Bool.and_eq_true] at h
  exact h.1.1.1.1

theorem ne_return_of_not_isBreak {c : Char} (h : isBreak c = false) : c ≠ '\r' := by
  rintro rfl
  exact absurd h (by decide)

/-- The only blank within a line is the space. -/
theorem eq_space_of_isBlank {c : Char} (h : isInline c = true) (hblank : isBlank c = true) :
    c = ' ' := by
  simp only [isInline, Written.isPlainlyPrintable, Bool.and_eq_true, bne_iff_ne] at h
  simp only [isBlank, Bool.or_eq_true, beq_iff_eq] at hblank
  exact hblank.resolve_right h.1.1.1.2

/-- Neither a space nor a comment comes first. -/
def IsFlush (cs : List Char) : Prop := ∀ c ∈ cs.head?, isSpace c = false ∧ c ≠ '#'

theorem Mark.advance_advance (m : Mark) (a b : Nat) :
    (m.advance a).advance b = m.advance (a + b) := by
  simp only [Mark.advance, Nat.add_assoc]

theorem Mark.column_advance (m : Mark) (n : Nat) : (m.advance n).column = m.column + n := rfl

theorem Cursor.not_atMarker {c : Cursor} (h : 0 < c.mark.column) : c.atMarker = false := by
  rw [Cursor.atMarker, beq_false_of_ne (Nat.ne_of_gt h), Bool.false_and]

namespace Gap

theorem close_addBlank {gap : Gap} (h : gap.isLines = false) (c : Char) (text : List Char) :
    (gap.addBlank c).close text = c :: gap.close text := by
  cases gap with
  | none => rfl
  | blanks chars => rfl
  | lines first more => cases h

theorem isLines_addBlank {gap : Gap} (h : gap.isLines = false) (c : Char) :
    (gap.addBlank c).isLines = false := by
  cases gap with
  | none => rfl
  | blanks chars => rfl
  | lines first more => cases h

theorem addBlank_of_isLines {gap : Gap} (h : gap.isLines = true) (c : Char) :
    gap.addBlank c = gap := by
  cases gap with
  | lines first more => rfl
  | none => cases h
  | blanks chars => cases h

end Gap

/-! ## Texts that stand without quotes -/

namespace Written

/-- The signs with which no plain scalar starts. -/
def signs : List Char := "#,[]\x7b\x7d&*!|>'\"%@\x60".toList

/-- What makes a text, here its first character and the rest, stand without quotes. -/
structure Standing (c : Char) (cs : List Char) : Prop where
  /-- The text starts with none of the signs. -/
  not_sign : signs.contains c = false
  /-- If it starts with a question mark, a colon or a dash, no space follows that. -/
  not_mark : ("?:-".toList.contains c && isGap cs.head?) = false
  /-- It does not mislead later on. -/
  not_misleadsAfter : misleadsAfter c cs = false
  /-- It is one line. -/
  isLine : IsLine (c :: cs)
  /-- It does not start with a space. -/
  head_ne : c ≠ ' '
  /-- It does not end with a space. -/
  last_ne : (c :: cs).getLast?.any isBlankSpace = false

theorem standing_of_standsPlain {c : Char} {cs : List Char} (h : standsPlain (c :: cs) = true) :
    Standing c cs := by
  simp only [standsPlain, misleads, misleadsAtStart, Bool.and_eq_true, Bool.not_eq_true',
    Bool.or_eq_false_iff] at h
  obtain ⟨⟨⟨⟨⟨-, hsign, hmark⟩, hafter⟩, hline⟩, hhead⟩, hlast⟩ := h
  refine ⟨hsign, hmark, hafter, List.all_eq_true.mp hline, ?_, hlast⟩
  rintro rfl
  cases hhead

namespace Standing

variable {c : Char} {cs : List Char}

theorem isSpace_eq (h : Standing c cs) : isSpace c = false := by
  have hinline : isInline c = true := h.isLine c List.mem_cons_self
  rw [isSpace, not_isBreak_of_isInline hinline, Bool.or_false, Bool.eq_false_iff]
  exact fun hblank => h.head_ne (eq_space_of_isBlank hinline hblank)

theorem ne_sign (h : Standing c cs) {d : Char} (hd : signs.contains d = true) : c ≠ d := by
  rintro rfl
  rw [h.not_sign] at hd
  cases hd

/-- A text that stands misleads after no character that comes before it. -/
theorem misleadsAfter_eq (h : Standing c cs) (p : Char) : misleadsAfter p (c :: cs) = false := by
  have hcolon : (c == ':' && isGap cs.head?) = false := by
    by_cases hc : c = ':'
    · have hmark := h.not_mark
      rw [hc] at hmark ⊢
      exact hmark
    · rw [beq_false_of_ne hc, Bool.false_and]
  rw [misleadsAfter, hcolon, beq_false_of_ne (h.ne_sign (d := '#') (by decide)),
    h.not_misleadsAfter]
  rfl

end Standing
end Written

/-! ## Plain scalars -/

namespace Plain

theorem readFrom_cons {c : Char} (h : c ≠ '\r') (ctx : Context) (text : List Char) (gap : Gap)
    (cs : List Char) (mark : Mark) :
    readFrom ctx text gap (c :: cs) mark =
      if isBlank c then
        if gap.isLines && c == '\t' && mark.column < ctx.indent then
          .error ⟨.tabIndentation, mark⟩
        else readFrom ctx text (gap.addBlank c) cs (mark.advance 1)
      else if isBreak c then
        readFrom ctx text (gap.addBreak c) cs (mark.newLine 1)
      else if !gap.isNone && endsAfterGap ctx ⟨c :: cs, mark⟩ then
        .ok (finish text gap ⟨c :: cs, mark⟩)
      else if isBadColon ctx.flow c cs then .error ⟨.unexpectedColon, mark⟩
      else if endsBefore ctx.flow c cs then .ok (finish text gap ⟨c :: cs, mark⟩)
      else readFrom ctx (c :: gap.close text) .none cs (mark.advance 1) := by
  rw [readFrom]
  exact fun _ hc _ => h hc

/-- A colon that does not mislead a reader does not end the scalar. -/
theorem endsBefore_append {c : Char} {cs : List Char} (stop : List Char)
    (h : (c == ':' && Written.isGap cs.head?) = false) :
    endsBefore false c (cs ++ stop) = false := by
  rw [endsBefore, Bool.false_and, Bool.or_false, Bool.and_eq_false_iff]
  rcases Bool.and_eq_false_iff.mp h with hc | hgap
  · exact .inl hc
  · right
    cases cs with
    | nil => cases hgap
    | cons d cs =>
      rw [List.head?_cons, Written.isGap, Bool.or_eq_false_iff] at hgap
      exact hgap.1

/-- Behind a blank, neither the column nor a comment ends the scalar. -/
theorem not_endsAfterGap {indent : Nat} {c p : Char} {cs : List Char} {mark : Mark}
    (hcomment : (c == '#' && Written.isGap (some p)) = false) (hp : p = ' ')
    (hcolumn : indent ≤ mark.column ∧ 0 < mark.column) :
    endsAfterGap ⟨false, indent⟩ ⟨c :: cs, mark⟩ = false := by
  have hne : c ≠ '#' := by
    rintro rfl
    rw [hp] at hcomment
    exact absurd hcomment (by decide)
  have hmarker : (Cursor.mk (c :: cs) mark).atMarker = false := Cursor.not_atMarker hcolumn.2
  rw [endsAfterGap, hmarker, List.head?_cons, decide_eq_false (Nat.not_lt_of_le hcolumn.1),
    Bool.and_false, Bool.or_false, Bool.false_or]
  simpa using hne

/-- Within the scalar, each character extends what was read. -/
theorem readFrom_append {indent : Nat} {cs : List Char} (stop : List Char) {text : List Char}
    {gap : Gap} {p : Char} {mark : Mark} (hline : IsLine cs)
    (hmisleads : Written.misleadsAfter p cs = false)
    (hlast : cs.getLast?.any Written.isBlankSpace = false) (hlines : gap.isLines = false)
    (hprevious : gap.isNone = false → p = ' ' ∧ cs ≠ [])
    (hcolumn : ' ' ∈ cs ∨ gap.isNone = false → indent ≤ mark.column ∧ 0 < mark.column) :
    readFrom ⟨false, indent⟩ text gap (cs ++ stop) mark =
      readFrom ⟨false, indent⟩ (cs.reverse ++ gap.close text) .none stop
        (mark.advance cs.length) := by
  induction cs generalizing text gap p mark with
  | nil =>
    cases hnone : gap.isNone with
    | false => exact absurd rfl (hprevious hnone).2
    | true => cases gap <;> first | rfl | cases hnone
  | cons c cs ih =>
    have hc : isInline c = true := hline c List.mem_cons_self
    have hrest : IsLine cs := fun d hd => hline d (List.mem_cons_of_mem c hd)
    have hbreak : isBreak c = false := not_isBreak_of_isInline hc
    have hend : cs.getLast?.any Written.isBlankSpace = false := by
      cases cs with
      | nil => rfl
      | cons d ds => rwa [List.getLast?_cons_cons] at hlast
    simp only [Written.misleadsAfter, Bool.or_eq_false_iff] at hmisleads
    obtain ⟨⟨hcolon, hcomment⟩, hmore⟩ := hmisleads
    -- Both branches go on behind the character, with the same text and gap together.
    rw [List.cons_append, readFrom_cons (ne_return_of_not_isBreak hbreak), List.reverse_cons,
      List.append_assoc, List.singleton_append, List.length_cons, Nat.add_comm,
      ← Mark.advance_advance]
    by_cases hblank : isBlank c = true
    · have hspace : c = ' ' := eq_space_of_isBlank hc hblank
      have hcs : cs ≠ [] := by
        rintro rfl
        rw [hspace] at hlast
        exact absurd hlast (by decide)
      have hcol := hcolumn (.inl (hspace ▸ List.mem_cons_self))
      rw [if_pos hblank, hlines, Bool.false_and, Bool.false_and, if_neg Bool.false_ne_true,
        ih hrest hmore hend (Gap.isLines_addBlank hlines c) (fun _ => ⟨hspace, hcs⟩)
          (fun _ => by rw [Mark.column_advance]; omega),
        Gap.close_addBlank hlines]
    · have hgap : (!gap.isNone && endsAfterGap ⟨false, indent⟩ ⟨c :: (cs ++ stop), mark⟩)
          = false := by
        cases hnone : gap.isNone with
        | true => rfl
        | false =>
          exact not_endsAfterGap hcomment (hprevious hnone).1 (hcolumn (.inr hnone))
      rw [if_neg hblank, hbreak, if_neg Bool.false_ne_true, hgap, if_neg Bool.false_ne_true,
        isBadColon, Bool.false_and, Bool.false_and, if_neg Bool.false_ne_true,
        endsBefore_append stop hcolon, if_neg Bool.false_ne_true,
        ih hrest hmore hend rfl (fun h => by cases h) (fun h => by
          have hcol := hcolumn (.inl (List.mem_cons_of_mem c (h.resolve_right (by decide))))
          rw [Mark.column_advance]
          omega)]
      rfl

/-- A colon with a space after it ends the scalar. -/
theorem readFrom_colon {rest : List Char} (h : startsWithSpace rest = true) (indent : Nat)
    (text : List Char) (mark : Mark) :
    readFrom ⟨false, indent⟩ text .none (':' :: rest) mark =
      .ok ⟨text.reverse, ⟨':' :: rest, mark⟩, false⟩ := by
  have hends : endsBefore false ':' rest = true := by
    rw [endsBefore, h]
    rfl
  rw [readFrom_cons (by decide)]
  simp [isBlank, isBreak, isBadColon, hends, finish, Gap.isLines, Gap.isNone]

/-- Blanks at the start of a further line are passed. -/
theorem readFrom_blanks {gap : Gap} (h : gap.isLines = true) (indent n : Nat) (text : List Char)
    (rest : List Char) (mark : Mark) :
    readFrom ⟨false, indent⟩ text gap (Written.blanks n ++ rest) mark =
      readFrom ⟨false, indent⟩ text gap rest (mark.advance n) := by
  induction n generalizing mark with
  | zero => rfl
  | succ n ih =>
    have hblank : isBlank ' ' = true := rfl
    have htab : (gap.isLines && ' ' == '\t' && decide (mark.column < indent)) = false := by
      rw [h]
      rfl
    rw [Written.blanks, List.replicate_succ, List.cons_append, readFrom_cons (by decide),
      if_pos hblank, htab, if_neg Bool.false_ne_true, Gap.addBlank_of_isLines h,
      Nat.add_comm, ← Mark.advance_advance]
    exact ih (mark.advance 1)

/-- A line break ends the scalar, if the next line is not indented enough.  The reader stops in the
next line, behind its indentation. -/
theorem readFrom_line {indent n : Nat} {rest : List Char} (hn : n < indent) (hrest : IsFlush rest)
    (text : List Char) (mark : Mark) :
    readFrom ⟨false, indent⟩ text .none ('\n' :: (Written.blanks n ++ rest)) mark =
      .ok ⟨text.reverse, ⟨rest, (mark.newLine 1).advance n⟩, true⟩ := by
  have hgap : (Gap.none.addBreak '\n').isLines = true := rfl
  have hblank : isBlank '\n' = false := rfl
  have hbreak : isBreak '\n' = true := rfl
  rw [readFrom_cons (by decide), hblank, if_neg Bool.false_ne_true, if_pos hbreak,
    readFrom_blanks hgap]
  cases rest with
  | nil => rfl
  | cons c cs =>
    obtain ⟨hspace, -⟩ := hrest c rfl
    rw [isSpace, Bool.or_eq_false_iff] at hspace
    have hcolumn : ((mark.newLine 1).advance n).column < indent := by
      show 0 + n < indent
      omega
    have hends : endsAfterGap ⟨false, indent⟩ ⟨c :: cs, (mark.newLine 1).advance n⟩ = true := by
      rw [endsAfterGap, decide_eq_true hcolumn]
      rfl
    rw [readFrom_cons (ne_return_of_not_isBreak hspace.2), hspace.1, if_neg Bool.false_ne_true,
      hspace.2, if_neg Bool.false_ne_true, hends]
    rfl

/-- **A text that stands without quotes is read as a whole**, up to what comes after it. -/
theorem read_append {indent : Nat} {cs : List Char} (stop : List Char) {mark : Mark}
    (h : Written.standsPlain cs = true)
    (hcolumn : ' ' ∈ cs → indent ≤ mark.column ∧ 0 < mark.column) :
    read ⟨false, indent⟩ ⟨cs ++ stop, mark⟩ =
      readFrom ⟨false, indent⟩ cs.reverse .none stop (mark.advance cs.length) := by
  cases cs with
  | nil => cases h
  | cons c cs =>
    have hstanding := Written.standing_of_standsPlain h
    have happend : readFrom ⟨false, indent⟩ [] .none (c :: cs ++ stop) mark =
        readFrom ⟨false, indent⟩ ((c :: cs).reverse ++ Gap.none.close []) .none stop
          (mark.advance (c :: cs).length) :=
      readFrom_append stop hstanding.isLine (hstanding.misleadsAfter_eq 'x') hstanding.last_ne rfl
        (fun hnone => by cases hnone) (fun hor => hcolumn (hor.resolve_right (by decide)))
    rw [read, happend, Gap.close, List.append_nil]

end Plain

/-! ## Quoted scalars -/

namespace Quoted

open Written (doubled)

theorem readSingle_cons {c : Char} {cs : List Char} (hreturn : c ≠ '\r')
    (hquote : c = '\'' → cs.head? ≠ some '\'') (text : List Char) (gap : Gap) (mark : Mark) :
    readSingle text gap (c :: cs) mark =
      if isBlank c then readSingle text (gap.addBlank c) cs (mark.advance 1)
      else if isBreak c then readSingle text (gap.addBreak c) cs (mark.newLine 1)
      else if (Cursor.mk (c :: cs) mark).atMarker then .error ⟨.markerInQuotes, mark⟩
      else if c = '\'' then .ok ⟨(gap.close text).reverse, ⟨cs, mark.advance 1⟩⟩
      else readSingle (c :: gap.close text) .none cs (mark.advance 1) := by
  rw [readSingle]
  · exact fun _ hc _ => hreturn hc
  · rintro ds hc rfl
    exact hquote hc rfl

/-- Between the quotes, each character extends what was read, and the closing quote ends it. -/
theorem readSingle_doubled {cs rest : List Char} {text : List Char} {gap : Gap} {mark : Mark}
    (hline : IsLine cs) (hrest : rest.head? ≠ some '\'') (hlines : gap.isLines = false)
    (hcolumn : 0 < mark.column) :
    readSingle text gap (doubled cs ++ '\'' :: rest) mark =
      .ok ⟨(cs.reverse ++ gap.close text).reverse,
        ⟨rest, mark.advance ((doubled cs).length + 1)⟩⟩ := by
  induction cs generalizing text gap mark with
  | nil =>
    rw [doubled, List.flatMap_nil, List.nil_append, readSingle_cons (by decide) (fun _ => hrest),
      Cursor.not_atMarker hcolumn]
    rfl
  | cons c cs ih =>
    have hc : isInline c = true := hline c List.mem_cons_self
    have hmore : IsLine cs := fun d hd => hline d (List.mem_cons_of_mem c hd)
    have hbreak : isBreak c = false := not_isBreak_of_isInline hc
    rw [List.reverse_cons, List.append_assoc, List.singleton_append]
    by_cases hquote : c = '\''
    · subst hquote
      have hd : doubled ('\'' :: cs) = '\'' :: '\'' :: doubled cs := rfl
      rw [hd, List.cons_append, List.cons_append, readSingle,
        ih hmore rfl (by rw [Mark.column_advance]; omega), Mark.advance_advance]
      congr 4
      simp only [List.length_cons]
      omega
    · have hd : doubled (c :: cs) = c :: doubled cs := by
        rw [doubled, List.flatMap_cons, if_neg hquote]
        rfl
      have hlen : (c :: doubled cs).length + 1 = 1 + ((doubled cs).length + 1) := by
        rw [List.length_cons]
        omega
      rw [hd, List.cons_append, hlen, ← Mark.advance_advance,
        readSingle_cons (ne_return_of_not_isBreak hbreak) (fun h => absurd h hquote)]
      have hcol : 0 < (mark.advance 1).column := by
        rw [Mark.column_advance]
        omega
      by_cases hblank : isBlank c = true
      · rw [if_pos hblank, ih hmore (Gap.isLines_addBlank hlines c) hcol,
          Gap.close_addBlank hlines]
      · rw [if_neg hblank, hbreak, if_neg Bool.false_ne_true, Cursor.not_atMarker hcolumn,
          if_neg Bool.false_ne_true, if_neg hquote, ih hmore rfl hcol]
        rfl

/-- **A text between single quotes is read as a whole**, and nothing after the closing quote. -/
theorem read_single {cs rest : List Char} (hline : IsLine cs) (hrest : rest.head? ≠ some '\'')
    (mark : Mark) :
    read true ⟨'\'' :: (doubled cs ++ '\'' :: rest), mark⟩ =
      .ok ⟨cs, ⟨rest, mark.advance ((doubled cs).length + 2)⟩⟩ := by
  have hcolumn : 0 < (mark.advance 1).column := by
    rw [Mark.column_advance]
    omega
  have hlength : (doubled cs).length + 2 = 1 + ((doubled cs).length + 1) := by omega
  rw [hlength, ← Mark.advance_advance, read, if_pos rfl]
  refine (readSingle_doubled hline hrest rfl hcolumn).trans ?_
  rw [Gap.close, List.append_nil, List.reverse_reverse]

end Quoted

/-! ## What is written for a text -/

theorem isInline_of_ascii {c : Char} (hlow : 0x20 ≤ c.toNat) (hhigh : c.toNat ≤ 0x7E) :
    isInline c = true := by
  have hne {d : Char} (hd : d.toNat < 0x20 ∨ 0x7E < d.toNat) : c ≠ d := by
    rintro rfl
    omega
  have hprintable : isPrintable c = true := by
    simp only [isPrintable, hlow, hhigh, decide_true, Bool.and_true, Bool.or_true, Bool.true_or]
  simp only [isInline, Written.isPlainlyPrintable, isBreak, hprintable, Bool.true_and, bne,
    beq_false_of_ne (hne (d := '\t') (by decide)), beq_false_of_ne (hne (d := '\r') (by decide)),
    beq_false_of_ne (hne (d := '\x85') (by decide)), beq_false_of_ne (hne (d := '\n') (by decide)),
    beq_false_of_ne (hne (d := '\u2028') (by decide)),
    beq_false_of_ne (hne (d := '\u2029') (by decide))]
  rfl

/-- A letter, a digit or an underscore. -/
def isWordChar (c : Char) : Bool := c.isAlphanum || c == '_'

/-- A word of letters, digits and underscores. -/
def IsWord (cs : List Char) : Prop := cs ≠ [] ∧ ∀ c ∈ cs, isWordChar c = true

instance (cs : List Char) : Decidable (IsWord cs) :=
  decidable_of_iff (cs ≠ [] ∧ cs.all isWordChar = true) (by rw [IsWord, List.all_eq_true])

theorem ne_of_isWordChar {c d : Char} (hc : isWordChar c = true) (hd : isWordChar d = false) :
    c ≠ d := by
  rintro rfl
  rw [hc] at hd
  cases hd

theorem isInline_of_isWordChar {c : Char} (h : isWordChar c = true) : isInline c = true := by
  have hbounds : 0x20 ≤ c.toNat ∧ c.toNat ≤ 0x7E := by
    simp only [isWordChar, Char.isAlphanum, Char.isAlpha, Char.isUpper, Char.isLower,
      Char.isDigit, Bool.or_eq_true, Bool.and_eq_true, decide_eq_true_eq, beq_iff_eq,
      UInt32.le_iff_toNat_le] at h
    rw [← Char.toNat_val]
    rcases h with ((h | h) | h) | rfl
    · exact ⟨Nat.le_trans (by decide) h.1, Nat.le_trans h.2 (by decide)⟩
    · exact ⟨Nat.le_trans (by decide) h.1, Nat.le_trans h.2 (by decide)⟩
    · exact ⟨Nat.le_trans (by decide) h.1, Nat.le_trans h.2 (by decide)⟩
    · decide
  exact isInline_of_ascii hbounds.1 hbounds.2

namespace Written

theorem misleadsAfter_of_words {cs : List Char} (h : ∀ c ∈ cs, isWordChar c = true) (p : Char) :
    misleadsAfter p cs = false := by
  induction cs generalizing p with
  | nil => rfl
  | cons c cs ih =>
    have hc : isWordChar c = true := h c List.mem_cons_self
    rw [misleadsAfter, beq_false_of_ne (ne_of_isWordChar hc (d := ':') (by decide)),
      beq_false_of_ne (ne_of_isWordChar hc (d := '#') (by decide)),
      ih (fun d hd => h d (List.mem_cons_of_mem c hd))]
    rfl

/-- A word needs no quotes to be read as it is. -/
theorem standsPlain_of_isWord {cs : List Char} (h : IsWord cs) : standsPlain cs = true := by
  obtain ⟨hne, hword⟩ := h
  obtain ⟨c, cs, rfl⟩ := List.exists_cons_of_ne_nil hne
  have hc : isWordChar c = true := hword c List.mem_cons_self
  have hnot {l : List Char} (hl : l.any isWordChar = false) : l.contains c = false := by
    rw [List.contains_eq_mem, decide_eq_false_iff_not]
    exact fun hmem => List.any_eq_false.mp hl c hmem hc
  have hblank (d : Char) (hd : d ∈ c :: cs) : isBlankSpace d = false :=
    beq_false_of_ne (ne_of_isWordChar (hword d hd) (by decide))
  have hmarker : startsLikeMarker (c :: cs) = false := by
    rw [startsLikeMarker]
    · rintro ds hdash
      exact ne_of_isWordChar hc (d := '-') (by decide) (List.head_eq_of_cons_eq hdash)
    · rintro ds hdot
      exact ne_of_isWordChar hc (d := '.') (by decide) (List.head_eq_of_cons_eq hdot)
  have hstart : misleadsAtStart c cs.head? = false := by
    rw [misleadsAtStart, hnot (by decide), hnot (by decide)]
    rfl
  have hmisleads : misleads (c :: cs) = false := by
    rw [misleads, hmarker, hstart,
      misleadsAfter_of_words (fun d hd => hword d (List.mem_cons_of_mem c hd))]
    rfl
  have hline : (c :: cs).all isInline = true :=
    List.all_eq_true.mpr fun d hd => isInline_of_isWordChar (hword d hd)
  have hlast : (c :: cs).getLast?.any isBlankSpace = false := by
    rw [List.getLast?_eq_some_getLast hne]
    exact hblank _ (List.getLast_mem hne)
  rw [standsPlain, hmisleads, hlast, show (c :: cs).head?.any isBlankSpace = false from
    hblank c List.mem_cons_self]
  exact (Bool.and_true _).trans ((Bool.and_true _).trans hline)

theorem not_hasNeighbours {p q : Char → Bool} {cs : List Char}
    (h : (∀ c ∈ cs, p c = false) ∨ ∀ c ∈ cs, q c = false) : hasNeighbours p q cs = false := by
  fun_induction hasNeighbours p q cs with
  | case1 c d cs ih =>
    have hrest : hasNeighbours p q (d :: cs) = false :=
      ih (h.imp (fun h x hx => h x (List.mem_cons_of_mem c hx))
        (fun h x hx => h x (List.mem_cons_of_mem c hx)))
    rw [hrest, Bool.or_false, Bool.and_eq_false_iff]
    exact h.imp (fun h => h c List.mem_cons_self)
      (fun h => h d (List.mem_cons_of_mem c List.mem_cons_self))
  | case2 => rfl

theorem indented_of_no_break {cs : List Char} (h : ∀ c ∈ cs, isBreak c = false) (indent : Nat) :
    indented indent false cs = cs := by
  induction cs with
  | nil => rfl
  | cons c cs ih =>
    rw [indented, h c List.mem_cons_self, ih fun d hd => h d (List.mem_cons_of_mem c hd)]
    rfl

theorem getLast?_any_eq_false {p : Char → Bool} {cs : List Char} (h : ∀ c ∈ cs, p c = false) :
    cs.getLast?.any p = false := by
  cases hlast : cs.getLast? with
  | none => rfl
  | some c => exact h c (List.mem_of_getLast? hlast)

variable {s : String}

/-- A line between single quotes has its quotes doubled, and is otherwise as it is. -/
theorem singleQuoted_of_isLine {cs : List Char} (h : IsLine cs) (indent : Nat) :
    singleQuoted indent cs = '\'' :: (doubled cs ++ ['\'']) := by
  have hbreak : ∀ c ∈ cs, isBreak c = false := fun c hc => not_isBreak_of_isInline (h c hc)
  have hdoubled : ∀ c ∈ doubled cs, isBreak c = false := by
    intro c hc
    obtain ⟨d, hd, hcd⟩ := List.mem_flatMap.mp hc
    split at hcd
    · simp only [List.mem_cons, List.not_mem_nil, or_false, or_self] at hcd
      rw [hcd]
      rfl
    · rw [List.mem_singleton.mp hcd]
      exact hbreak d hd
  rw [singleQuoted, getLast?_any_eq_false hbreak, if_neg Bool.false_ne_true, List.append_nil,
    indented_of_no_break hdoubled]
  rfl

/-- A line is written as it is or between single quotes, and as it is only if it stands so and does
not look like anything but a text. -/
theorem style_of_isLine (h : IsLine s.toList) :
    style s = .plain ∧ standsPlain s.toList = true ∧ looksTyped s = false ∨
      style s = .singleQuoted := by
  have hbreak : ∀ c ∈ s.toList, isBreak c = false := fun c hc => not_isBreak_of_isInline (h c hc)
  have hfeed : s.toList.contains '\n' = false := by
    rw [List.contains_eq_mem, decide_eq_false_iff_not]
    intro hmem
    exact absurd (hbreak _ hmem) (by decide)
  have hquoted : standsQuoted s.toList = true := by
    have hall : s.toList.all isPlainlyPrintable = true :=
      List.all_eq_true.mpr fun c hc => (Bool.and_eq_true_iff.mp (h c hc)).1
    rw [standsQuoted, hall, not_hasNeighbours (.inl hbreak), not_hasNeighbours (.inr hbreak)]
    rfl
  simp only [style, hfeed, hquoted, if_true, Bool.false_eq_true, if_false]
  cases htyped : looksTyped s <;> cases hplain : standsPlain s.toList <;> simp

theorem not_looksTyped_of_style_eq_plain (h : style s = .plain) : looksTyped s = false := by
  cases htyped : looksTyped s with
  | false => rfl
  | true =>
    simp only [style, htyped, Bool.true_or, if_true] at h
    split at h <;> split at h <;> cases h

/-- The characters of a line in a style, without the line break after it. -/
def inStyle (style : ScalarStyle) (cs : List Char) : List Char :=
  if style = .plain then cs else '\'' :: (doubled cs ++ ['\''])

/-- The reader of the style takes the text back. -/
def Suits (style : ScalarStyle) (cs : List Char) : Prop :=
  style = .plain ∧ standsPlain cs = true ∨ style = .singleQuoted ∧ IsLine cs

theorem suits_style (h : IsLine s.toList) : Suits (style s) s.toList :=
  (style_of_isLine h).imp (fun hplain => ⟨hplain.1, hplain.2.1⟩) (fun hquoted => ⟨hquoted, h⟩)

/-- A line is written in its style, and a line break after it. -/
theorem text_of_isLine (h : IsLine s.toList) (indent : Nat) :
    text indent s = inStyle (style s) s.toList ++ ['\n'] := by
  rcases style_of_isLine h with ⟨hstyle, -, -⟩ | hstyle
  · have hlast : s.toList.getLast?.any isBreak = false :=
      getLast?_any_eq_false fun c hc => not_isBreak_of_isInline (h c hc)
    simp only [text, hstyle, inStyle, hlast, Bool.false_eq_true, if_false, if_true]
  · have hlast : ('\'' :: (doubled s.toList ++ ['\''])).getLast?.any isBreak = false := by
      rw [← List.cons_append, List.getLast?_append]
      rfl
    simp only [text, hstyle, inStyle, hlast, Bool.false_eq_true, if_false,
      singleQuoted_of_isLine h, reduceCtorEq]

end Written

theorem IsWord.isFlush_append {key : List Char} (h : IsWord key) (rest : List Char) :
    IsFlush (key ++ rest) := by
  obtain ⟨c, cs, rfl⟩ := List.exists_cons_of_ne_nil h.1
  have hc : isWordChar c = true := h.2 c List.mem_cons_self
  rintro _ ⟨⟩
  have hstanding := Written.standing_of_standsPlain (Written.standsPlain_of_isWord h)
  exact ⟨hstanding.isSpace_eq, ne_of_isWordChar hc (by decide)⟩

end RadioFrontEnd.Yaml
