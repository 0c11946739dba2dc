import RadioFrontEnd.Proofs.Yaml.Tokens

/-!
# The tokens of a written record

The scanner sees lines; a record is a tree.  An `Outline` is a record with its layout: each scalar in
its style, and for each record within how much deeper it stands than the keys around it.
`Outline.kinds` gives the tokens that it should be cut into, and `Outline.tokens_render` says that it
is cut into these and that the text goes wrong nowhere.

The induction is over the outline.  A value is scanned from behind its colon to the line after it,
whatever that line holds, as long as it is not deeper than the key (`ScansAsValue`).  The entries of
a record come in two ways: as further entries of a block (`ScanAsEntries`), or as the entries with
which a deeper block starts (`ScanAsBlock`).  Only the first entry tells the two apart, and the
induction carries both.

What can be written this way is `IsLegible`.  An empty record has no line to start with, and a text
of several lines is written in a block of its own.

What the library writes itself is a `Tree`, which has no layout: numbers are decimal, texts are in
the style that they need, and every record is two columns deeper.  `Tree.outline` is the outline that
is written for it.
-/

namespace RadioFrontEnd

theorem Numeral.isDigit_of_mem_decimalDigits {n : Nat} {c : Char} (h : c ∈ decimalDigits n) :
    c.isDigit = true :=
  Nat.isDigit_of_mem_toDigits (by decide) (by decide) h

namespace Yaml

/-- A value with the way in which it is written. -/
inductive Outline where
  /-- A scalar in a style. -/
  | scalar (style : ScalarStyle) (text : String)
  /-- A record, so many columns deeper than the keys around it. -/
  | record (depth : Nat) (entries : List (String × Outline))

namespace Outline

/-! ## Records that can be written -/

mutual

/-- A value after its key, with the line break after it. -/
def after (column : Nat) : Outline → List Char
  | scalar style text => ' ' :: (Written.inStyle style text.toList ++ ['\n'])
  | record depth entries => '\n' :: lines (column + depth) entries

/-- The entries of a record, each at the column. -/
def lines (column : Nat) : List (String × Outline) → List Char
  | [] => []
  | (key, value) :: entries =>
    Written.blanks column ++ key.toList ++ ':' :: after column value ++ lines column entries

end

/-- A record as a document. -/
def render (entries : List (String × Outline)) : String := .ofList (lines 0 entries)

mutual

/-- Every scalar is one line that its style takes back, every key is one, and each record within is
deeper and not empty. -/
def IsLegible : Outline → Prop
  | scalar style text => Written.Suits style text.toList
  | record depth entries => 0 < depth ∧ entries ≠ [] ∧ AreLegible entries

/-- The entries of a record are legible. -/
def AreLegible : List (String × Outline) → Prop
  | [] => True
  | (key, value) :: entries =>
    Scanner.IsKey key.toList ∧ value.IsLegible ∧ AreLegible entries

end

theorem areLegible_iff {entries : List (String × Outline)} :
    AreLegible entries ↔
      ∀ entry ∈ entries, Scanner.IsKey entry.1.toList ∧ entry.2.IsLegible := by
  induction entries with
  | nil =>
    rw [AreLegible]
    exact ⟨fun _ _ hmem => absurd hmem List.not_mem_nil, fun _ => trivial⟩
  | cons entry entries ih => rw [AreLegible, ih, List.forall_mem_cons, and_assoc]

mutual

/-- The tokens of a value, in order. -/
def kinds : Outline → List TokenKind
  | scalar style text => [.scalar style text]
  | record _ entries => .blockMappingStart :: entryKinds entries ++ [.blockEnd]

/-- The tokens of the entries of a record. -/
def entryKinds : List (String × Outline) → List TokenKind
  | [] => []
  | (key, value) :: entries =>
    .key :: .scalar .plain key :: .value :: value.kinds ++ entryKinds entries

end

/-- What holds of scalars, and of records and entries if it holds of what is in them, holds of
everything that is written. -/
theorem induction {P : Outline → Prop} {Q : List (String × Outline) → Prop}
    (scalar : ∀ style text, P (.scalar style text))
    (record : ∀ depth entries, Q entries → P (.record depth entries)) (nil : Q [])
    (cons : ∀ key value entries, P value → Q entries → Q ((key, value) :: entries)) :
    (∀ o, P o) ∧ ∀ entries, Q entries := by
  have hentry (key : String) (value : Outline) (h : P value) : P (key, value).2 := h
  have hcons (entry : String × Outline) (entries : List (String × Outline)) (hvalue : P entry.2)
      (h : Q entries) : Q (entry :: entries) := cons entry.1 entry.2 entries hvalue h
  exact ⟨@rec P Q (fun entry => P entry.2) scalar record nil hcons hentry,
    @rec_1 P Q (fun entry => P entry.2) scalar record nil hcons hentry⟩

/-! ## What is written for them -/

/-- An entry is its key, a colon, and what is written for the value. -/
theorem lines_cons_append (column : Nat) (key : String) (value : Outline)
    (entries : List (String × Outline)) (rest : List Char) :
    lines column ((key, value) :: entries) ++ rest =
      Written.blanks column ++
        (key.toList ++ ':' :: (value.after column ++ (lines column entries ++ rest))) := by
  simp only [lines, List.append_assoc, List.cons_append]

theorem startsWithSpace_after_append (o : Outline) (column : Nat) (rest : List Char) :
    startsWithSpace (o.after column ++ rest) = true := by
  cases o <;> rw [after] <;> rfl

/-- The first line of some entries stands at their column, and without entries comes the rest. -/
theorem dedented_lines_append {entries : List (String × Outline)} {rest : List Char} {column : Nat}
    (h : AreLegible entries) (hrest : IsFlush (unindented rest))
    (hindent : indentation rest ≤ column) :
    IsFlush (unindented (lines column entries ++ rest)) ∧
      indentation (lines column entries ++ rest) ≤ column := by
  cases entries with
  | nil => exact ⟨hrest, hindent⟩
  | cons entry entries =>
    obtain ⟨key, value⟩ := entry
    rw [AreLegible] at h
    have hflush := h.1.1.isFlush_append
      (':' :: (value.after column ++ (lines column entries ++ rest)))
    rw [lines_cons_append, unindented_blanks_append hflush, indentation_blanks_append hflush]
    exact ⟨hflush, Nat.le_refl column⟩

/-! ## The tokens of a written record -/

open Scanner

/-- A value is cut into its tokens, and the scanner gets to the line after it. -/
def ScansAsValue (o : Outline) : Prop :=
  o.IsLegible → ∀ {s : Scanner} {rest : List Char} {column : Nat} {blocks : List Nat}
    {kinds : List TokenKind}, s.AtValue (o.after column ++ rest) column blocks kinds →
    IsFlush (unindented rest) → indentation rest ≤ column →
    ∃ u : Scanner, s.run = u.run ∧ u.AtLine rest (column :: blocks) (kinds ++ o.kinds)

/-- Entries of the innermost block are cut into their tokens. -/
def ScanAsEntries (entries : List (String × Outline)) : Prop :=
  AreLegible entries → ∀ {s : Scanner} {rest : List Char} {column : Nat} {blocks : List Nat}
    {kinds : List TokenKind}, s.AtLine (lines column entries ++ rest) (column :: blocks) kinds →
    IsFlush (unindented rest) → indentation rest ≤ column →
    ∃ u : Scanner, s.run = u.run ∧ u.AtLine rest (column :: blocks) (kinds ++ entryKinds entries)

/-- Entries that are deeper than the open blocks are cut into the start of a block and their
tokens. -/
def ScanAsBlock (entries : List (String × Outline)) : Prop :=
  entries ≠ [] → AreLegible entries → ∀ {s : Scanner} {rest : List Char} {column : Nat}
    {blocks : List Nat} {kinds : List TokenKind},
    s.AtLine (lines column entries ++ rest) blocks kinds → (∀ i ∈ blocks.head?, i < column) →
    IsFlush (unindented rest) → indentation rest ≤ column →
    ∃ u : Scanner, s.run = u.run ∧
      u.AtLine rest (column :: blocks) (kinds ++ .blockMappingStart :: entryKinds entries)

theorem scansAsValue_scalar (style : ScalarStyle) (text : String) :
    (Outline.scalar style text).ScansAsValue := by
  intro ho s rest column blocks kinds hs hrest hindent
  rw [IsLegible] at ho
  rw [after, List.cons_append, List.append_assoc, List.singleton_append] at hs
  obtain ⟨u, hrun, hu⟩ := hs.exists_scalar ho hrest hindent
  rw [String.ofList_toList] at hu
  exact ⟨u, hrun, by rwa [Outline.kinds]⟩

theorem ScanAsBlock.record {entries : List (String × Outline)} (h : ScanAsBlock entries)
    (depth : Nat) : (Outline.record depth entries).ScansAsValue := by
  intro ho s rest column blocks kinds hs hrest hindent
  rw [IsLegible] at ho
  obtain ⟨hdepth, hne, hlegible⟩ := ho
  rw [after, List.cons_append] at hs
  have hdeeper : indentation rest ≤ column + depth := Nat.le_add_right_of_le hindent
  have hline := hs.atLine (dedented_lines_append hlegible hrest hdeeper).1
  obtain ⟨u, hrun, hu⟩ := h hne hlegible hline (by rintro _ ⟨⟩; omega) hrest hdeeper
  refine ⟨u, hrun, ?_⟩
  rw [Outline.kinds, ← List.append_assoc]
  exact hu.close (by omega)

/-- Once the key of an entry is passed, its value and the entries after it follow. -/
theorem ScansAsValue.exists_entries {key : String} {value : Outline}
    {entries : List (String × Outline)} (hvalue : value.ScansAsValue)
    (hentries : ScanAsEntries entries) (hv : value.IsLegible) (hmore : AreLegible entries)
    {s t : Scanner} {rest : List Char} {column : Nat} {blocks : List Nat} {kinds : List TokenKind}
    (hrun : s.run = t.run)
    (ht : t.AtValue (value.after column ++ (lines column entries ++ rest)) column blocks
      (kinds ++ [.key, .scalar .plain (.ofList key.toList), .value]))
    (hrest : IsFlush (unindented rest)) (hindent : indentation rest ≤ column) :
    ∃ u : Scanner, s.run = u.run ∧
      u.AtLine rest (column :: blocks) (kinds ++ entryKinds ((key, value) :: entries)) := by
  -- What comes after the value is at most as deep as its key.
  obtain ⟨hnext, hcolumn⟩ := dedented_lines_append hmore hrest hindent
  obtain ⟨u, hrun', hu⟩ := hvalue hv ht hnext hcolumn
  obtain ⟨w, hrun'', hw⟩ := hentries hmore hu hrest hindent
  refine ⟨w, hrun.trans (hrun'.trans hrun''), ?_⟩
  rw [String.ofList_toList] at hw
  simpa only [entryKinds, List.append_assoc, List.cons_append, List.nil_append] using hw

/-- **Values, entries and blocks are cut into their tokens**, wherever they stand. -/
theorem scans : (∀ o : Outline, o.ScansAsValue) ∧
    ∀ entries, ScanAsEntries entries ∧ ScanAsBlock entries := by
  refine Outline.induction scansAsValue_scalar (fun depth entries h => h.2.record depth)
    ⟨?_, ?_⟩ ?_
  · intro _ s rest column blocks kinds hs _ _
    exact ⟨s, rfl, by rwa [entryKinds, List.append_nil]⟩
  · intro hne
    exact absurd rfl hne
  · intro key value entries hvalue hentries
    refine ⟨?_, ?_⟩
    · intro hlegible s rest column blocks kinds hs hrest hindent
      rw [AreLegible] at hlegible
      obtain ⟨hkey, hv, hmore⟩ := hlegible
      rw [lines_cons_append] at hs
      obtain ⟨t, hrun, ht⟩ := hs.exists_key hkey (startsWithSpace_after_append value _ _)
      exact hvalue.exists_entries hentries.1 hv hmore hrun ht hrest hindent
    · intro _ hlegible s rest column blocks kinds hs hblocks hrest hindent
      rw [AreLegible] at hlegible
      obtain ⟨hkey, hv, hmore⟩ := hlegible
      rw [lines_cons_append] at hs
      obtain ⟨t, hrun, ht⟩ := hs.exists_first_key hkey (startsWithSpace_after_append value _ _)
        hblocks
      have hstart : kinds ++ .blockMappingStart :: entryKinds ((key, value) :: entries) =
          kinds ++ [.blockMappingStart] ++ entryKinds ((key, value) :: entries) := by
        rw [List.append_assoc, List.singleton_append]
      rw [hstart]
      refine hvalue.exists_entries hentries.1 hv hmore hrun ?_ hrest hindent
      rwa [List.append_assoc]

/-! ## The whole text -/

theorem isPrintable_of_mem_inStyle {style : ScalarStyle} {cs : List Char}
    (h : Written.Suits style cs) {c : Char} (hc : c ∈ Written.inStyle style cs) :
    isPrintable c = true := by
  rcases h with ⟨rfl, hcs⟩ | ⟨rfl, hcs⟩
  · cases cs with
    | nil => cases hcs
    | cons d cs =>
      exact isPrintable_of_isInline ((Written.standing_of_standsPlain hcs).isLine c hc)
  · rw [Written.inStyle, if_neg (by decide)] at hc
    simp only [List.mem_cons, List.mem_append, List.not_mem_nil, or_false] at hc
    rcases hc with rfl | hc | rfl
    · decide
    · obtain ⟨d, hd, hcd⟩ := List.mem_flatMap.mp hc
      split at hcd
      · simp only [List.mem_cons, List.not_mem_nil, or_false, or_self] at hcd
        rw [hcd]
        decide
      · rw [List.mem_singleton.mp hcd]
        exact isPrintable_of_isInline (hcs d hd)
    · decide

theorem isPrintable_of_mem : (∀ o : Outline, o.IsLegible → ∀ column, ∀ c ∈ o.after column,
      isPrintable c = true) ∧
    ∀ entries, AreLegible entries → ∀ column, ∀ c ∈ lines column entries,
      isPrintable c = true := by
  refine Outline.induction ?_ ?_ ?_ ?_
  · intro style text ho column c hc
    rw [IsLegible] at ho
    rw [after] at hc
    simp only [List.mem_cons, List.mem_append, List.not_mem_nil, or_false] at hc
    rcases hc with rfl | hc | rfl
    · decide
    · exact isPrintable_of_mem_inStyle ho hc
    · decide
  · intro depth entries h ho column c hc
    rw [IsLegible] at ho
    rw [after, List.mem_cons] at hc
    rcases hc with rfl | hc
    · decide
    · exact h ho.2.2 _ c hc
  · intro _ _ c hc
    rw [lines] at hc
    cases hc
  · intro key value entries hvalue hentries hlegible column c hc
    rw [AreLegible] at hlegible
    obtain ⟨hkey, hv, hmore⟩ := hlegible
    rw [lines] at hc
    simp only [List.mem_append, List.mem_cons] at hc
    rcases hc with ((hc | hc) | rfl | hc) | hc
    · rw [List.eq_of_mem_replicate hc]
      decide
    · exact isPrintable_of_isInline (isInline_of_isWordChar (hkey.1.2 c hc))
    · decide
    · exact hvalue hv column c hc
    · exact hentries hmore column c hc

/-- A printable text is scanned as it is. -/
theorem tokens_eq_run {text : List Char} (h : ∀ c ∈ text, isPrintable c = true) :
    tokens text = (Scanner.start text).run := by
  have hcontrol : controlCharacter? text = none := by
    rw [controlCharacter?, List.findIdx?_eq_none_iff]
    exact fun c hc => by rw [h c hc]; rfl
  have hmark : text.head? ≠ some '\uFEFF' := fun hhead =>
    absurd (h _ (List.mem_of_mem_head? hhead)) (by decide)
  rw [tokens]
  simp only [if_neg hmark, hcontrol]

/-- **A written record is cut into its tokens**, and the text goes nowhere wrong. -/
theorem tokens_render {entries : List (String × Outline)} (hne : entries ≠ [])
    (h : AreLegible entries) (depth : Nat) :
    (tokens (render entries).toList).failure = none ∧
      (tokens (render entries).toList).tokens.map (·.kind) =
        (Outline.record depth entries).kinds ++ [.streamEnd] := by
  have hscan : tokens (render entries).toList = (Scanner.start (lines 0 entries)).run := by
    rw [render, String.toList_ofList]
    exact tokens_eq_run (isPrintable_of_mem.2 entries h 0)
  have hempty : IsFlush (unindented []) := by
    rintro _ ⟨⟩
  obtain ⟨hflush, hindent⟩ := dedented_lines_append h hempty (Nat.le_refl 0)
  have hstart : (Scanner.start (lines 0 entries)).AtLine (lines 0 entries ++ []) [] [] := by
    have htext := blanks_indentation_append (lines 0 entries ++ [])
    rw [Nat.le_zero.mp hindent] at htext
    have hunindented : unindented (lines 0 entries ++ []) = lines 0 entries ++ [] := htext
    rw [hunindented, List.append_nil] at hflush
    rw [List.append_nil]
    exact atLine_start hflush
  obtain ⟨u, hrun, hu⟩ := (scans.2 entries).2 hne h hstart (by simp) hempty (Nat.le_refl 0)
  obtain ⟨hfailure, hkinds⟩ := hu.run_eq (by rintro _ ⟨⟩; exact Nat.le_refl 0)
  rw [hscan, hrun, hkinds]
  refine ⟨hfailure, ?_⟩
  simp [Outline.kinds]

end Outline

namespace Tree

/-! ## What the library writes -/

mutual

/-- Every text is one line, every key is one, and no record within is empty. -/
def IsLegible : Tree → Prop
  | null | boolean _ | natural _ => True
  | text s => IsLine s.toList
  | mapping entries => entries ≠ [] ∧ AreLegible entries

/-- The entries of a record are legible. -/
def AreLegible : List (String × Tree) → Prop
  | [] => True
  | (key, value) :: entries =>
    Scanner.IsKey key.toList ∧ value.IsLegible ∧ AreLegible entries

end

mutual

/-- The layout that a value gets. -/
def outline : Tree → Outline
  | null => .scalar .plain "null"
  | boolean b => .scalar .plain (if b then "true" else "false")
  | natural n => .scalar .plain (Numeral.decimal n)
  | text s => .scalar (Written.style s) s
  | mapping entries => .record 2 (outlines entries)

/-- The layout of the entries of a record. -/
def outlines : List (String × Tree) → List (String × Outline)
  | [] => []
  | (key, value) :: entries => (key, value.outline) :: outlines entries

end

theorem isWord_decimal (n : Nat) : IsWord (Numeral.decimal n).toList := by
  rw [Numeral.decimal, String.toList_ofList]
  refine ⟨Nat.toDigits_ne_nil, fun c hc => ?_⟩
  have hdigit : c.isDigit = true := Numeral.isDigit_of_mem_decimalDigits hc
  rw [isWordChar, Char.isAlphanum, hdigit, Bool.or_true, Bool.true_or]

theorem suits_of_isWord {cs : List Char} (h : IsWord cs) : Written.Suits .plain cs :=
  .inl ⟨rfl, Written.standsPlain_of_isWord h⟩

theorem outlines_eq_map (entries : List (String × Tree)) :
    outlines entries = entries.map fun entry => (entry.1, entry.2.outline) := by
  induction entries with
  | nil => rw [outlines, List.map_nil]
  | cons entry entries ih => rw [outlines, ih, List.map_cons]

theorem outlines_ne_nil {entries : List (String × Tree)} (h : entries ≠ []) :
    outlines entries ≠ [] := by
  rw [outlines_eq_map, ne_eq, List.map_eq_nil_iff]
  exact h

mutual

/-- What is legible is so in its layout, and it is written in it. -/
theorem laidOut : ∀ t : Tree, t.IsLegible →
    t.outline.IsLegible ∧ ∀ column, t.after column = t.outline.after column
  | null, _ => by
    rw [outline, Outline.IsLegible]
    exact ⟨suits_of_isWord (by decide), fun column => by rw [after, Outline.after]; rfl⟩
  | boolean b, _ => by
    rw [outline, Outline.IsLegible]
    refine ⟨suits_of_isWord (by cases b <;> decide), fun column => ?_⟩
    rw [after, Outline.after]
    cases b <;> rfl
  | natural n, _ => by
    rw [outline, Outline.IsLegible]
    refine ⟨suits_of_isWord (isWord_decimal n), fun column => ?_⟩
    rw [after, Outline.after, Written.inStyle, if_pos rfl, Numeral.decimal, String.toList_ofList]
    rfl
  | text s, h => by
    rw [IsLegible] at h
    rw [outline, Outline.IsLegible]
    refine ⟨Written.suits_style h, fun column => ?_⟩
    rw [after, Outline.after, Written.text_of_isLine h]
  | mapping entries, h => by
    rw [IsLegible] at h
    obtain ⟨hlegible, hlines⟩ := laidOut_entries entries h.2
    rw [outline, Outline.IsLegible]
    refine ⟨⟨by decide, outlines_ne_nil h.1, hlegible⟩, fun column => ?_⟩
    rw [after, Outline.after, hlines]

theorem laidOut_entries : ∀ entries : List (String × Tree), AreLegible entries →
    Outline.AreLegible (outlines entries) ∧
      ∀ column, lines column entries = Outline.lines column (outlines entries)
  | [], _ => by
    rw [outlines, Outline.AreLegible]
    exact ⟨trivial, fun column => by rw [lines, Outline.lines]⟩
  | (key, value) :: entries, h => by
    rw [AreLegible] at h
    obtain ⟨hvalue, hafter⟩ := laidOut value h.2.1
    obtain ⟨hmore, hlines⟩ := laidOut_entries entries h.2.2
    rw [outlines, Outline.AreLegible]
    refine ⟨⟨h.1, hvalue, hmore⟩, fun column => ?_⟩
    rw [lines, Outline.lines, hafter, hlines]

end

theorem render_eq {entries : List (String × Tree)} (h : AreLegible entries) :
    render entries = Outline.render (outlines entries) := by
  rw [render, Outline.render, (laidOut_entries entries h).2]

end Tree
end Yaml
end RadioFrontEnd
