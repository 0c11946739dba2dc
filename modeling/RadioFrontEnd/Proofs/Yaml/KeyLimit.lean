import RadioFrontEnd.Proofs.Yaml.Decoder

/-!
# Keys that are too long

A word is a key if a colon follows it within `Scanner.maxKey` characters.  Behind a longer word the
candidate is forgotten before the colon is looked at, and the colon then stands where no key is:
there the scan ends, with the word as its only token if nothing came before.

The root of such a document is the word itself.  So a record is refused because of what is found in
its place, before the failure of the scan is told about
(`Document.exists_decode_eq_error_of_long_key`).
-/

namespace RadioFrontEnd.Yaml

namespace Scanner

/-- Behind a word that is too long, the colon is a failure. -/
theorem exists_fetch_behindKey_eq_error {key rest : List Char} (hlong : maxKey < key.length)
    (hrest : startsWithSpace rest = true) (mark : Mark) :
    ∃ failure, (behindKey key rest mark [] []).fetch =
      .error ⟨failure, { behindKey key rest mark [] [] with candidate := none }⟩ := by
  let forgotten : Scanner := { behindKey key rest mark [] [] with candidate := none }
  have hstale : (behindKey key rest mark [] []).isStale ⟨false, 0, mark⟩ = true := by
    rw [isStale_behindKey, decide_eq_true hlong]
  have hdrop : (behindKey key rest mark [] []).dropStale = .ok forgotten := by
    simp only [dropStale, behindKey, freshOnly, forgotten]
    simp
    exact hstale
  have hprepare : (behindKey key rest mark [] []).prepare = .ok forgotten := by
    rw [prepare, toNextToken_behindKey, hdrop]
    rfl
  rw [fetch_eq_of_prepare hprepare]
  show ∃ failure, forgotten.fetchAt ':' rest = _
  rw [fetchAt_colon (not_atMarker_colon rest _) hrest]
  exact ⟨_, rfl⟩

/-- **A text that starts with a key that is too long** has the word as its only token. -/
theorem exists_run_start_of_long {key rest : List Char} (hkey : IsWord key)
    (hlong : maxKey < key.length) (hrest : startsWithSpace rest = true) :
    ∃ mark failure, (start (key ++ ':' :: rest)).run =
      ⟨[⟨.scalar .plain (.ofList key), mark⟩], some failure⟩ := by
  have hflush : IsFlush (key ++ ':' :: rest) := hkey.isFlush_append (':' :: rest)
  have hunindented : unindented (key ++ ':' :: rest) = key ++ ':' :: rest :=
    unindented_blanks_append hflush 0
  obtain ⟨mark, produced, hprepare, -, hkinds, hlength⟩ :=
    (atLine_start hflush).exists_prepare (by rintro _ ⟨⟩)
  rw [hunindented] at hprepare hlength
  have hnone : produced = [] := by
    rw [kindsOf, List.map_eq_nil_iff, List.reverse_eq_nil_iff] at hkinds
    exact hkinds
  subst hnone
  obtain ⟨c, cs, rfl, hfetch⟩ := fetchAt_word hkey hrest mark [] []
  have hword : (start (c :: cs ++ ':' :: rest)).fetch =
      .ok (behindKey (c :: cs) rest mark [] []) :=
    (fetch_eq_of_prepare hprepare).trans hfetch
  obtain ⟨failure, hcolon⟩ := exists_fetch_behindKey_eq_error hlong hrest mark
  refine ⟨mark, failure, ?_⟩
  rw [run_eq_of_fetch hword rfl, run, hcolon]
  · rfl
  · refine Nat.lt_of_lt_of_le ?_ hlength
    simp only [behindKey, List.length_append, List.length_cons]
    omega

end Scanner

namespace Document

theorem readRoot_scalar {r : Reading} (h : r.failure = none) (n : Nat) (style : ScalarStyle)
    (s : String) (mark : Mark) (ts : List Token) :
    (readRoot (n + 1)).run { r with tokens := ⟨.scalar style s, mark⟩ :: ts } =
      (some (.scalar ⟨mark, none, none⟩ style s),
        { r with tokens := ts, handles := standardHandles }) := by
  have hread := readNode_scalar (n := n) (r := { r with handles := standardHandles }) h .block
    style s mark ts
  simp only [readRoot, run_bind, run_next? h, run_pure]
  exact congrArg (fun x : Node × Reading => (some x.1, x.2)) hread

/-- The document of a text that goes wrong behind a scalar with which it starts. -/
theorem ofText_scalar {text : String} {style : ScalarStyle} {s : String} {mark : Mark}
    {failure : Malformed}
    (h : tokens text.toList = ⟨[⟨.scalar style s, mark⟩], some failure⟩) :
    ofText text = ⟨some (.scalar ⟨mark, none, none⟩ style s), some failure, true⟩ := by
  let r : Reading :=
    { tokens := []
      ending := failure
      failure := none
      handles := []
      anchors := [] }
  have hr : r.failure = none := rfl
  calc ofText text
      = taken ((readRoot (4 * (tokens text.toList).tokens.length + 4)).run
          { r with
            tokens := (tokens text.toList).tokens
            ending := (tokens text.toList).failure.getD ⟨.missingNode, {}⟩ }) := rfl
    _ = taken ((readRoot 8).run { r with tokens := [⟨.scalar style s, mark⟩] }) := by
        rw [h]
        rfl
    _ = taken (some (.scalar ⟨mark, none, none⟩ style s), { r with handles := standardHandles }) :=
        congrArg taken (readRoot_scalar hr 7 style s mark [])
    _ = ⟨some (.scalar ⟨mark, none, none⟩ style s), some failure, true⟩ := rfl

/-- **A record is refused if its first key is too long.** -/
theorem exists_decode_eq_error_of_long_key {ρ : Type} {key : String} {value : Outline}
    {entries : List (String × Outline)} (hkey : IsWord key.toList)
    (hlong : Scanner.maxKey < key.toList.length) (hvalue : value.IsLegible)
    (hentries : Outline.AreLegible entries) (expected : String)
    (known : List (Decoder.Entry ρ)) (start : ρ) :
    ∃ e, (ofText (Outline.render ((key, value) :: entries))).decode
      (Decoder.record expected known start) start = .error e := by
  have htext : (Outline.render ((key, value) :: entries)).toList =
      key.toList ++ ':' :: (value.after 0 ++ Outline.lines 0 entries) := by
    rw [Outline.render, String.toList_ofList, ← List.append_nil (Outline.lines _ _),
      Outline.lines_cons_append, List.append_nil]
    rfl
  have hprintable : ∀ c ∈ (Outline.render ((key, value) :: entries)).toList,
      isPrintable c = true := by
    rw [htext]
    intro c hc
    simp only [List.mem_append, List.mem_cons] at hc
    rcases hc with hc | rfl | hc | hc
    · exact isPrintable_of_isInline (isInline_of_isWordChar (hkey.2 c hc))
    · decide
    · exact Outline.isPrintable_of_mem.1 value hvalue 0 c hc
    · exact Outline.isPrintable_of_mem.2 entries hentries 0 c hc
  obtain ⟨mark, failure, hrun⟩ := Scanner.exists_run_start_of_long hkey hlong
    (Outline.startsWithSpace_after_append value 0 (Outline.lines 0 entries))
  have htokens := Outline.tokens_eq_run hprintable
  rw [htext, hrun, String.ofList_toList, ← htext] at htokens
  have hne : key ≠ "" := by
    rintro rfl
    exact hkey.1 rfl
  rw [ofText_scalar htokens, decode]
  simp only [Decoder.record, follow, hne, and_false, if_false]
  exact ⟨_, rfl⟩

end Document
end RadioFrontEnd.Yaml
