import RadioFrontEnd.Proofs.Yaml.Literal
import RadioFrontEnd.Proofs.Yaml.Nodes
import RadioFrontEnd.Yaml.Decoder

/-!
# Decoders that take what is written

`Decoder.Takes decode o x` says that a decoder gives `x` for every node that the outline `o` may
become, and `Decoder.Refuses decode o` that it gives an error for each of them.  A decoder of a scalar
takes what is written for its values.  For numbers this is the law that literals are read back
(`Literal.readNatural?_text`), and for a text that may be missing it is the law that no text is
written so that it looks like a missing one.

A record is taken entry by entry.  An entry under a known key changes the record, and one under any
other key leaves it as it is (`Decoder.Changes`).  So the result is the changes applied in order, and
the start matters only for what no entry changes.  What can go wrong is that a known key has a value
that is refused, or that it comes twice; whatever stands around it, the record is refused then
(`Decoder.record_refuses`).
-/

namespace RadioFrontEnd.Yaml

/-! ## Scalars -/

namespace Decoder

variable {α : Type}

/-- From any node that the outline is written for, the decoder takes the value. -/
def Takes (decode : Decoder α) (o : Outline) (x : α) : Prop :=
  ∀ d path node, o.IsNode node → decode d path node = .ok x

/-- No node that the outline is written for suits the decoder. -/
def Refuses (decode : Decoder α) (o : Outline) : Prop :=
  ∀ d path node, o.IsNode node → ∃ e, decode d path node = .error e

/-- A literal below the bound is taken for its number. -/
theorem natural_takes_literal {bound : Nat} (hbound : bound ≤ UInt64.size) {l : Literal}
    (h : l.IsBelow bound) (expected : String) :
    (natural bound expected).Takes (.scalar .plain l.text) l.value.toNat := by
  rintro d path _ ⟨mark, rfl⟩
  obtain ⟨hstandard, hnonneg, hlt⟩ := h
  have hread : Value.readNatural? UInt64.size l.text.toList = some l.value.toNat := by
    rw [l.readNatural?_text]
    exact if_pos ⟨hstandard, hnonneg, Int.lt_of_lt_of_le hlt (Int.ofNat_le.mpr hbound)⟩
  simp only [natural, Document.follow, hread]
  show (if l.value.toNat < bound then Except.ok l.value.toNat else _) = _
  rw [if_pos ((Int.toNat_lt hnonneg).mpr hlt)]

/-- Any other literal is refused. -/
theorem natural_refuses_literal {bound : Nat} {l : Literal} (h : ¬ l.IsBelow bound)
    (expected : String) : (natural bound expected).Refuses (.scalar .plain l.text) := by
  rintro d path _ ⟨mark, rfl⟩
  simp only [natural, Document.follow, l.readNatural?_text]
  split_ifs with hread
  · obtain ⟨hstandard, hnonneg, -⟩ := hread
    have hpast : ¬ l.value.toNat < bound := fun hlt =>
      h ⟨hstandard, hnonneg, (Int.toNat_lt hnonneg).mp hlt⟩
    show ∃ e, (if l.value.toNat < bound then Except.ok l.value.toNat else _) = _
    rw [if_neg hpast]
    exact ⟨_, rfl⟩
  · exact ⟨_, rfl⟩

theorem natural_takes {bound n : Nat} (hbound : bound ≤ UInt64.size) (h : n < bound)
    (expected : String) :
    (natural bound expected).Takes (.scalar .plain (Numeral.decimal n)) n := by
  have hvalue : (Literal.ofInt .decimal n).value = n := Literal.value_ofInt .decimal n
  have hbelow : (Literal.ofInt .decimal n).IsBelow bound := by
    refine ⟨Literal.isStandard_ofInt .decimal n, ?_⟩
    rw [hvalue]
    exact ⟨Int.natCast_nonneg n, Int.ofNat_lt.mpr h⟩
  have htake := natural_takes_literal hbound hbelow expected
  rwa [hvalue, Int.toNat_natCast, Literal.text_ofInt_decimal] at htake

theorem boolean_takes_of_readBoolean? {s : String} {b : Bool}
    (h : Value.readBoolean? s = some b) : boolean.Takes (.scalar .plain s) b := by
  rintro d path _ ⟨mark, rfl⟩
  simp only [boolean, Document.follow, h]
  rfl

theorem boolean_takes (b : Bool) :
    boolean.Takes (.scalar .plain (if b then "true" else "false")) b :=
  boolean_takes_of_readBoolean? (by cases b <;> decide)

theorem text_takes (expected s : String) (style : ScalarStyle) :
    (text expected).Takes (.scalar style s) s := by
  rintro d path _ ⟨mark, rfl⟩
  rfl

/-- A text that is written without quotes is not taken for a missing one. -/
theorem isAbsent_style (s : String) : isAbsent none (Written.style s) s = .ok false := by
  by_cases hplain : Written.style s = .plain
  · have htyped := Written.not_looksTyped_of_style_eq_plain hplain
    simp only [Written.looksTyped, Bool.or_eq_false_iff, bne_eq_false_iff_eq] at htyped
    have hnot : ¬ (s = "" ∨ Value.isNull s = true) := fun hnull => by
      rw [Value.ofPlain, if_pos hnull] at htyped
      cases htyped.1
    rw [not_or] at hnot
    rw [isAbsent, if_neg (not_not_intro hplain)]
    simp [hnot.1, hnot.2]
  · rw [isAbsent, if_pos hplain]

theorem optional_takes (expected : String) (s : Option String) :
    (optional (text expected)).Takes ((s.map Tree.text).getD .null).outline s := by
  cases s with
  | none =>
    rintro d path _ ⟨mark, rfl⟩
    rfl
  | some s =>
    rintro d path _ ⟨mark, rfl⟩
    simp only [optional, Document.follow, isAbsent_style, ok_bind]
    rfl

theorem oneOf_takes {names : List (String × α)} {name : String} {x : α}
    (h : names.lookup name = some x) (style : ScalarStyle) :
    (oneOf names).Takes (.scalar style name) x := by
  rintro d path _ ⟨mark, rfl⟩
  simp only [oneOf, Document.follow, nameInTag?, Option.filter_none, Option.map_none, known, h]
  rfl

/-! ## Records -/

section Records

variable {ρ : Type} {known : List (Entry ρ)} {entries : List (String × Outline)}
  {changes : List (ρ → ρ)}

/-- An entry changes a record as its key asks for, and not at all under a key that is not known. -/
def Changes (known : List (Entry ρ)) (entry : String × Outline) (change : ρ → ρ) : Prop :=
  match known.find? (·.key = entry.1) with
  | some k => k.decode.Takes entry.2 change
  | none => change = id

/-- The value of an entry is refused under its key. -/
def IsRefused (known : List (Entry ρ)) (entry : String × Outline) : Prop :=
  ∃ k, known.find? (·.key = entry.1) = some k ∧ k.decode.Refuses entry.2

/-- The known ones of the keys of some entries, in order. -/
def knownKeys (known : List (Entry ρ)) (entries : List (String × Outline)) : List String :=
  (entries.map (·.1)).filter fun key => (known.find? (·.key = key)).isSome

theorem knownKeys_cons_of_some {entry : String × Outline} {k : Entry ρ}
    (h : known.find? (·.key = entry.1) = some k) :
    knownKeys known (entry :: entries) = entry.1 :: knownKeys known entries := by
  rw [knownKeys, List.map_cons, List.filter_cons_of_pos (by rw [h]; rfl)]
  rfl

theorem knownKeys_cons_of_none {entry : String × Outline}
    (h : known.find? (·.key = entry.1) = none) :
    knownKeys known (entry :: entries) = knownKeys known entries := by
  rw [knownKeys, List.map_cons, List.filter_cons_of_neg (by rw [h]; exact Bool.false_ne_true)]
  rfl

/-- What is written has nothing missing in it. -/
theorem isWhole_of_isNode : (∀ o : Outline, ∀ node, o.IsNode node → node.isWhole = true) ∧
    ∀ entries nodes, Outline.AreEntries entries nodes → Node.entriesAreWhole nodes = true := by
  refine Outline.induction ?_ ?_ ?_ ?_
  · rintro style s _ ⟨mark, rfl⟩
    rfl
  · rintro depth entries h _ ⟨mark, nodes, rfl, hnodes⟩
    rw [Node.isWhole]
    exact h nodes hnodes
  · rintro _ rfl
    rfl
  · rintro key value entries hvalue hentries _ ⟨_, valueNode, rest, rfl, ⟨mark, rfl⟩, hnode, hrest⟩
    rw [Node.entriesAreWhole, hvalue valueNode hnode, hentries rest hrest]
    rfl

/-- A key is read as its text. -/
theorem text_plain (expected : String) (d : Document) (path : List String) (mark : Mark)
    (key : String) : text expected d path (.scalar ⟨mark, none, none⟩ .plain key) = .ok key := rfl

section Step

variable {entry : String × Outline} {valueNode : Node} {rest : List (Node × Node)}
  {seen : List String} (d : Document) (path : List String) (mark : Mark) (r : ρ)

/-- An entry under a key that is not known is passed. -/
theorem takeEntries_unknown (h : known.find? (·.key = entry.1) = none)
    (hvalue : entry.2.IsNode valueNode) :
    takeEntries known d path seen r
        ((.scalar ⟨mark, none, none⟩ .plain entry.1, valueNode) :: rest) =
      takeEntries known d path seen r rest := by
  rw [takeEntries, text_plain, ok_bind, h]
  simp only [isWhole_of_isNode.1 entry.2 valueNode hvalue, if_true]

/-- A known key that came before is an error. -/
theorem takeEntries_repeated {k : Entry ρ} (h : known.find? (·.key = entry.1) = some k)
    (hseen : entry.1 ∈ seen) :
    takeEntries known d path seen r
        ((.scalar ⟨mark, none, none⟩ .plain entry.1, valueNode) :: rest) =
      .error (.mismatch (.repeated entry.1) none) := by
  rw [takeEntries, text_plain, ok_bind, h]
  simp only [List.contains_eq_mem, decide_eq_true hseen, if_true]

/-- A known key that comes for the first time changes the record, if its value suits. -/
theorem takeEntries_known {k : Entry ρ} (h : known.find? (·.key = entry.1) = some k)
    (hseen : entry.1 ∉ seen) :
    takeEntries known d path seen r
        ((.scalar ⟨mark, none, none⟩ .plain entry.1, valueNode) :: rest) =
      k.decode d (path ++ [entry.1]) valueNode >>= fun change =>
        takeEntries known d path (entry.1 :: seen) (change r) rest := by
  rw [takeEntries, text_plain, ok_bind, h]
  simp only [List.contains_eq_mem, decide_eq_false hseen, Bool.false_eq_true, if_false, pathKey]

end Step

/-- Entries that change a record, with no known key twice, change it in order. -/
theorem takeEntries_eq (d : Document) (path : List String) {seen : List String}
    {nodes : List (Node × Node)} (hchanges : List.Forall₂ (Changes known) entries changes)
    (hnodup : (knownKeys known entries).Nodup)
    (hseen : ∀ key ∈ knownKeys known entries, key ∉ seen)
    (hnodes : Outline.AreEntries entries nodes) (r : ρ) :
    takeEntries known d path seen r nodes =
      .ok (changes.foldl (fun r change => change r) r) := by
  induction hchanges generalizing seen nodes r with
  | nil =>
    cases hnodes
    rfl
  | @cons entry change entries changes hentry _ ih =>
    obtain ⟨_, valueNode, rest, rfl, ⟨mark, rfl⟩, hvalue, hrest⟩ := hnodes
    rw [Changes] at hentry
    rw [List.foldl_cons]
    cases hfind : known.find? (·.key = entry.1) with
    | none =>
      rw [hfind] at hentry
      subst hentry
      rw [knownKeys_cons_of_none hfind] at hnodup hseen
      rw [takeEntries_unknown d path mark r hfind hvalue]
      exact ih hnodup hseen hrest r
    | some k =>
      rw [hfind] at hentry
      rw [knownKeys_cons_of_some hfind] at hnodup hseen
      obtain ⟨hnew, hnodup⟩ := List.nodup_cons.mp hnodup
      rw [List.forall_mem_cons] at hseen
      rw [takeEntries_known d path mark r hfind hseen.1, hentry _ _ _ hvalue, ok_bind]
      refine ih hnodup (fun key hkey => ?_) hrest (change r)
      rw [List.mem_cons, not_or]
      exact ⟨fun heq => hnew (heq ▸ hkey), hseen.2 key hkey⟩

/-- **A record without a known key twice is taken entry by entry.** -/
theorem record_takes (hchanges : List.Forall₂ (Changes known) entries changes)
    (hnodup : (knownKeys known entries).Nodup) (expected : String) (start : ρ) (depth : Nat) :
    (record expected known start).Takes (.record depth entries)
      (changes.foldl (fun r change => change r) start) := by
  rintro d path _ ⟨mark, nodes, rfl, hnodes⟩
  have htake := takeEntries_eq d path hchanges hnodup (fun _ _ => List.not_mem_nil) hnodes start
  simp only [record, Document.follow, htake]
  rfl

/-- Some entries cannot be taken: a value is refused, or a known key comes twice or came before. -/
theorem exists_takeEntries_eq_error (d : Document) (path : List String) {seen : List String}
    {nodes : List (Node × Node)}
    (hvalues : ∀ entry ∈ entries, IsRefused known entry ∨ ∃ change, Changes known entry change)
    (hwrong : (∃ entry ∈ entries, IsRefused known entry) ∨ ¬ (knownKeys known entries).Nodup ∨
      ∃ key ∈ knownKeys known entries, key ∈ seen)
    (hnodes : Outline.AreEntries entries nodes) (r : ρ) :
    ∃ e, takeEntries known d path seen r nodes = .error e := by
  induction entries generalizing seen nodes r with
  | nil =>
    obtain ⟨_, hmem, -⟩ | hnodup | ⟨_, hmem, -⟩ := hwrong
    · exact absurd hmem List.not_mem_nil
    · exact absurd List.nodup_nil hnodup
    · exact absurd hmem List.not_mem_nil
  | cons entry entries ih =>
    obtain ⟨_, valueNode, rest, rfl, ⟨mark, rfl⟩, hvalue, hrest⟩ := hnodes
    rw [List.forall_mem_cons] at hvalues
    obtain ⟨hentry, hvalues⟩ := hvalues
    cases hfind : known.find? (·.key = entry.1) with
    | none =>
      have hnot : ¬ IsRefused known entry := fun ⟨k, hk, _⟩ => by
        rw [hfind] at hk
        cases hk
      rw [takeEntries_unknown d path mark r hfind hvalue]
      rw [knownKeys_cons_of_none hfind, List.exists_mem_cons_iff, or_iff_right hnot] at hwrong
      exact ih hvalues hwrong hrest r
    | some k =>
      by_cases hseen : entry.1 ∈ seen
      · exact ⟨_, takeEntries_repeated d path mark r hfind hseen⟩
      rw [takeEntries_known d path mark r hfind hseen]
      obtain ⟨k', hk', hrefuses⟩ | ⟨change, hchange⟩ := hentry
      · obtain rfl : k = k' := Option.some.inj (hfind.symm.trans hk')
        obtain ⟨e, he⟩ := hrefuses d (path ++ [entry.1]) valueNode hvalue
        exact ⟨e, by rw [he]; rfl⟩
      rw [Changes, hfind] at hchange
      have htake := hchange d (path ++ [entry.1]) valueNode hvalue
      rw [htake, ok_bind]
      refine ih hvalues ?_ hrest (change r)
      rw [knownKeys_cons_of_some hfind] at hwrong
      obtain ⟨wrong, hmem, hrefused⟩ | hrepeated | ⟨key, hmem, hold⟩ := hwrong
      · rcases List.mem_cons.mp hmem with rfl | hmem
        · -- its value was taken just now
          obtain ⟨k', hk', hrefuses⟩ := hrefused
          obtain rfl : k = k' := Option.some.inj (hfind.symm.trans hk')
          obtain ⟨e, he⟩ := hrefuses d (path ++ [wrong.1]) valueNode hvalue
          rw [htake] at he
          cases he
        · exact .inl ⟨wrong, hmem, hrefused⟩
      · rw [List.nodup_cons, not_and_or, not_not] at hrepeated
        obtain hagain | hrepeated := hrepeated
        · exact .inr (.inr ⟨entry.1, hagain, List.mem_cons_self⟩)
        · exact .inr (.inl hrepeated)
      · rcases List.mem_cons.mp hmem with rfl | hmem
        · exact absurd hold hseen
        · exact .inr (.inr ⟨key, hmem, List.mem_cons_of_mem _ hold⟩)

/-- **A record with a refused value or with a known key twice is refused**, if every other value is
either taken or refused. -/
theorem record_refuses
    (hvalues : ∀ entry ∈ entries, IsRefused known entry ∨ ∃ change, Changes known entry change)
    (hwrong : (∃ entry ∈ entries, IsRefused known entry) ∨ ¬ (knownKeys known entries).Nodup)
    (expected : String) (start : ρ) (depth : Nat) :
    (record expected known start).Refuses (.record depth entries) := by
  rintro d path _ ⟨mark, nodes, rfl, hnodes⟩
  have hwrong' : (∃ entry ∈ entries, IsRefused known entry) ∨ ¬ (knownKeys known entries).Nodup ∨
      ∃ key ∈ knownKeys known entries, key ∈ ([] : List String) := hwrong.imp_right .inl
  obtain ⟨e, he⟩ := exists_takeEntries_eq_error d path hvalues hwrong' hnodes start
  simp only [record, Document.follow, he]
  exact ⟨_, rfl⟩

section Map

variable {β : Type} {xs : List β} {entry : β → String × Outline} {change : β → ρ → ρ}

theorem record_takes_map (h : ∀ x ∈ xs, Changes known (entry x) (change x))
    (hnodup : (knownKeys known (xs.map entry)).Nodup) (expected : String) (start : ρ)
    (depth : Nat) :
    (record expected known start).Takes (.record depth (xs.map entry))
      (xs.foldl (fun r x => change x r) start) := by
  have hchanges : List.Forall₂ (Changes known) (xs.map entry) (xs.map change) := by
    rw [List.forall₂_map_left_iff, List.forall₂_map_right_iff, List.forall₂_same]
    exact h
  have htakes := record_takes hchanges hnodup expected start depth
  rwa [List.foldl_map] at htakes

/-- If each entry is taken when it suits and refused otherwise, a record that is not taken is
refused. -/
theorem record_refuses_map {Suits : β → Prop}
    (hsuits : ∀ x ∈ xs, Suits x → Changes known (entry x) (change x))
    (hnot : ∀ x ∈ xs, ¬ Suits x → IsRefused known (entry x))
    (hwrong : ¬ ((knownKeys known (xs.map entry)).Nodup ∧ ∀ x ∈ xs, Suits x)) (expected : String)
    (start : ρ) (depth : Nat) :
    (record expected known start).Refuses (.record depth (xs.map entry)) := by
  refine record_refuses ?_ ?_ expected start depth
  · rw [List.forall_mem_map]
    intro x hx
    by_cases hsuit : Suits x
    · exact .inr ⟨change x, hsuits x hx hsuit⟩
    · exact .inl (hnot x hx hsuit)
  · rw [not_and_or] at hwrong
    refine hwrong.symm.imp_left fun hrefused => ?_
    push Not at hrefused
    obtain ⟨x, hx, hsuit⟩ := hrefused
    exact ⟨entry x, List.mem_map_of_mem hx, hnot x hx hsuit⟩

end Map

end Records
end Decoder

/-! ## Documents -/

section Documents

variable {α : Type} {decode : Decoder α} {entries : List (String × Outline)} {depth : Nat}

theorem Document.decode_ofText_render {x : α} (hne : entries ≠ [])
    (h : Outline.AreLegible entries) (htakes : decode.Takes (.record depth entries) x) (start : α) :
    (ofText (Outline.render entries)).decode decode start = .ok x := by
  obtain ⟨root, hdocument, hroot⟩ := ofText_render hne h depth
  rw [hdocument, Document.decode]
  simp only [htakes _ [] root hroot]
  rfl

theorem Document.exists_decode_ofText_render_eq_error (hne : entries ≠ [])
    (h : Outline.AreLegible entries) (hrefuses : decode.Refuses (.record depth entries))
    (start : α) : ∃ e, (ofText (Outline.render entries)).decode decode start = .error e := by
  obtain ⟨root, hdocument, hroot⟩ := ofText_render hne h depth
  obtain ⟨e, he⟩ := hrefuses ⟨some root, none, false⟩ [] root hroot
  refine ⟨e, ?_⟩
  rw [hdocument, Document.decode]
  simp only [he]
  rfl

end Documents
end RadioFrontEnd.Yaml
