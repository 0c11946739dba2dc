import RadioFrontEnd.Probe.Report
import RadioFrontEnd.Probe.Word
import RadioFrontEnd.Proofs.Yaml.Literal

/-!
# The words that are accepted

What may be written for a word is a small grammar.  `Splits` cuts a text into the base that its mark
announces and what stands behind the mark.  Without its underscores this is a numeral of the base
(`IsNumeral`): one plus sign or none, then digits, at least one.  `Writes` puts both together, for
numbers of any size.

The reader goes through the digits with the bound in view and stops at the first number that is too
large.  As a number never gets smaller when a digit is appended, this finds out exactly whether the
number of all digits is below the bound (`readBelowFrom_eq_ok_iff`).  So `readWord` reads a word from
a text if and only if the text writes it.

Underscores are removed behind the mark, and nowhere else.  They can therefore be put between the
digits of a text that the tools print, but not into the mark.
-/

namespace RadioFrontEnd

open Yaml (digitOf digitSigns valueOf)

/-! ## Digits under a bound -/

namespace Numeral

theorem mem_digitSigns_of_hexValue?_isSome {c : Char} (h : (hexValue? c).isSome) :
    c ∈ digitSigns := by
  have hsigns : ∀ k < 128, (hexValue? (Char.ofNat k)).isSome → Char.ofNat k ∈ digitSigns := by
    decide
  have hle {a b : Char} (hab : a ≤ b) : a.toNat ≤ b.toNat := hab
  have hcode : c.toNat < 128 := by
    unfold hexValue? at h
    split at h
    · next hc => exact Nat.lt_of_le_of_lt (hle hc.2) (by decide)
    split at h
    · next hc => exact Nat.lt_of_le_of_lt (hle hc.2) (by decide)
    split at h
    · next hc => exact Nat.lt_of_le_of_lt (hle hc.2) (by decide)
    · cases h
  rw [← Char.ofNat_toNat c] at h ⊢
  exact hsigns c.toNat hcode h

/-- The reader of digits knows the digits of the base and no others. -/
theorem digitValue?_eq {base : Nat} (hbase : base ≤ 16) (c : Char) :
    digitValue? base c = if digitOf c < base then some (digitOf c) else none := by
  split
  · next hc => exact Yaml.digitValue?_of_digitOf_lt hbase hc
  · next hc =>
    unfold digitValue?
    rw [Option.filter_eq_none_iff]
    intro d hd hlt
    -- A digit of sixteen is a sign of the list, so the reader gives it its place as its value.
    have hmem := mem_digitSigns_of_hexValue?_isSome (Option.isSome_of_eq_some hd)
    have hsigns : digitSigns.all (fun c => hexValue? c = some (digitOf c)) = true := by decide
    have hvalue := of_decide_eq_true (List.all_eq_true.mp hsigns c hmem)
    rw [hvalue, Option.some.injEq] at hd
    subst hd
    exact hc (of_decide_eq_true hlt)

section Bounded

variable {bound base : Nat} (hlow : 0 < base) (hhigh : base ≤ 16)

include hlow in
/-- A digit more makes a number no smaller. -/
theorem le_foldl_digits (cs : List Char) (n : Nat) :
    n ≤ cs.foldl (fun n c => n * base + digitOf c) n := by
  induction cs generalizing n with
  | nil => exact Nat.le_refl n
  | cons c cs ih =>
    calc n ≤ n * base := Nat.le_mul_of_pos_right n hlow
      _ ≤ n * base + digitOf c := Nat.le_add_right _ _
      _ ≤ cs.foldl (fun n c => n * base + digitOf c) (n * base + digitOf c) := ih _

include hhigh

include hlow in
/-- **The bound in view does not change the number**: digits are read if and only if the number of
all of them is below the bound, and then they are read as this number. -/
theorem readBelowFrom_eq_ok_iff {cs : List Char} {n m : Nat} (hn : n < bound) :
    readBelowFrom bound base n cs = .ok m ↔
      (∀ c ∈ cs, digitOf c < base) ∧ cs.foldl (fun n c => n * base + digitOf c) n = m ∧
        m < bound := by
  induction cs generalizing n with
  | nil =>
    simp only [readBelowFrom, List.foldl_nil, List.not_mem_nil, false_implies, implies_true,
      true_and, Except.ok.injEq]
    constructor
    · rintro rfl
      exact ⟨rfl, hn⟩
    · exact And.left
  | cons c cs ih =>
    unfold readBelowFrom
    rw [digitValue?_eq hhigh, List.forall_mem_cons, List.foldl_cons]
    by_cases hc : digitOf c < base
    · rw [if_pos hc]
      by_cases hlt : n * base + digitOf c < bound
      · simp only [hlt, hc, if_true, true_and]
        exact ih hlt
      · -- The number is past the bound already, and the digits to come do not bring it back.
        simp only [hlt, if_false, reduceCtorEq, false_iff]
        rintro ⟨-, rfl, hm⟩
        exact hlt (Nat.lt_of_le_of_lt (le_foldl_digits hlow cs _) hm)
    · simp only [hc, if_false, reduceCtorEq, false_and]

/-- Digits whose number is not below the bound are reported as a number that is too large. -/
theorem readBelowFrom_eq_tooLarge {cs : List Char} (hcs : ∀ c ∈ cs, digitOf c < base) {n : Nat}
    (hn : n < bound) (hbound : bound ≤ cs.foldl (fun n c => n * base + digitOf c) n) :
    readBelowFrom bound base n cs = .error .tooLarge := by
  induction cs generalizing n with
  | nil => exact absurd hn (Nat.not_lt_of_le hbound)
  | cons c cs ih =>
    rw [List.forall_mem_cons] at hcs
    unfold readBelowFrom
    rw [digitValue?_eq hhigh, if_pos hcs.1]
    by_cases hlt : n * base + digitOf c < bound
    · simp only [hlt, if_true]
      exact ih hcs.2 hlt hbound
    · simp only [hlt, if_false]

end Bounded

end Numeral

namespace Probe

/-! ## The grammar -/

/-- Digits of a base, at least one, that stand for a number. -/
structure Denotes (base : Nat) (digits : List Char) (n : Nat) : Prop where
  ne_nil : digits ≠ []
  digitOf_lt : ∀ c ∈ digits, digitOf c < base
  valueOf_eq : valueOf base digits = n

/-- A numeral of a base: digits with one plus sign in front or none. -/
def IsNumeral (base : Nat) (cs : List Char) (n : Nat) : Prop :=
  ∃ digits, Denotes base digits n ∧ (cs = digits ∨ cs = '+' :: digits)

/-- The base that the mark of a text announces, and what stands behind the mark.  There is no mark
for decimal numbers. -/
inductive Splits : List Char → Nat → List Char → Prop where
  | hexadecimal {mark : Char} (hmark : mark = 'x' ∨ mark = 'X') (body : List Char) :
    Splits ('0' :: mark :: body) 16 body
  | decimal {body : List Char}
    (hbody : ∀ mark rest, body = '0' :: mark :: rest → mark ≠ 'x' ∧ mark ≠ 'X') :
    Splits body 10 body

/-- A text writes a number, of any size: behind the mark and without underscores, it is a numeral of
the base. -/
def Writes (text : String) (n : Nat) : Prop :=
  ∃ base body, Splits text.toList base body ∧ IsNumeral base (body.filter (· ≠ '_')) n

/-- The characters with underscores put in between, in front or behind. -/
inductive Grouped : List Char → List Char → Prop where
  | nil : Grouped [] []
  | char (c : Char) {cs grouped : List Char} : Grouped cs grouped → Grouped (c :: cs) (c :: grouped)
  | underscore {cs grouped : List Char} : Grouped cs grouped → Grouped cs ('_' :: grouped)

theorem exists_splits (cs : List Char) : ∃ base body, Splits cs base body := by
  by_cases h : ∃ mark rest, cs = '0' :: mark :: rest ∧ (mark = 'x' ∨ mark = 'X')
  · obtain ⟨mark, rest, rfl, hmark⟩ := h
    exact ⟨16, rest, .hexadecimal hmark rest⟩
  · refine ⟨10, cs, .decimal fun mark rest heq => ?_⟩
    rw [← not_or]
    exact fun hmark => h ⟨mark, rest, heq, hmark⟩

theorem Splits.base_pos {cs body : List Char} {base : Nat} (h : Splits cs base body) :
    0 < base := by
  cases h <;> decide

theorem Splits.base_le {cs body : List Char} {base : Nat} (h : Splits cs base body) :
    base ≤ 16 := by
  cases h <;> decide

theorem Splits.digitsOf_eq {text : String} {base : Nat} {body : List Char}
    (h : Splits text.toList base body) : digitsOf text = (base, body.filter (· ≠ '_')) := by
  unfold digitsOf
  generalize text.toList = cs at h
  cases h with
  | hexadecimal hmark =>
    rcases hmark with rfl | rfl
    · rfl
    · rfl
  | decimal hbody =>
    split
    · next rest => exact absurd rfl (hbody 'x' rest rfl).1
    · next rest => exact absurd rfl (hbody 'X' rest rfl).2
    · rfl

theorem writes_iff {text : String} {base : Nat} {body : List Char}
    (h : Splits text.toList base body) {n : Nat} :
    Writes text n ↔ IsNumeral base (body.filter (· ≠ '_')) n := by
  constructor
  · rintro ⟨base', body', hsplits, hnumeral⟩
    -- A text splits in one way, since the reader's split is the same for both.
    have heq := hsplits.digitsOf_eq.symm.trans h.digitsOf_eq
    rw [Prod.mk.injEq] at heq
    rw [← heq.1, ← heq.2]
    exact hnumeral
  · exact fun hnumeral => ⟨base, body, h, hnumeral⟩

/-! ## Reading -/

/-- What stands behind one plus sign in front. -/
def dropPlus : List Char → List Char
  | '+' :: cs => cs
  | cs => cs

section Numerals

variable {bound base : Nat} (hhigh : base ≤ 16)

include hhigh

/-- What is no digit is not in a numeral, except for the plus sign. -/
theorem IsNumeral.not_mem {cs : List Char} {n : Nat} (h : IsNumeral base cs n) {c : Char}
    (hc : 16 ≤ digitOf c) (hplus : c ≠ '+') : c ∉ cs := by
  obtain ⟨digits, hdigits, hcs⟩ := h
  have hmem : c ∉ digits := fun hmem =>
    Nat.not_lt_of_le (hhigh.trans hc) (hdigits.digitOf_lt c hmem)
  rcases hcs with rfl | rfl
  · exact hmem
  · rw [List.mem_cons, not_or]
    exact ⟨hplus, hmem⟩

/-- The plus sign is no digit, so the digits of a numeral are what stands behind it. -/
theorem isNumeral_iff {cs : List Char} {n : Nat} :
    IsNumeral base cs n ↔ Denotes base (dropPlus cs) n := by
  constructor
  · rintro ⟨digits, hdigits, rfl | rfl⟩
    · unfold dropPlus
      split
      · next cs =>
        have hlt := hdigits.digitOf_lt '+' List.mem_cons_self
        exact absurd (Nat.lt_of_lt_of_le hlt hhigh) (by decide)
      · exact hdigits
    · exact hdigits
  · intro h
    unfold dropPlus at h
    split at h
    · next cs => exact ⟨cs, h, .inr rfl⟩
    · exact ⟨cs, h, .inl rfl⟩

/-- The digits decide.  A minus sign has no branch of its own in this, as it is no digit. -/
theorem readBelow_eq {cs : List Char} (h : dropPlus cs ≠ []) :
    Numeral.readBelow bound base cs = Numeral.readBelowFrom bound base 0 (dropPlus cs) := by
  unfold Numeral.readBelow
  split
  · exact absurd rfl h
  · exact absurd rfl h
  · have hminus : ¬ digitOf '-' < base := Nat.not_lt_of_le (hhigh.trans (by decide))
    show Except.error _ = Numeral.readBelowFrom bound base 0 ['-']
    rw [Numeral.readBelowFrom, Numeral.digitValue?_eq hhigh, if_neg hminus]
  · rfl
  · next hplus =>
    rw [dropPlus]
    exact hplus

omit hhigh in
theorem readBelow_of_dropPlus_eq_nil {cs : List Char} (h : dropPlus cs = []) :
    ∃ e, Numeral.readBelow bound base cs = .error e := by
  unfold dropPlus at h
  split at h
  · subst h
    exact ⟨.invalidDigit, rfl⟩
  · subst h
    exact ⟨.empty, rfl⟩

/-- **A text is read as a number below the bound if and only if it is a numeral of this number.** -/
theorem readBelow_eq_ok_iff (hbound : 0 < bound) (hlow : 0 < base) {cs : List Char} {n : Nat} :
    Numeral.readBelow bound base cs = .ok n ↔ IsNumeral base cs n ∧ n < bound := by
  rw [isNumeral_iff hhigh]
  by_cases hnil : dropPlus cs = []
  · obtain ⟨e, he⟩ := @readBelow_of_dropPlus_eq_nil bound base cs hnil
    rw [he]
    constructor
    · rintro ⟨⟩
    · exact fun h => absurd hnil h.1.ne_nil
  · rw [readBelow_eq hhigh hnil, Numeral.readBelowFrom_eq_ok_iff hlow hhigh hbound]
    constructor
    · exact fun ⟨hdigits, hvalue, hn⟩ => ⟨⟨hnil, hdigits, hvalue⟩, hn⟩
    · exact fun ⟨h, hn⟩ => ⟨h.digitOf_lt, h.valueOf_eq, hn⟩

theorem readBelow_eq_tooLarge (hbound : 0 < bound) {cs : List Char} {n : Nat}
    (h : IsNumeral base cs n) (hn : bound ≤ n) :
    Numeral.readBelow bound base cs = .error .tooLarge := by
  rw [isNumeral_iff hhigh] at h
  rw [readBelow_eq hhigh h.ne_nil]
  refine Numeral.readBelowFrom_eq_tooLarge hhigh h.digitOf_lt hbound ?_
  rw [← valueOf, h.valueOf_eq]
  exact hn

end Numerals

/-- The word read is the number read from the numeral. -/
theorem readWord_eq {text : String} {base : Nat} {body : List Char}
    (h : Splits text.toList base body) :
    readWord text =
      (Numeral.readBelow UInt32.size base (body.filter (· ≠ '_'))).map UInt32.ofNat := by
  unfold readWord
  rw [h.digitsOf_eq]
  show (Numeral.readBelow UInt32.size base (body.filter (· ≠ '_')) >>= _) = _
  cases Numeral.readBelow UInt32.size base (body.filter (· ≠ '_')) with
  | ok n => rfl
  | error e => rfl

/-- **A word is read if and only if it is written.** -/
theorem readWord_eq_ok_iff {text : String} {w : UInt32} :
    readWord text = .ok w ↔ Writes text w.toNat := by
  obtain ⟨base, body, hsplits⟩ := exists_splits text.toList
  have hread {n : Nat} :
      Numeral.readBelow UInt32.size base (body.filter (· ≠ '_')) = .ok n ↔
        IsNumeral base (body.filter (· ≠ '_')) n ∧ n < UInt32.size :=
    readBelow_eq_ok_iff hsplits.base_le (by decide) hsplits.base_pos
  rw [writes_iff hsplits, readWord_eq hsplits]
  constructor
  · intro h
    cases hn : Numeral.readBelow UInt32.size base (body.filter (· ≠ '_')) with
    | error e =>
      rw [hn] at h
      cases h
    | ok n =>
      rw [hn] at h
      cases h
      obtain ⟨hnumeral, hlt⟩ := hread.mp hn
      rw [UInt32.toNat_ofNat_of_lt' hlt]
      exact hnumeral
  · intro h
    rw [hread.mpr ⟨h, w.toNat_lt⟩]
    exact congrArg Except.ok UInt32.ofNat_toNat

/-- A text that writes no word is refused. -/
theorem exists_readWord_eq_error {text : String} (h : ∀ n, Writes text n → UInt32.size ≤ n) :
    ∃ e, readWord text = .error e := by
  cases hread : readWord text with
  | ok w => exact absurd w.toNat_lt (Nat.not_lt_of_le (h _ (readWord_eq_ok_iff.mp hread)))
  | error e => exact ⟨e, rfl⟩

theorem readWord_eq_tooLarge {text : String} {n : Nat} (h : Writes text n)
    (hn : UInt32.size ≤ n) : readWord text = .error .tooLarge := by
  obtain ⟨base, body, hsplits, hnumeral⟩ := h
  rw [readWord_eq hsplits, readBelow_eq_tooLarge hsplits.base_le (by decide) hnumeral hn]
  rfl

/-- A text with a character behind the mark that is neither a digit, an underscore nor the plus sign
writes nothing. -/
theorem not_writes_of_mem {text : String} {base : Nat} {body : List Char}
    (hsplits : Splits text.toList base body) {c : Char} (hc : 16 ≤ digitOf c) (hplus : c ≠ '+')
    (hunder : c ≠ '_') (hmem : c ∈ body) (n : Nat) : ¬ Writes text n := by
  rw [writes_iff hsplits]
  refine fun h => h.not_mem hsplits.base_le hc hplus ?_
  rw [List.mem_filter, decide_eq_true_eq]
  exact ⟨hmem, hunder⟩

theorem not_writes_of_dropPlus_eq_nil {text : String} {base : Nat} {body : List Char}
    (hsplits : Splits text.toList base body) (hnil : dropPlus (body.filter (· ≠ '_')) = [])
    (n : Nat) : ¬ Writes text n := by
  rw [writes_iff hsplits, isNumeral_iff hsplits.base_le]
  exact fun h => h.ne_nil hnil

/-! ## Printed words -/

theorem Grouped.filter_eq {cs grouped : List Char} (h : Grouped cs grouped) (hcs : '_' ∉ cs) :
    grouped.filter (· ≠ '_') = cs := by
  induction h with
  | nil => rfl
  | char c _ ih =>
    rw [List.mem_cons, not_or] at hcs
    simpa [Ne.symm hcs.1] using ih hcs.2
  | underscore _ ih => simpa using ih hcs

/-- Underscores among digits change nothing. -/
theorem Denotes.isNumeral_of_grouped {base : Nat} (hhigh : base ≤ 16) {digits grouped : List Char}
    {n : Nat} (h : Denotes base digits n) (hgrouped : Grouped digits grouped) :
    IsNumeral base (grouped.filter (· ≠ '_')) n := by
  have hunder : '_' ∉ digits := fun hmem =>
    absurd (Nat.lt_of_lt_of_le (h.digitOf_lt '_' hmem) hhigh) (by decide)
  rw [hgrouped.filter_eq hunder]
  exact ⟨digits, h, .inl rfl⟩

theorem denotes_toDigits {base : Nat} (hlow : 1 < base) (hhigh : base ≤ 16) (n : Nat) :
    Denotes base (Nat.toDigits base n) n where
  ne_nil := Nat.toDigits_ne_nil
  digitOf_lt := Yaml.digitOf_lt_of_mem_toDigits hlow hhigh n
  valueOf_eq := Yaml.valueOf_toDigits hlow hhigh n

/-- Zeros in front do not change the number. -/
theorem Denotes.zeroPad {base : Nat} (hlow : 0 < base) {digits : List Char} {n : Nat}
    (h : Denotes base digits n) (width : Nat) : Denotes base (Numeral.zeroPad width digits) n where
  ne_nil := List.append_ne_nil_of_right_ne_nil _ h.ne_nil
  digitOf_lt := by
    intro c hc
    rcases List.mem_append.mp hc with hc | hc
    · rw [List.eq_of_mem_replicate hc]
      exact hlow
    · exact h.digitOf_lt c hc
  valueOf_eq := by
    have hzeros (k : Nat) :
        (List.replicate k '0').foldl (fun n c => n * base + digitOf c) 0 = 0 := by
      induction k with
      | zero => rfl
      | succ k ih =>
        rw [List.replicate_succ, List.foldl_cons, Nat.zero_mul]
        exact ih
    unfold Numeral.zeroPad valueOf
    rw [List.foldl_append, hzeros]
    exact h.valueOf_eq

theorem length_zeroPad {width : Nat} {digits : List Char} (h : digits.length ≤ width) :
    (Numeral.zeroPad width digits).length = width := by
  unfold Numeral.zeroPad
  rw [List.length_append, List.length_replicate]
  omega

/-- A word takes eight hexadecimal digits. -/
theorem length_zeroPad_hexDigits (w : UInt32) :
    (Numeral.zeroPad 8 (Numeral.hexDigits w.toNat)).length = 8 := by
  have hlength : (Numeral.hexDigits w.toNat).length ≤ 8 :=
    (Nat.length_toDigits_le_iff (by decide) (by decide)).mpr w.toNat_lt
  exact length_zeroPad hlength

theorem Grouped.mem {cs grouped : List Char} (h : Grouped cs grouped) {c : Char}
    (hc : c ∈ grouped) : c = '_' ∨ c ∈ cs := by
  induction h with
  | nil => cases hc
  | char d _ ih =>
    rcases List.mem_cons.mp hc with rfl | hc
    · exact .inr List.mem_cons_self
    · exact (ih hc).imp_right (List.mem_cons_of_mem d)
  | underscore _ ih =>
    rcases List.mem_cons.mp hc with rfl | hc
    · exact .inl rfl
    · exact ih hc

/-- Decimal digits have no mark, with underscores or without. -/
theorem Denotes.splits_of_grouped {digits grouped : List Char} {n : Nat}
    (h : Denotes 10 digits n) (hgrouped : Grouped digits grouped) : Splits grouped 10 grouped := by
  refine .decimal fun mark rest heq => ?_
  have hmark : mark ∈ grouped := by
    rw [heq]
    exact List.mem_cons_of_mem _ List.mem_cons_self
  rcases hgrouped.mem hmark with rfl | hmem
  · decide
  · have hlt := h.digitOf_lt mark hmem
    constructor
    · rintro rfl
      exact absurd hlt (by decide)
    · rintro rfl
      exact absurd hlt (by decide)

theorem readWord_decimal_of_grouped {w : UInt32} {grouped : List Char}
    (h : Grouped (Numeral.decimalDigits w.toNat) grouped) :
    readWord (.ofList grouped) = .ok w := by
  have hdigits : Denotes 10 (Numeral.decimalDigits w.toNat) w.toNat :=
    denotes_toDigits (by decide) (by decide) w.toNat
  rw [readWord_eq_ok_iff]
  refine ⟨10, grouped, ?_, hdigits.isNumeral_of_grouped (by decide) h⟩
  rw [String.toList_ofList]
  exact hdigits.splits_of_grouped h

theorem readWord_hexadecimal_of_grouped {w : UInt32} {mark : Char} (hmark : mark = 'x' ∨ mark = 'X')
    {width : Nat} {grouped : List Char}
    (h : Grouped (Numeral.zeroPad width (Numeral.hexDigits w.toNat)) grouped) :
    readWord (.ofList ('0' :: mark :: grouped)) = .ok w := by
  have hdigits : Denotes 16 (Numeral.hexDigits w.toNat) w.toNat :=
    denotes_toDigits (by decide) (by decide) w.toNat
  have hpadded := hdigits.zeroPad (by decide) width
  rw [readWord_eq_ok_iff]
  refine ⟨16, grouped, ?_, hpadded.isNumeral_of_grouped (by decide) h⟩
  rw [String.toList_ofList]
  exact .hexadecimal hmark grouped

/-- **The words that are accepted are those that are written**: a text is read as a word if and only
if it is a numeral behind its mark and without its underscores, and every other text is refused, among
them a text without digits, with a minus sign or a second mark, and a numeral past 32 bits.  Every
word is read from its decimal digits and from the eight digits that a report of it shows, with
underscores anywhere behind the mark. -/
theorem readWord_reads_written_words (text : String) (w : UInt32) :
    (readWord text = .ok w ↔ Writes text w.toNat) ∧
    ((∀ n, Writes text n → UInt32.size ≤ n) → ∃ e, readWord text = .error e) ∧
    (∀ n, Writes text n → UInt32.size ≤ n → readWord text = .error .tooLarge) ∧
    (∀ base body, Splits text.toList base body →
      (body.filter (· ≠ '_') = [] ∨ body.filter (· ≠ '_') = ['+'] ∨
        '-' ∈ body ∨ 'x' ∈ body ∨ 'X' ∈ body) → ∃ e, readWord text = .error e) ∧
    (∀ grouped, Grouped (Numeral.decimalDigits w.toNat) grouped →
      readWord (.ofList grouped) = .ok w) ∧
    ∃ digits, digits.length = 8 ∧
      (headerLines w).head? = some ("Header 0x" ++ .ofList digits) ∧
      ∀ mark grouped, (mark = 'x' ∨ mark = 'X') → Grouped digits grouped →
        readWord (.ofList ('0' :: mark :: grouped)) = .ok w := by
  refine ⟨readWord_eq_ok_iff, exists_readWord_eq_error, fun n => readWord_eq_tooLarge, ?_,
    fun grouped => readWord_decimal_of_grouped, ?_⟩
  · intro base body hsplits hbody
    have hnothing : ∀ n, ¬ Writes text n := by
      rcases hbody with hnil | hplus | hminus | hx | hX
      · exact not_writes_of_dropPlus_eq_nil hsplits (by rw [hnil]; rfl)
      · exact not_writes_of_dropPlus_eq_nil hsplits (by rw [hplus]; rfl)
      · exact not_writes_of_mem hsplits (by decide) (by decide) (by decide) hminus
      · exact not_writes_of_mem hsplits (by decide) (by decide) (by decide) hx
      · exact not_writes_of_mem hsplits (by decide) (by decide) (by decide) hX
    exact exists_readWord_eq_error fun n hn => absurd hn (hnothing n)
  · refine ⟨Numeral.zeroPad 8 (Numeral.hexDigits w.toNat), length_zeroPad_hexDigits w, rfl, ?_⟩
    exact fun mark grouped hmark => readWord_hexadecimal_of_grouped hmark

/-- A sign, needless zeros, underscores and digits of either case are read; a number of thirty-three
bits is not. -/
theorem readWord_reads_written_words_at_the_bound :
    readWord "0X+_00ffFF_fffF" = .ok 0xFFFFFFFF ∧
      readWord "4_294_967_296" = .error .tooLarge := by
  constructor
  · refine (readWord_reads_written_words "0X+_00ffFF_fffF" 0xFFFFFFFF).1.mpr ?_
    refine ⟨16, "+_00ffFF_fffF".toList, .hexadecimal (.inr rfl) _, "00ffFFfffF".toList, ?_, .inr rfl⟩
    exact ⟨by decide, List.forall_iff_forall_mem.mp (by decide), by decide⟩
  · refine (readWord_reads_written_words "4_294_967_296" 0).2.2.1 4294967296 ?_ (by decide)
    refine ⟨10, "4_294_967_296".toList, .decimal ?_, "4294967296".toList, ?_, .inl rfl⟩
    · rintro mark rest ⟨⟩
    · exact ⟨by decide, List.forall_iff_forall_mem.mp (by decide), by decide⟩

end Probe
end RadioFrontEnd
