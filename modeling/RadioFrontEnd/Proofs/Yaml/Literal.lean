import Mathlib
import RadioFrontEnd.Proofs.Yaml.Scalar
import RadioFrontEnd.Yaml.Value

/-!
# Integers as they are written

The same integer can be written in four notations, with a sign or without, with capital or small
letters for the digits past nine, and with zeros in front.  A `Literal` is an integer as it is
written, in any of these ways.

Not every literal is a number for the reader of natural numbers.  Decimal digits with a needless zero
in front are a text, as they might be meant as an octal number, and a number with a minus sign is
never natural, not even zero.  The other literals are `IsStandard`, and `Literal.readNatural?_text` is
the one law about reading: a literal is read as the natural number that it stands for if it is
standard, not negative and below the bound, and it is not read otherwise.

Digits have their values by their place in a list here, and by their code in the reader.
`Literal.ofInt` writes an integer in a notation with as few digits as it takes, so every integer has
a standard literal in every notation.
-/

namespace RadioFrontEnd.Yaml

/-! ## Digits -/

/-- All digits in the order of their values; the capital ones come last. -/
def digitSigns : List Char := "0123456789abcdefABCDEF".toList

/-- The value of a digit.  What is no digit has a value past those of all digits. -/
def digitOf (c : Char) : Nat :=
  if digitSigns.idxOf c < 16 then digitSigns.idxOf c else digitSigns.idxOf c - 6

theorem mem_digitSigns_of_digitOf_lt {c : Char} (h : digitOf c < 16) : c ∈ digitSigns := by
  have hlength : digitSigns.length = 22 := by decide
  rw [← List.idxOf_lt_length_iff, hlength]
  unfold digitOf at h
  split at h <;> omega

theorem digitValue?_of_digitOf_lt {base : Nat} (hbase : base ≤ 16) {c : Char}
    (h : digitOf c < base) : Numeral.digitValue? base c = some (digitOf c) := by
  have hall : digitSigns.all (fun c => Numeral.hexValue? c = some (digitOf c)) = true := by decide
  have hsign := mem_digitSigns_of_digitOf_lt (Nat.lt_of_lt_of_le h hbase)
  have hvalue := of_decide_eq_true (List.all_eq_true.mp hall c hsign)
  rw [Numeral.digitValue?, hvalue, Option.filter_some, decide_eq_true h, if_pos rfl]

theorem digitOf_digitChar {n : Nat} (h : n < 16) : digitOf n.digitChar = n := by
  have hall : ∀ n < 16, digitOf n.digitChar = n := by decide
  exact hall n h

theorem isWordChar_of_digitOf_lt {c : Char} (h : digitOf c < 16) : isWordChar c = true := by
  have hall : digitSigns.all isWordChar = true := by decide
  exact List.all_eq_true.mp hall c (mem_digitSigns_of_digitOf_lt h)

theorem isDigit_of_digitOf_lt {c : Char} (h : digitOf c < 10) : c.isDigit = true := by
  have hall : digitSigns.all (fun c => !(digitOf c < 10) || c.isDigit) = true := by decide
  have hc := List.all_eq_true.mp hall c (mem_digitSigns_of_digitOf_lt (Nat.lt_trans h (by decide)))
  rwa [decide_eq_true h] at hc

/-- The number that digits stand for, highest digit first. -/
def valueOf (base : Nat) (digits : List Char) : Nat :=
  digits.foldl (fun n c => n * base + digitOf c) 0

theorem readFrom_of_digits {base : Nat} (hbase : base ≤ 16) {cs : List Char}
    (h : ∀ c ∈ cs, digitOf c < base) (n : Nat) :
    Numeral.readFrom base n cs = some (cs.foldl (fun n c => n * base + digitOf c) n) := by
  induction cs generalizing n with
  | nil => rfl
  | cons c cs ih =>
    rw [List.forall_mem_cons] at h
    rw [Numeral.readFrom, digitValue?_of_digitOf_lt hbase h.1]
    exact ih h.2 _

theorem read?_of_digits {base : Nat} (hbase : base ≤ 16) {cs : List Char} (hne : cs ≠ [])
    (h : ∀ c ∈ cs, digitOf c < base) : Numeral.read? base cs = some (valueOf base cs) := by
  rw [Numeral.read?, readFrom_of_digits hbase h, valueOf]
  exact hne

section ToDigits

variable {base : Nat} (hlow : 1 < base) (hhigh : base ≤ 16)

include hlow hhigh

omit hhigh in
/-- What holds of the signs of all digits holds of the digits of a number. -/
theorem forall_mem_toDigits {P : Char → Prop} (hP : ∀ m < base, P m.digitChar) (n : Nat) :
    ∀ c ∈ Nat.toDigits base n, P c := by
  induction n using Nat.strongRecOn with
  | _ n ih =>
    by_cases hn : n < base
    · rw [Nat.toDigits_of_lt_base hn, List.forall_mem_singleton]
      exact hP n hn
    · have hle : base ≤ n := Nat.le_of_not_lt hn
      rw [Nat.toDigits_of_base_le hlow hle, List.forall_mem_append, List.forall_mem_singleton]
      exact ⟨ih (n / base) (Nat.div_lt_self (by omega) hlow), hP _ (Nat.mod_lt n (by omega))⟩

theorem digitOf_lt_of_mem_toDigits (n : Nat) : ∀ c ∈ Nat.toDigits base n, digitOf c < base := by
  refine forall_mem_toDigits hlow (fun m hm => ?_) n
  rw [digitOf_digitChar (Nat.lt_of_lt_of_le hm hhigh)]
  exact hm

theorem valueOf_toDigits (n : Nat) : valueOf base (Nat.toDigits base n) = n := by
  induction n using Nat.strongRecOn with
  | _ n ih =>
    by_cases hn : n < base
    · rw [Nat.toDigits_of_lt_base hn, valueOf, List.foldl_cons, List.foldl_nil,
        digitOf_digitChar (Nat.lt_of_lt_of_le hn hhigh), Nat.zero_mul, Nat.zero_add]
    · have hle : base ≤ n := Nat.le_of_not_lt hn
      have hlast : n % base < 16 := Nat.lt_of_lt_of_le (Nat.mod_lt n (by omega)) hhigh
      have hmore := ih (n / base) (Nat.div_lt_self (by omega) hlow)
      rw [valueOf] at hmore ⊢
      rw [Nat.toDigits_of_base_le hlow hle, List.foldl_append, hmore, List.foldl_cons,
        List.foldl_nil, digitOf_digitChar hlast, Nat.mul_comm]
      exact Nat.div_add_mod n base

/-- A number other than zero is not written with a zero in front. -/
theorem head?_toDigits_ne {n : Nat} (hn : n ≠ 0) : (Nat.toDigits base n).head? ≠ some '0' := by
  induction n using Nat.strongRecOn with
  | _ n ih =>
    by_cases hlt : n < base
    · have hdigit : ∀ m < 16, m ≠ 0 → m.digitChar ≠ '0' := by decide
      rw [Nat.toDigits_of_lt_base hlt, List.head?_cons]
      exact fun h => hdigit n (Nat.lt_of_lt_of_le hlt hhigh) hn (Option.some.inj h)
    · have hle : base ≤ n := Nat.le_of_not_lt hlt
      have hpositive : n / base ≠ 0 := Nat.pos_iff_ne_zero.mp (Nat.div_pos hle (by omega))
      rw [Nat.toDigits_of_base_le hlow hle, List.head?_append_of_ne_nil _ Nat.toDigits_ne_nil]
      exact ih (n / base) (Nat.div_lt_self (by omega) hlow) hpositive

end ToDigits

/-! ## Literals -/

/-- A notation of natural numbers. -/
inductive Radix where
  | decimal
  | hexadecimal
  | octal
  | binary
  deriving DecidableEq

namespace Radix

/-- The number of digits that the notation has. -/
def base : Radix → Nat
  | decimal => 10
  | hexadecimal => 16
  | octal => 8
  | binary => 2

/-- What is written before the digits. -/
def mark : Radix → List Char
  | decimal => []
  | hexadecimal => ['0', 'x']
  | octal => ['0', 'o']
  | binary => ['0', 'b']

theorem one_lt_base (r : Radix) : 1 < r.base := by cases r <;> decide

theorem base_le (r : Radix) : r.base ≤ 16 := by cases r <;> decide

end Radix

/-- What stands before a number to tell its sign. -/
inductive Sign where
  | unsigned
  | plus
  | minus
  deriving DecidableEq

/-- What is written for a sign. -/
def Sign.mark : Sign → List Char
  | unsigned => []
  | plus => ['+']
  | minus => ['-']

/-- An integer as it is written. -/
structure Literal where
  /-- The sign. -/
  sign : Sign
  /-- The notation. -/
  radix : Radix
  /-- The digits, highest first. -/
  digits : List Char
  /-- There is a digit. -/
  digits_ne_nil : digits ≠ []
  /-- All of them are digits of the notation. -/
  digitOf_lt : ∀ c ∈ digits, digitOf c < radix.base

namespace Literal

/-- The number without the sign. -/
def magnitude (l : Literal) : Nat := valueOf l.radix.base l.digits

/-- The integer. -/
def value (l : Literal) : Int :=
  match l.sign with
  | .unsigned | .plus => l.magnitude
  | .minus => -l.magnitude

/-- What is written. -/
def text (l : Literal) : String := .ofList (l.sign.mark ++ (l.radix.mark ++ l.digits))

/-- Without a mark for the notation, there is a needless zero in front. -/
def HasNeedlessZero (l : Literal) : Prop :=
  l.radix = .decimal ∧ l.digits.head? = some '0' ∧ l.digits ≠ ['0']

instance (l : Literal) : Decidable l.HasNeedlessZero := instDecidableAnd

/-- There is no needless zero, and no minus sign before zero. -/
def IsStandard (l : Literal) : Prop := ¬ l.HasNeedlessZero ∧ ¬ (l.sign = .minus ∧ l.value = 0)

instance (l : Literal) : Decidable l.IsStandard := instDecidableAnd

/-- It is a natural number below a bound. -/
def IsBelow (l : Literal) (bound : Nat) : Prop := l.IsStandard ∧ 0 ≤ l.value ∧ l.value < bound

instance (l : Literal) (bound : Nat) : Decidable (l.IsBelow bound) := instDecidableAnd

/-- An integer in a notation, with as few digits as it takes. -/
def ofInt (radix : Radix) (z : Int) : Literal where
  sign := if z < 0 then .minus else .unsigned
  radix
  digits := Nat.toDigits radix.base z.natAbs
  digits_ne_nil := Nat.toDigits_ne_nil
  digitOf_lt := digitOf_lt_of_mem_toDigits radix.one_lt_base radix.base_le z.natAbs

/-- Every integer can be written in every notation. -/
theorem value_ofInt (radix : Radix) (z : Int) : (ofInt radix z).value = z := by
  have hmagnitude : (ofInt radix z).magnitude = z.natAbs :=
    valueOf_toDigits radix.one_lt_base radix.base_le z.natAbs
  rw [value, hmagnitude]
  by_cases hnegative : z < 0
  · simp only [ofInt, hnegative, if_true]
    omega
  · simp only [ofInt, hnegative, if_false]
    omega

/-- As few digits as it takes are standard. -/
theorem isStandard_ofInt (radix : Radix) (z : Int) : (ofInt radix z).IsStandard := by
  refine ⟨?_, ?_⟩
  · rintro ⟨-, hhead, hne⟩
    have hzero : z.natAbs = 0 := by
      by_contra hnot
      exact head?_toDigits_ne radix.one_lt_base radix.base_le hnot hhead
    refine hne ?_
    simp only [ofInt]
    rw [hzero, Nat.toDigits_of_lt_base (Nat.lt_trans Nat.zero_lt_one radix.one_lt_base)]
    rfl
  · rintro ⟨hsign, hvalue⟩
    rw [value_ofInt] at hvalue
    subst hvalue
    cases hsign

/-- A natural number in decimal is one of these. -/
theorem text_ofInt_decimal (n : Nat) : (ofInt .decimal n).text = Numeral.decimal n := by
  have hsign : ¬ (n : Int) < 0 := Int.not_lt.mpr (Int.natCast_nonneg n)
  rw [text]
  simp only [ofInt, hsign, if_false, Int.natAbs_natCast]
  rfl

/-! ## Reading -/

theorem ne_of_mem_digits (l : Literal) {c : Char} (hc : c ∈ l.digits) {d : Char}
    (hd : l.radix.base ≤ digitOf d) : c ≠ d := by
  rintro rfl
  exact absurd (l.digitOf_lt c hc) (Nat.not_lt_of_le hd)

/-- Decimal digits do not start with something that is no digit. -/
theorem dropSign_digits {l : Literal} (h : l.radix = .decimal) :
    Value.dropSign l.digits = l.digits := by
  have hsign (d : Char) (hd : 10 ≤ digitOf d) (cs : List Char) : l.digits ≠ d :: cs := by
    intro heq
    refine l.ne_of_mem_digits (heq ▸ List.mem_cons_self) ?_ rfl
    rw [h]
    exact hd
  rw [Value.dropSign]
  · exact hsign '+' (by decide)
  · exact hsign '-' (by decide)

theorem hasNeedlessZero_digits {l : Literal} (h : l.radix = .decimal) :
    Value.hasNeedlessZero l.digits = decide l.HasNeedlessZero := by
  have hdigits : l.digits.all Char.isDigit = true := by
    rw [List.all_eq_true]
    intro c hc
    have hlt := l.digitOf_lt c hc
    rw [h] at hlt
    exact isDigit_of_digitOf_lt hlt
  rw [Value.hasNeedlessZero, dropSign_digits h]
  split
  · next d ds heq =>
    rw [heq, List.all_cons, Bool.and_eq_true] at hdigits
    rw [hdigits.2, decide_eq_true]
    exact ⟨h, by rw [heq]; rfl, by rw [heq]; simp⟩
  · next hnot =>
    rw [decide_eq_false]
    rintro ⟨-, hhead, hne⟩
    obtain ⟨c, cs, heq⟩ := List.exists_cons_of_ne_nil l.digits_ne_nil
    rw [heq] at hhead hne
    cases hhead
    cases cs with
    | nil => exact hne rfl
    | cons d ds => exact hnot d ds heq

/-- Decimal digits do not look like another notation. -/
theorem readMagnitude?_digits {l : Literal} (h : l.radix = .decimal) :
    Value.readMagnitude? l.digits =
      if l.HasNeedlessZero then none else Numeral.read? 10 l.digits := by
  have hmark (d : Char) (hd : 10 ≤ digitOf d) (cs : List Char) : l.digits ≠ '0' :: d :: cs := by
    intro heq
    have hmem : d ∈ l.digits := by
      rw [heq]
      exact List.mem_cons_of_mem _ List.mem_cons_self
    refine l.ne_of_mem_digits hmem ?_ rfl
    rw [h]
    exact hd
  rw [Value.readMagnitude?, hasNeedlessZero_digits h]
  · simp only [decide_eq_true_eq]
  · exact hmark 'x' (by decide)
  · exact hmark 'o' (by decide)
  · exact hmark 'b' (by decide)

theorem readMagnitude?_mark (l : Literal) :
    Value.readMagnitude? (l.radix.mark ++ l.digits) =
      if l.HasNeedlessZero then none else some l.magnitude := by
  rw [magnitude, ← read?_of_digits l.radix.base_le l.digits_ne_nil l.digitOf_lt]
  cases hradix : l.radix with
  | decimal => exact readMagnitude?_digits hradix
  | hexadecimal | octal | binary =>
    have hnot : ¬ l.HasNeedlessZero := fun hneedless => by
      rw [HasNeedlessZero, hradix] at hneedless
      cases hneedless.1
    rw [if_neg hnot]
    rfl

/-- What comes behind the sign are letters and digits. -/
theorem isWord_mark_append (l : Literal) : IsWord (l.radix.mark ++ l.digits) := by
  have hmark : l.radix.mark.all isWordChar = true := by
    cases l.radix <;> decide
  refine ⟨List.append_ne_nil_of_right_ne_nil _ l.digits_ne_nil, fun c hc => ?_⟩
  rcases List.mem_append.mp hc with hc | hc
  · exact List.all_eq_true.mp hmark c hc
  · exact isWordChar_of_digitOf_lt (Nat.lt_of_lt_of_le (l.digitOf_lt c hc) l.radix.base_le)

theorem readMagnitude?_minus (cs : List Char) : Value.readMagnitude? ('-' :: cs) = none := by
  rw [Value.readMagnitude?]
  · split
    · rfl
    · rfl
  · rintro _ ⟨⟩
  · rintro _ ⟨⟩
  · rintro _ ⟨⟩

/-- What is read without a minus sign. -/
theorem filter_readMagnitude?_mark {l : Literal} (h : l.sign ≠ .minus) (bound : Nat) :
    (Value.readMagnitude? (l.radix.mark ++ l.digits)).filter (· < bound) =
      if l.IsBelow bound then some l.value.toNat else none := by
  have hvalue : l.value = l.magnitude := by
    rw [value]
    cases hsign : l.sign with
    | unsigned | plus => rfl
    | minus => exact absurd hsign h
  have hbelow : l.IsBelow bound ↔ ¬ l.HasNeedlessZero ∧ l.magnitude < bound := by
    rw [IsBelow, IsStandard, hvalue, Int.ofNat_lt]
    simp only [h, false_and, not_false_eq_true, and_true, Int.natCast_nonneg, true_and]
  rw [readMagnitude?_mark, hvalue, Int.toNat_natCast]
  simp only [hbelow]
  by_cases hneedless : l.HasNeedlessZero
  · simp only [hneedless, if_true, not_true_eq_false, false_and, if_false, Option.filter_none]
  · simp only [hneedless, if_false, not_false_eq_true, true_and, Option.filter_some,
      decide_eq_true_eq]

/-- **A literal is read as the natural number that it stands for**, if it is one below the bound, and
as nothing otherwise. -/
theorem readNatural?_text (l : Literal) (bound : Nat) :
    Value.readNatural? bound l.text.toList =
      if l.IsBelow bound then some l.value.toNat else none := by
  rw [text, String.toList_ofList]
  cases hsign : l.sign with
  | unsigned =>
    have hunsigned (cs : List Char) : l.radix.mark ++ l.digits ≠ '+' :: cs := by
      intro heq
      have hplus := l.isWord_mark_append.2 '+' (heq ▸ List.mem_cons_self)
      exact absurd hplus (by decide)
    show Value.readNatural? bound (l.radix.mark ++ l.digits) = _
    rw [Value.readNatural?]
    · exact filter_readMagnitude?_mark (by rw [hsign]; decide) bound
    · exact hunsigned
  | plus => exact filter_readMagnitude?_mark (by rw [hsign]; decide) bound
  | minus =>
    have hnot : ¬ l.IsBelow bound := by
      rintro ⟨⟨-, hzero⟩, hnonneg, -⟩
      rw [value, hsign] at hnonneg hzero
      exact hzero ⟨rfl, by simp only at hnonneg ⊢; omega⟩
    rw [if_neg hnot]
    show (Value.readMagnitude? ('-' :: (l.radix.mark ++ l.digits))).filter _ = none
    rw [readMagnitude?_minus]
    rfl

end Literal

/-! ## Writing -/

namespace Written

/-- A word behind a sign needs no quotes either. -/
theorem standsPlain_sign {sign : Char} (hsign : sign = '+' ∨ sign = '-') {cs : List Char}
    (h : IsWord cs) : standsPlain (sign :: cs) = true := by
  have hplain := standsPlain_of_isWord h
  obtain ⟨c, cs, rfl⟩ := List.exists_cons_of_ne_nil h.1
  have hc : isWordChar c = true := h.2 c List.mem_cons_self
  have hspace := (standing_of_standsPlain hplain).isSpace_eq
  have hgap : isGap (some c) = false := by
    rw [isGap, hspace, beq_false_of_ne (ne_of_isWordChar hc (by decide))]
    rfl
  have hstart : misleadsAtStart sign (some c) = false := by
    rw [misleadsAtStart, hgap]
    rcases hsign with rfl | rfl <;> rfl
  have hmarker : startsLikeMarker (sign :: c :: cs) = false := by
    have hmark (d : Char) (hd : isWordChar d = false) (ds : List Char) :
        sign :: c :: cs ≠ d :: d :: ds := fun heq =>
      ne_of_isWordChar hc hd (List.head_eq_of_cons_eq (List.tail_eq_of_cons_eq heq))
    rw [startsLikeMarker]
    · exact fun ds => hmark '-' (by decide) ('-' :: ds)
    · exact fun ds => hmark '.' (by decide) ('.' :: ds)
  have hmisleads : misleads (sign :: c :: cs) = false := by
    rw [misleads, hmarker, List.head?_cons, hstart, misleadsAfter_of_words h.2]
    rfl
  have hline : (sign :: c :: cs).all isInline = true := by
    rw [List.all_cons, List.all_eq_true.mpr fun d hd => isInline_of_isWordChar (h.2 d hd)]
    rcases hsign with rfl | rfl <;> decide
  have hblank : isBlankSpace sign = false := by
    rcases hsign with rfl | rfl <;> decide
  have hlast : (sign :: c :: cs).getLast?.any isBlankSpace = false :=
    getLast?_any_eq_false fun d hd => by
      rcases List.mem_cons.mp hd with rfl | hd
      · exact hblank
      · exact beq_false_of_ne (ne_of_isWordChar (h.2 d hd) (by decide))
  rw [standsPlain, hmisleads, hlast, List.head?_cons, Option.any_some, hblank]
  exact (Bool.and_true _).trans ((Bool.and_true _).trans hline)

end Written

/-- A literal stands without quotes. -/
theorem Literal.suits_text (l : Literal) : Written.Suits .plain l.text.toList := by
  refine .inl ⟨rfl, ?_⟩
  rw [text, String.toList_ofList]
  cases l.sign with
  | unsigned => exact Written.standsPlain_of_isWord l.isWord_mark_append
  | plus => exact Written.standsPlain_sign (.inl rfl) l.isWord_mark_append
  | minus => exact Written.standsPlain_sign (.inr rfl) l.isWord_mark_append

end RadioFrontEnd.Yaml
