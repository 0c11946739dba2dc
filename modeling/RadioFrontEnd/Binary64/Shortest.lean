import RadioFrontEnd.Binary64.Basic
import RadioFrontEnd.Numeral

/-!
# The shortest decimal of a double precision number

Many decimals are nearest to one number of the format.  `Binary64.text` writes one with the fewest
digits, among those the nearest to the number, and of two equally near ones the larger.  It never
uses an exponent.

The decimals that read back as a number are those in an interval around it, whose ends lie half way
to its neighbours and belong to it when its mantissa is even.  For one digit, two digits and so on
the two decimals next to the number are tried.  Seventeen digits always suffice.
-/

namespace RadioFrontEnd.Binary64

/-- A decimal: digits, and the place of the last. -/
structure Decimal where
  /-- The digits. -/
  digits : Nat
  /-- The place of the last digit. -/
  place : Int
  deriving DecidableEq, Repr

/-- A distance from zero in quarters of the last place of a mantissa, as a quotient. -/
def quarters (x : Binary64) (n : Nat) : Quotient := .scale ⟨n, 4⟩ 2 x.exponent

/-- The lower end of the numbers that round to this one, in quarters of its last place. -/
def low (x : Binary64) : Nat :=
  if x.mantissa = 1 <<< (precision - 1) ∧ minExponent < x.exponent then 4 * x.mantissa - 1
  else 4 * x.mantissa - 2

/-- The upper end of the numbers that round to this one, in quarters of its last place. -/
def high (x : Binary64) : Nat := 4 * x.mantissa + 2

/-- Compare a decimal with a quotient: is the first smaller? -/
def Decimal.lt (d : Decimal) (r : Quotient) : Bool :=
  let s := Quotient.scale ⟨d.digits, 1⟩ 10 d.place
  s.num * r.den < r.num * s.den

/-- Compare a decimal with a quotient: is the first larger? -/
def Decimal.gt (d : Decimal) (r : Quotient) : Bool :=
  let s := Quotient.scale ⟨d.digits, 1⟩ 10 d.place
  r.num * s.den < s.num * r.den

/-- Does a decimal read back as the number? -/
def readsBack (x : Binary64) (d : Decimal) : Bool :=
  let even := x.mantissa % 2 == 0
  let low := x.quarters x.low
  let high := x.quarters x.high
  (d.gt low || (even && !d.lt low)) && (d.lt high || (even && !d.gt high))

/-- The place of the first digit of the number. -/
def leadingPlace (x : Binary64) : Int :=
  let r := Quotient.scale ⟨x.mantissa, 1⟩ 2 x.exponent
  let digits (n : Nat) : Int := (Nat.toDigits 10 n).length
  if r.den ≤ r.num then digits (r.num / r.den) - 1
  else
    let guess := digits r.num - digits r.den
    if (⟨1, guess⟩ : Decimal).gt r then guess - 1 else guess

/-- The decimals with a given last place next to the number, the nearer first; of two equally near
ones the larger. -/
def neighbours (x : Binary64) (place : Int) : List Decimal :=
  let r := Quotient.scale (.scale ⟨x.mantissa, 1⟩ 2 x.exponent) 10 (-place)
  let below := r.num / r.den
  let nearer := if 2 * (r.num % r.den) < r.den then [below, below + 1] else [below + 1, below]
  nearer.map (⟨·, place⟩)

/-- The first decimal that reads back, when the last place moves right step by step. -/
def shortestFrom (x : Binary64) : (steps : Nat) → (place : Int) → Decimal
  | 0, place => ((x.neighbours place).head?).getD ⟨0, 0⟩
  | n + 1, place =>
    match (x.neighbours place).find? x.readsBack with
    | some d => d
    | none => shortestFrom x n (place - 1)

/-- A decimal with the fewest digits that reads back as the number, and the nearest of those. -/
def shortest (x : Binary64) : Decimal :=
  if x.mantissa = 0 then ⟨0, 0⟩ else x.shortestFrom 16 x.leadingPlace

/-- A decimal written without an exponent, with at least one digit on both sides of the point. -/
def Decimal.text (d : Decimal) : String :=
  let digits := Numeral.decimalDigits d.digits
  if 0 ≤ d.place then .ofList (digits ++ List.replicate d.place.toNat '0' ++ ['.', '0'])
  else
    let after := (-d.place).toNat
    let padded := Numeral.zeroPad (after + 1) digits
    let whole := padded.take (padded.length - after)
    let rest := padded.drop (padded.length - after)
    let kept := (rest.reverse.dropWhile (· == '0')).reverse
    .ofList (whole ++ ['.'] ++ if kept.isEmpty then ['0'] else kept)

/-- A number written with the fewest digits that read back. -/
def text (x : Binary64) : String := x.shortest.text

end RadioFrontEnd.Binary64
