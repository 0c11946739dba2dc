/-!
# Double precision numbers

A finite number of the double precision format, without its sign: a mantissa below `2 ^ 53` and a
power of two that is at least `2 ^ (-1074)`.  `Binary64.ofDecimal?` finds the number of the format
that is nearest to a decimal one, and of two equally near ones the one with an even mantissa.  All
arithmetic is exact, on natural numbers.
-/

namespace RadioFrontEnd

/-- A finite double precision number that is not negative. -/
structure Binary64 where
  /-- The digits. -/
  mantissa : Nat
  /-- The power of two that the digits count. -/
  exponent : Int
  deriving DecidableEq, Repr

namespace Binary64

/-- The number of bits of a mantissa. -/
def precision : Nat := 53

/-- The smallest power of two. -/
def minExponent : Int := -1074

/-- The largest power of two. -/
def maxExponent : Int := 971

/-- A quotient of natural numbers. -/
structure Quotient where
  /-- What is divided. -/
  num : Nat
  /-- What it is divided by. -/
  den : Nat

namespace Quotient

/-- Multiply by a power of a base. -/
def scale (r : Quotient) (base : Nat) (power : Int) : Quotient :=
  if 0 ≤ power then ⟨r.num * base.pow power.toNat, r.den⟩
  else ⟨r.num, r.den * base.pow (-power).toNat⟩

/-- The nearest natural number; of two the even one. -/
def round (r : Quotient) : Nat :=
  let whole := r.num / r.den
  let twice := 2 * (r.num % r.den)
  if r.den < twice ∨ (twice = r.den ∧ whole % 2 = 1) then whole + 1 else whole

end Quotient

/-- The exponent at which a positive quotient has a mantissa of full precision, or the smallest one
if it has none there. -/
def exponentOf (r : Quotient) : Int :=
  let least : Int := max ((r.num.log2 : Int) - r.den.log2 - precision) minExponent
  let q := r.scale 2 (-least)
  if 1 <<< precision ≤ q.num / q.den then least + 1 else least

/-- The number nearest to a positive quotient; none if that is past the last number. -/
def ofQuotient? (r : Quotient) : Option Binary64 :=
  let exponent := exponentOf r
  let mantissa := (r.scale 2 (-exponent)).round
  let x : Binary64 :=
    if mantissa = 1 <<< precision then ⟨1 <<< (precision - 1), exponent + 1⟩ else ⟨mantissa, exponent⟩
  if x.exponent ≤ maxExponent then some x else none

/-- The number of decimal places before the point above which no number is finite, and below whose
negative all numbers are zero. -/
def decimalRange : Int := 330

/-- The number nearest to a decimal one, given by its digits and the place of the last; none if it
is past the last number. -/
def ofDecimal? (digits : Nat) (place : Int) : Option Binary64 :=
  let leading := place + (Nat.toDigits 10 digits).length
  if digits = 0 ∨ leading < -decimalRange then some ⟨0, minExponent⟩
  else if decimalRange < leading then none
  else ofQuotient? (.scale ⟨digits, 1⟩ 10 place)

end Binary64
end RadioFrontEnd
