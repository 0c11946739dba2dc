/-!
# Numerals

Numbers as digit texts: `hex` and `decimal` write them, `Numeral.read` reads the digits of a base
back.  Reading takes digits and nothing else: no sign, no separator, no base mark, at least one
digit.  Its two failures are told apart, because messages do so.
-/

namespace RadioFrontEnd

namespace Numeral

/-- The digits of a number in lower-case hexadecimal, as few as it takes. -/
def hexDigits (n : Nat) : List Char := Nat.toDigits 16 n

/-- A number in lower-case hexadecimal. -/
def hex (n : Nat) : String := .ofList (hexDigits n)

/-- The digits of a number in decimal, as few as it takes. -/
def decimalDigits (n : Nat) : List Char := Nat.toDigits 10 n

/-- A number in decimal. -/
def decimal (n : Nat) : String := .ofList (decimalDigits n)

/-- Digits brought to a width by leading zeros. -/
def zeroPad (width : Nat) (digits : List Char) : List Char :=
  List.replicate (width - digits.length) '0' ++ digits

/-- A number in lower-case hexadecimal with at least the given number of digits. -/
def hexPadded (width n : Nat) : String := .ofList (zeroPad width (hexDigits n))

/-- A text brought to a width by leading blanks. -/
def alignRight (width : Nat) (text : String) : String :=
  .ofList (List.replicate (width - text.length) ' ') ++ text

/-- A text brought to a width by trailing blanks. -/
def alignLeft (width : Nat) (text : String) : String :=
  text ++ .ofList (List.replicate (width - text.length) ' ')

/-- The value of a hexadecimal digit of either case. -/
def hexValue? (c : Char) : Option Nat :=
  if '0' ≤ c ∧ c ≤ '9' then some (c.toNat - '0'.toNat)
  else if 'a' ≤ c ∧ c ≤ 'f' then some (c.toNat - 'a'.toNat + 10)
  else if 'A' ≤ c ∧ c ≤ 'F' then some (c.toNat - 'A'.toNat + 10)
  else none

/-- The value of a digit in a base of at most sixteen. -/
def digitValue? (base : Nat) (c : Char) : Option Nat :=
  (hexValue? c).filter (· < base)

/-- The value of a digit text that continues a number already read. -/
def readFrom (base : Nat) : Nat → List Char → Option Nat
  | n, [] => some n
  | n, c :: cs => do readFrom base (n * base + (← digitValue? base c)) cs

/-- The value of a digit text; the empty text has none. -/
def read? (base : Nat) : List Char → Option Nat
  | [] => none
  | cs => readFrom base 0 cs

/-- Why a text is no number of a bounded type. -/
inductive ReadError where
  /-- There is no digit. -/
  | empty
  /-- Something is no digit of the base. -/
  | invalidDigit
  /-- The number lies past the bound. -/
  | tooLarge
  deriving DecidableEq, Repr

/-- The wording of a reading failure. -/
def ReadError.message : ReadError → String
  | empty => "cannot parse integer from empty string"
  | invalidDigit => "invalid digit found in string"
  | tooLarge => "number too large to fit in target type"

/-- Go through digits with a bound in view: the first digit that is none, or the first number at
or past the bound, decides. -/
def readBelowFrom (bound base : Nat) : Nat → List Char → Except ReadError Nat
  | n, [] => .ok n
  | n, c :: cs =>
    match digitValue? base c with
    | none => .error .invalidDigit
    | some d =>
      if n * base + d < bound then readBelowFrom bound base (n * base + d) cs
      else .error .tooLarge

/-- The number below a bound that a text writes: one plus sign at most, then digits. -/
def readBelow (bound base : Nat) : List Char → Except ReadError Nat
  | [] => .error .empty
  | ['+'] | ['-'] => .error .invalidDigit
  | '+' :: cs => readBelowFrom bound base 0 cs
  | cs => readBelowFrom bound base 0 cs

end Numeral
end RadioFrontEnd
