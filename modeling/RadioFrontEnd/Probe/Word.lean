import RadioFrontEnd.Numeral

/-!
# Words on the command line

A word is written in decimal, or in hexadecimal after `0x`.  Underscores may stand anywhere in the
digits, so that long words can be grouped.
-/

namespace RadioFrontEnd.Probe

/-- The base in which a text writes a number, and its digits without underscores. -/
def digitsOf (text : String) : Nat × List Char :=
  match text.toList with
  | '0' :: 'x' :: cs | '0' :: 'X' :: cs => (16, cs.filter (· ≠ '_'))
  | cs => (10, cs.filter (· ≠ '_'))

/-- The word that a text writes. -/
def readWord (text : String) : Except Numeral.ReadError UInt32 := do
  let (base, digits) := digitsOf text
  return .ofNat (← Numeral.readBelow UInt32.size base digits)

/-- What to say about a text that writes no word. -/
def wordProblem (text : String) (e : Numeral.ReadError) : String :=
  s!"'{text}' is not a 32 bit value: {e.message}"

end RadioFrontEnd.Probe
