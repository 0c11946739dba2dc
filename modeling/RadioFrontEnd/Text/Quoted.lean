import RadioFrontEnd.Numeral
import RadioFrontEnd.Text.Shape

/-!
# Quoted texts

A text between double quotes, for messages.  A quote or a backslash within gets a backslash before
it, the usual controls are written as letters after a backslash, and characters that have no shape
of their own are written by their number.
-/

namespace RadioFrontEnd.Text

/-- How a character is written between quotes. -/
def quotedChar (c : Char) : String :=
  if c = '\x00' then "\\0"
  else if c = '\t' then "\\t"
  else if c = '\r' then "\\r"
  else if c = '\n' then "\\n"
  else if c = '"' ∨ c = '\\' then .ofList ['\\', c]
  else if isShapeless c then "\\u\x7b" ++ Numeral.hex c.toNat ++ "\x7d"
  else c.toString

/-- A text between quotes. -/
def quoted (text : String) : String :=
  "\"" ++ String.join (text.toList.map quotedChar) ++ "\""

end RadioFrontEnd.Text
