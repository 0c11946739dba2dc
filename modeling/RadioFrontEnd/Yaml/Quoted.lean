import RadioFrontEnd.Numeral
import RadioFrontEnd.Yaml.Gap
import RadioFrontEnd.Yaml.Problem

/-!
# Quoted scalars

Between single quotes every character means itself, and a quote is written twice.  Between double
quotes a backslash starts an escape: for a control character, for a character by its hexadecimal
code, or for a line break that is to mean nothing.  Both kinds may run over several lines, whose
gaps are folded, and neither may hold a document marker at the start of a line.
-/

namespace RadioFrontEnd.Yaml.Quoted

/-- A quoted scalar that was read: its text, and what comes after the closing quote. -/
structure Result where
  /-- The scalar. -/
  text : List Char
  /-- What comes after it. -/
  next : Cursor

/-- What an escape of one character stands for. -/
def simpleEscape? : Char → Option Char
  | '0' => some '\x00'
  | 'a' => some '\x07'
  | 'b' => some '\x08'
  | 't' | '\t' => some '\t'
  | 'n' => some '\n'
  | 'v' => some '\x0B'
  | 'f' => some '\x0C'
  | 'r' => some '\r'
  | 'e' => some '\x1B'
  | ' ' => some ' '
  | '"' => some '"'
  | '/' => some '/'
  | '\\' => some '\\'
  | 'N' => some '\x85'
  | '_' => some '\xA0'
  | 'L' => some '\u2028'
  | 'P' => some '\u2029'
  | _ => none

/-- How many hexadecimal digits follow the letter of an escape. -/
def escapeDigits? : Char → Option Nat
  | 'x' => some 2
  | 'u' => some 4
  | 'U' => some 8
  | _ => none

/-- What an escape stands for, and how many characters it takes after the backslash. -/
def escape (cs : List Char) : Except Problem (Char × Nat) :=
  match cs with
  | [] => .error .unknownEscape
  | c :: rest =>
    match simpleEscape? c, escapeDigits? c with
    | some e, _ => .ok (e, 1)
    | none, some digits =>
      let code := rest.take digits
      if code.length < digits then .error .badEscapeDigits
      else match Numeral.read? 16 code with
        | none => .error .badEscapeDigits
        | some n =>
          if n.isValidChar then .ok (Char.ofNat n, digits + 1)
          else .error .badEscapeCode
    | none, none => .error .unknownEscape

/-- Read on from a point between single quotes. -/
def readSingle : (text : List Char) → Gap → List Char → Mark → Except Malformed Result
  | _, _, [], mark => .error ⟨.endInQuotes, mark⟩
  | text, gap, '\r' :: '\n' :: cs, mark => readSingle text (gap.addBreak '\n') cs (mark.newLine 2)
  | text, gap, '\'' :: '\'' :: cs, mark =>
    readSingle ('\'' :: gap.close text) .none cs (mark.advance 2)
  | text, gap, c :: cs, mark =>
    if isBlank c then readSingle text (gap.addBlank c) cs (mark.advance 1)
    else if isBreak c then readSingle text (gap.addBreak c) cs (mark.newLine 1)
    else if (Cursor.mk (c :: cs) mark).atMarker then .error ⟨.markerInQuotes, mark⟩
    else if c = '\'' then .ok ⟨(gap.close text).reverse, ⟨cs, mark.advance 1⟩⟩
    else readSingle (c :: gap.close text) .none cs (mark.advance 1)

/-- Read on from a point between double quotes. -/
def readDouble (text : List Char) (gap : Gap) (rest : List Char) (mark : Mark) :
    Except Malformed Result :=
  match rest with
  | [] => .error ⟨.endInQuotes, mark⟩
  | '\r' :: '\n' :: cs => readDouble text (gap.addBreak '\n') cs (mark.newLine 2)
  | c :: cs =>
    if isBlank c then readDouble text (gap.addBlank c) cs (mark.advance 1)
    else if isBreak c then readDouble text (gap.addBreak c) cs (mark.newLine 1)
    else if (Cursor.mk (c :: cs) mark).atMarker then .error ⟨.markerInQuotes, mark⟩
    else if c = '"' then .ok ⟨(gap.close text).reverse, ⟨cs, mark.advance 1⟩⟩
    else if c = '\\' then
      match cs with
      | '\r' :: '\n' :: ds =>
        readDouble (gap.close text) (.lines [] []) ds ((mark.advance 1).newLine 2)
      | d :: ds =>
        if isBreak d then
          readDouble (gap.close text) (.lines [] []) ds ((mark.advance 1).newLine 1)
        else match escape (d :: ds) with
          | .error problem => .error ⟨problem, mark⟩
          | .ok (e, n) =>
            readDouble (e :: gap.close text) .none ((d :: ds).drop n) (mark.advance (n + 1))
      | [] => .error ⟨.unknownEscape, mark⟩
    else readDouble (c :: gap.close text) .none cs (mark.advance 1)
termination_by rest.length
decreasing_by all_goals (simp only [List.length_drop, List.length_cons]; omega)

/-- Read a quoted scalar, from its opening quote on. -/
def read (single : Bool) (c : Cursor) : Except Malformed Result :=
  let inside := c.skip 1
  if single then readSingle [] .none inside.rest inside.mark
  else readDouble [] .none inside.rest inside.mark

end RadioFrontEnd.Yaml.Quoted
