/-!
# Positions in a text

Reading goes through a text character by character.  A `Mark` says where it is, a `Cursor` is a mark
together with the characters that are still to come.  Line breaks are what moves a mark to the next
line: carriage return, line feed, both together as one break, next line, line separator and
paragraph separator.
-/

namespace RadioFrontEnd.Yaml

/-- A place in a text.  Everything counts from zero, in characters. -/
structure Mark where
  /-- Characters before this place. -/
  index : Nat := 0
  /-- Line breaks before this place. -/
  line : Nat := 0
  /-- Characters of this line before this place. -/
  column : Nat := 0
  deriving DecidableEq, Repr

namespace Mark

/-- The place after so many characters of the same line. -/
def advance (m : Mark) (n : Nat) : Mark :=
  { m with index := m.index + n, column := m.column + n }

/-- The place after a line break of so many characters. -/
def newLine (m : Mark) (n : Nat) : Mark :=
  ⟨m.index + n, m.line + 1, 0⟩

/-- A place in words, counting lines and columns from one. -/
def text (m : Mark) : String := s!"line {m.line + 1} column {m.column + 1}"

end Mark

/-- A place in a text with what follows it. -/
structure Cursor where
  /-- The characters to come. -/
  rest : List Char
  /-- The place. -/
  mark : Mark
  deriving DecidableEq

/-- A line break of one character. -/
def isBreak (c : Char) : Bool :=
  c == '\n' || c == '\r' || c == '\x85' || c == '\u2028' || c == '\u2029'

/-- A blank within a line. -/
def isBlank (c : Char) : Bool := c == ' ' || c == '\t'

/-- A character that ends a word. -/
def isSpace (c : Char) : Bool := isBlank c || isBreak c

/-- Is the next character a space, or is there none? -/
def startsWithSpace : List Char → Bool
  | [] => true
  | c :: _ => isSpace c

/-- Is the next character a line break, or is there none? -/
def startsWithBreak : List Char → Bool
  | [] => true
  | c :: _ => isBreak c

/-- What a line break stands for in a scalar: the breaks of one line count as a line feed, the
separators of lines and paragraphs stay themselves. -/
def breakText (c : Char) : Char :=
  if c = '\u2028' ∨ c = '\u2029' then c else '\n'

/-- A character of a name. -/
def isNameChar (c : Char) : Bool := c.isAlphanum || c == '-' || c == '_'

/-- A character that a text may hold. -/
def isPrintable (c : Char) : Bool :=
  let n := c.toNat
  n == 0x09 || n == 0x0A || n == 0x0D || (0x20 ≤ n && n ≤ 0x7E) || n == 0x85
    || (0xA0 ≤ n && n ≤ 0xD7FF) || (0xE000 ≤ n && n ≤ 0xFFFD && n != 0xFEFF) || 0x10000 ≤ n

namespace Cursor

/-- Go past characters of the same line. -/
def skip (c : Cursor) (n : Nat) : Cursor := ⟨c.rest.drop n, c.mark.advance n⟩

/-- Go past a line break, if there is one here. -/
def skipBreak (c : Cursor) : Cursor :=
  match c.rest with
  | '\r' :: '\n' :: cs => ⟨cs, c.mark.newLine 2⟩
  | b :: cs => if isBreak b then ⟨cs, c.mark.newLine 1⟩ else c
  | [] => c

/-- Go past the characters of this line that satisfy a condition. -/
def skipWhile (c : Cursor) (p : Char → Bool) : Cursor :=
  c.skip (c.rest.takeWhile p).length

/-- Is there a document marker here, three dashes or dots at the start of a line with a space
after them? -/
def atMarker (c : Cursor) : Bool :=
  c.mark.column == 0 &&
    match c.rest with
    | '-' :: '-' :: '-' :: cs => startsWithSpace cs
    | '.' :: '.' :: '.' :: cs => startsWithSpace cs
    | _ => false

end Cursor
end RadioFrontEnd.Yaml
