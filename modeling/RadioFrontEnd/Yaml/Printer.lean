import RadioFrontEnd.Yaml.Value

/-!
# Writing documents

Records of scalars are written as block mappings, two columns per level.  A text is written without
quotes where that reads back as the same text; otherwise between single quotes, or between double
quotes if it holds something that has to be escaped.  A text of several lines is written as a literal
block, unless a blank before a line break would get lost there.
-/

namespace RadioFrontEnd.Yaml

/-- What can be written: records of scalars. -/
inductive Tree where
  /-- Nothing. -/
  | null
  /-- A truth value. -/
  | boolean (b : Bool)
  /-- A natural number. -/
  | natural (n : Nat)
  /-- A text. -/
  | text (s : String)
  /-- A record. -/
  | mapping (entries : List (String × Tree))

namespace Written

/-! ## How a text can be written -/

/-- A character that can be written as it is. -/
def isPlainlyPrintable (c : Char) : Bool :=
  isPrintable c && c != '\t' && c != '\r' && c != '\x85'

/-- A space, a line break, or the end. -/
def isGap : Option Char → Bool
  | none => true
  | some c => isSpace c || c == '\x00'

/-- A character with which no plain scalar starts, or only before something that is no space. -/
def misleadsAtStart (c : Char) (next : Option Char) : Bool :=
  "#,[]\x7b\x7d&*!|>'\"%@\x60".toList.contains c || ("?:-".toList.contains c && isGap next)

/-- Is there, after a character, a colon that would end a plain scalar or a sign that would start a
comment? -/
def misleadsAfter : (previous : Char) → List Char → Bool
  | _, [] => false
  | p, c :: cs =>
    (c == ':' && isGap cs.head?) || (c == '#' && isGap (some p)) || misleadsAfter c cs

/-- Does the text start like a document marker? -/
def startsLikeMarker : List Char → Bool
  | '-' :: '-' :: '-' :: _ | '.' :: '.' :: '.' :: _ => true
  | _ => false

/-- Would the text, written without quotes, be read as something else? -/
def misleads : List Char → Bool
  | [] => true
  | c :: cs => startsLikeMarker (c :: cs) || misleadsAtStart c cs.head? || misleadsAfter c cs

/-- Are there two neighbours, the first with one property and the second with another? -/
def hasNeighbours (p q : Char → Bool) : List Char → Bool
  | c :: d :: cs => (p c && q d) || hasNeighbours p q (d :: cs)
  | _ => false

/-- A space. -/
def isBlankSpace (c : Char) : Bool := c == ' '

/-- Does the text stand as it is, when it is written on one line without quotes? -/
def standsPlain (cs : List Char) : Bool :=
  !misleads cs && cs.all (fun c => isPlainlyPrintable c && !isBreak c) &&
    !cs.head?.any isBlankSpace && !cs.getLast?.any isBlankSpace

/-- Does the text stand as it is between single quotes? -/
def standsQuoted (cs : List Char) : Bool :=
  cs.all isPlainlyPrintable && !hasNeighbours isBreak isBlankSpace cs &&
    !hasNeighbours isBlankSpace isBreak cs

/-- Does the text stand as it is in indented lines? -/
def standsIndented (cs : List Char) : Bool :=
  cs.all isPlainlyPrintable && !hasNeighbours isBlankSpace isBreak cs &&
    !cs.getLast?.any isBlankSpace

/-- Would the text, written without quotes, be null, a boolean or a number, or at least look like
a number? -/
def looksTyped (s : String) : Bool :=
  Value.ofPlain s != .text s || Value.hasNeedlessZero s.toList

/-- How a text is written. -/
def style (s : String) : ScalarStyle :=
  let cs := s.toList
  let quoted : ScalarStyle := if standsQuoted cs then .singleQuoted else .doubleQuoted
  if cs.contains '\n' then (if standsIndented cs then .literal else .doubleQuoted)
  else if looksTyped s || !standsPlain cs then quoted
  else .plain

/-! ## The characters of a written text -/

/-- Blanks for an indentation. -/
def blanks (n : Nat) : List Char := List.replicate n ' '

/-- A text in lines: after a line break, and perhaps at the start, comes the indentation. -/
def indented (indent : Nat) : (atStart : Bool) → List Char → List Char
  | _, [] => []
  | atStart, c :: cs =>
    if isBreak c then c :: indented indent true cs
    else (if atStart then blanks indent else []) ++ c :: indented indent false cs

/-- A text with every quote written twice. -/
def doubled (cs : List Char) : List Char :=
  cs.flatMap fun c => if c = '\'' then ['\'', '\''] else [c]

/-- A text between single quotes, with the quotes in it doubled. -/
def singleQuoted (indent : Nat) (cs : List Char) : List Char :=
  '\'' :: indented indent false (doubled cs) ++
    (if cs.getLast?.any isBreak then blanks indent else []) ++ ['\'']

/-- A digit of a code in upper case. -/
def upperHex (width n : Nat) : List Char :=
  (Numeral.zeroPad width (Numeral.hexDigits n)).map Char.toUpper

/-- A character between double quotes. -/
def escaped (c : Char) : List Char :=
  let named := [('\x00', '0'), ('\x07', 'a'), ('\x08', 'b'), ('\t', 't'), ('\n', 'n'),
    ('\x0b', 'v'), ('\x0c', 'f'), ('\r', 'r'), ('\x1b', 'e'), ('"', '"'), ('\\', '\\'),
    ('\x85', 'N'), ('\u2028', 'L'), ('\u2029', 'P')]
  match named.lookup c with
  | some letter => ['\\', letter]
  | none =>
    if isPlainlyPrintable c then [c]
    else if c.toNat ≤ 0xFF then '\\' :: 'x' :: upperHex 2 c.toNat
    else if c.toNat ≤ 0xFFFF then '\\' :: 'u' :: upperHex 4 c.toNat
    else '\\' :: 'U' :: upperHex 8 c.toNat

/-- A text between double quotes. -/
def doubleQuoted (cs : List Char) : List Char := '"' :: cs.flatMap escaped ++ ['"']

/-- The sign that tells how many line breaks at the end of a literal block belong to it. -/
def chomping (cs : List Char) : List Char :=
  match cs.reverse with
  | c :: d :: _ => if !isBreak c then ['-'] else if isBreak d then ['+'] else []
  | [c] => if isBreak c then ['+'] else ['-']
  | [] => ['-']

/-- A text as a literal block.  The depth is given if the first line would hide it. -/
def literal (indent : Nat) (cs : List Char) : List Char :=
  let depth := if cs.head?.any fun c => isBlankSpace c || isBreak c then ['2'] else []
  '|' :: depth ++ chomping cs ++ '\n' :: indented indent true cs

/-- A written text, with the line break after it. -/
def text (indent : Nat) (s : String) : List Char :=
  let cs := s.toList
  let written := match style s with
    | .plain => cs
    | .singleQuoted => singleQuoted indent cs
    | .doubleQuoted => doubleQuoted cs
    | .literal | .folded => literal indent cs
  if written.getLast?.any isBreak then written else written ++ ['\n']

end Written

namespace Tree

mutual

/-- A value after its key, with the line break after it. -/
def after (indent : Nat) : Tree → List Char
  | null => " null\n".toList
  | boolean b => (if b then " true\n" else " false\n").toList
  | natural n => ' ' :: Numeral.decimalDigits n ++ ['\n']
  | text s => ' ' :: Written.text (indent + 2) s
  | mapping entries => '\n' :: lines (indent + 2) entries

/-- The entries of a record, indented. -/
def lines (indent : Nat) : List (String × Tree) → List Char
  | [] => []
  | (key, value) :: entries =>
    Written.blanks indent ++ key.toList ++ ':' :: after indent value ++ lines indent entries

end

/-- A record as a document. -/
def render (entries : List (String × Tree)) : String := .ofList (lines 0 entries)

end Tree
end RadioFrontEnd.Yaml
