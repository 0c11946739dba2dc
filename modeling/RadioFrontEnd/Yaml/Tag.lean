import RadioFrontEnd.Numeral
import RadioFrontEnd.Yaml.Problem

/-!
# Anchors, tags and directives

The small languages around nodes: names of anchors and aliases, tags, and the directives at the head
of a document.  A tag is written as a handle and a suffix; what the handle stands for is settled
later, because directives may declare it.
-/

namespace RadioFrontEnd.Yaml

/-- A tag as it is written. -/
structure WrittenTag where
  /-- The part that stands for something declared; empty if there is none. -/
  handle : String
  /-- The rest. -/
  suffix : String
  deriving DecidableEq, Repr

/-- A directive at the head of a document. -/
inductive Directive where
  /-- The version of the language. -/
  | version (major minor : Nat)
  /-- What a tag handle stands for. -/
  | tag (handle meaning : String)
  deriving DecidableEq, Repr

namespace Tag

/-- Read the name of an anchor or alias, from its sign on. -/
def readName (c : Cursor) : Except Malformed (String × Cursor) :=
  let start := c.skip 1
  let name := start.rest.takeWhile isNameChar
  let next := start.skip name.length
  let ended := startsWithSpace next.rest ||
    next.rest.head?.any fun d => "?:,]\x7d%@\x60".toList.contains d
  if name.isEmpty || !ended then .error ⟨.badAnchorName, next.mark⟩
  else .ok (.ofList name, next)

/-- A character of a tag.  Within angle brackets it may also be a comma or a square bracket. -/
def isTagChar (bracketed : Bool) (c : Char) : Bool :=
  isNameChar c || ";/?:@&=+$.%!~*'()".toList.contains c ||
    (bracketed && (c == ',' || c == '[' || c == ']'))

/-- The byte that a percent sign and two hexadecimal digits stand for. -/
def escapedByte? : List Char → Option UInt8
  | '%' :: a :: b :: _ => (Numeral.read? 16 [a, b]).map (·.toUInt8)
  | _ => none

/-- How many bytes a character takes that starts with a byte. -/
def charWidth (b : UInt8) : Nat :=
  if b &&& 0x80 = 0 then 1 else if b &&& 0xE0 = 0xC0 then 2
  else if b &&& 0xF0 = 0xE0 then 3 else if b &&& 0xF8 = 0xF0 then 4 else 0

/-- The character that the escapes at a place stand for, and how many characters they take. -/
def escapedChar? (cs : List Char) : Option (Char × Nat) := do
  let width := charWidth (← escapedByte? cs)
  let bytes ← (List.range width).mapM fun i => escapedByte? (cs.drop (3 * i))
  let text ← String.fromUTF8? ⟨bytes.toArray⟩
  let c ← text.toList.head?
  return (c, 3 * width)

/-- Read the characters of a tag, latest first, after some that were read already. -/
def readTextFrom (bracketed : Bool) (text rest : List Char) (mark : Mark) :
    Except Malformed (List Char × Cursor) :=
  match rest with
  | [] => .ok (text, ⟨[], mark⟩)
  | c :: cs =>
    if !isTagChar bracketed c then .ok (text, ⟨c :: cs, mark⟩)
    else if c = '%' then
      match escapedChar? (c :: cs) with
      | none => .error ⟨.badTagEscape, mark⟩
      | some (e, n) => readTextFrom bracketed (e :: text) (cs.drop (n - 1)) (mark.advance n)
    else readTextFrom bracketed (c :: text) cs (mark.advance 1)
termination_by rest.length
decreasing_by all_goals (simp only [List.length_drop, List.length_cons]; omega)

/-- Read the characters of a tag at a place. -/
def readText (bracketed : Bool) (text : List Char) (here : Cursor) :
    Except Malformed (List Char × Cursor) :=
  readTextFrom bracketed text here.rest here.mark

/-- Read a tag handle: an exclamation mark, a name, and the exclamation mark that ends it, if there
is one. -/
def readHandle (c : Cursor) : List Char × Cursor :=
  let name := (c.skip 1).rest.takeWhile isNameChar
  let next := c.skip (1 + name.length)
  if next.rest.head? = some '!' then ('!' :: name ++ ['!'], next.skip 1)
  else ('!' :: name, next)

/-- Read the part of a tag that follows the exclamation mark of its handle. -/
def readSuffix (c : Cursor) : Except Malformed (WrittenTag × Cursor) := do
  let (handle, next) := readHandle c
  if handle.length ≠ 1 ∧ handle.getLast? = some '!' then
    let (suffix, stop) ← readText false [] next
    if suffix.isEmpty then throw ⟨.missingTagText, stop.mark⟩
    return (⟨.ofList handle, .ofList suffix.reverse⟩, stop)
  else
    let (suffix, stop) ← readText false handle.tail.reverse next
    if suffix.isEmpty then return (⟨"", "!"⟩, stop)
    else return (⟨"!", .ofList suffix.reverse⟩, stop)

/-- Read a tag in angle brackets. -/
def readBracketed (c : Cursor) : Except Malformed (WrittenTag × Cursor) := do
  let (suffix, stop) ← readText true [] (c.skip 2)
  if suffix.isEmpty then throw ⟨.missingTagText, stop.mark⟩
  if stop.rest.head? ≠ some '>' then throw ⟨.missingTagBracket, stop.mark⟩
  return (⟨"", .ofList suffix.reverse⟩, stop.skip 1)

/-- Read a tag, from its exclamation mark on. -/
def read (flow : Bool) (c : Cursor) : Except Malformed (WrittenTag × Cursor) := do
  let (tag, stop) ← if c.rest[1]? = some '<' then readBracketed c else readSuffix c
  if startsWithSpace stop.rest || (flow && stop.rest.head? == some ',') then return (tag, stop)
  else throw ⟨.missingTagSpace, stop.mark⟩

/-- Read a number of a version, of at most nine digits. -/
def readVersionNumber (c : Cursor) : Except Malformed (Nat × Cursor) :=
  let digits := c.rest.takeWhile Char.isDigit
  if 9 < digits.length then .error ⟨.longVersionNumber, (c.skip 9).mark⟩
  else match Numeral.read? 10 digits with
    | none => .error ⟨.missingVersionNumber, c.mark⟩
    | some n => .ok (n, c.skip digits.length)

/-- Read what a version directive says. -/
def readVersion (c : Cursor) : Except Malformed (Directive × Cursor) := do
  let (major, point) ← readVersionNumber (c.skipWhile isBlank)
  if point.rest.head? ≠ some '.' then throw ⟨.missingVersionPoint, point.mark⟩
  let (minor, stop) ← readVersionNumber (point.skip 1)
  return (.version major minor, stop)

/-- Read what a tag directive says: the handle, and the text it stands for. -/
def readMeaning (c : Cursor) : Except Malformed (Directive × Cursor) := do
  let start := c.skipWhile isBlank
  if start.rest.head? ≠ some '!' then throw ⟨.badTagHandle, start.mark⟩
  let (handle, after) := readHandle start
  if handle.length ≠ 1 ∧ handle.getLast? ≠ some '!' then throw ⟨.badTagHandle, after.mark⟩
  if !after.rest.head?.any isBlank then throw ⟨.missingTagSpace, after.mark⟩
  let (meaning, stop) ← readText true [] (after.skipWhile isBlank)
  if meaning.isEmpty then throw ⟨.missingTagText, stop.mark⟩
  if !startsWithSpace stop.rest then throw ⟨.missingTagSpace, stop.mark⟩
  return (.tag (.ofList handle) (.ofList meaning.reverse), stop)

/-- Read a directive and its line, from the percent sign on. -/
def readDirective (c : Cursor) : Except Malformed (Directive × Cursor) := do
  let start := c.skip 1
  let name := start.rest.takeWhile isNameChar
  let after := start.skip name.length
  if name.isEmpty then throw ⟨.missingDirectiveName, after.mark⟩
  if !startsWithSpace after.rest then throw ⟨.badDirectiveName, after.mark⟩
  let (directive, stop) ←
    if name = "YAML".toList then readVersion after
    else if name = "TAG".toList then readMeaning after
    else throw ⟨.unknownDirective, after.mark⟩
  let blank := stop.skipWhile isBlank
  let last := if blank.rest.head? = some '#' then blank.skipWhile (!isBreak ·) else blank
  if !startsWithBreak last.rest then throw ⟨.missingLineBreak, last.mark⟩
  return (directive, last.skipBreak)

end Tag
end RadioFrontEnd.Yaml
