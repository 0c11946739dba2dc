import RadioFrontEnd.Yaml.Gap
import RadioFrontEnd.Yaml.Problem

/-!
# Plain scalars

A scalar without quotes runs until something that cannot belong to it: a colon before a space, a
comment after a space, the brackets, braces and commas of a flow collection, a document marker, or a
line that is not indented enough.  Blanks and line breaks before that end are passed, and do not
belong to the scalar.
-/

namespace RadioFrontEnd.Yaml.Plain

/-- Where a plain scalar is read. -/
structure Context where
  /-- Within brackets or braces. -/
  flow : Bool
  /-- The column that a further line must reach. -/
  indent : Nat
  deriving DecidableEq

/-- A plain scalar that was read. -/
structure Result where
  /-- The scalar. -/
  text : List Char
  /-- What comes after it and after the gap behind it. -/
  next : Cursor
  /-- The gap behind it holds a line break. -/
  brokeLine : Bool

/-- The brackets, braces and commas of flow collections. -/
def isFlowMark (c : Char) : Bool :=
  c == ',' || c == '[' || c == ']' || c == '{' || c == '}'

/-- A colon that cannot stand here: in a flow collection, right before one of its marks. -/
def isBadColon (flow : Bool) (c : Char) (cs : List Char) : Bool :=
  flow && c == ':' && cs.head?.any fun d => isFlowMark d || d == '?'

/-- Does the scalar end before this character, whatever comes before it? -/
def endsBefore (flow : Bool) (c : Char) (cs : List Char) : Bool :=
  (c == ':' && startsWithSpace cs) || (flow && isFlowMark c)

/-- Does the scalar end before this character, after a gap? -/
def endsAfterGap (ctx : Context) (here : Cursor) : Bool :=
  (!ctx.flow && here.mark.column < ctx.indent) || here.atMarker || here.rest.head? == some '#'

/-- The scalar read so far, latest character first, with the gap behind it. -/
def finish (text : List Char) (gap : Gap) (here : Cursor) : Result :=
  ⟨text.reverse, here, gap.isLines⟩

/-- Read on from a point within a scalar. -/
def readFrom (ctx : Context) : (text : List Char) → Gap → List Char → Mark →
    Except Malformed Result
  | text, gap, [], mark => .ok (finish text gap ⟨[], mark⟩)
  | text, gap, '\r' :: '\n' :: cs, mark =>
    readFrom ctx text (gap.addBreak '\n') cs (mark.newLine 2)
  | text, gap, c :: cs, mark =>
    if isBlank c then
      if gap.isLines && c == '\t' && mark.column < ctx.indent then .error ⟨.tabIndentation, mark⟩
      else readFrom ctx text (gap.addBlank c) cs (mark.advance 1)
    else if isBreak c then
      readFrom ctx text (gap.addBreak c) cs (mark.newLine 1)
    else if !gap.isNone && endsAfterGap ctx ⟨c :: cs, mark⟩ then
      .ok (finish text gap ⟨c :: cs, mark⟩)
    else if isBadColon ctx.flow c cs then .error ⟨.unexpectedColon, mark⟩
    else if endsBefore ctx.flow c cs then .ok (finish text gap ⟨c :: cs, mark⟩)
    else readFrom ctx (c :: gap.close text) .none cs (mark.advance 1)

/-- Read a plain scalar. -/
def read (ctx : Context) (c : Cursor) : Except Malformed Result :=
  readFrom ctx [] .none c.rest c.mark

end RadioFrontEnd.Yaml.Plain
