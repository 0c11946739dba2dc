import RadioFrontEnd.Yaml.Problem

/-!
# Block scalars

A block scalar is a header and the lines below it that are indented.  The header says whether line
breaks are kept (`|`) or folded (`>`), what happens to the breaks at the end, and, if the first line
starts with blanks of its own, how deep the indentation is.  Without that number the first line that
is not empty decides.
-/

namespace RadioFrontEnd.Yaml.Block

/-- What happens to the line breaks at the end of a block scalar. -/
inductive Chomp where
  /-- They are dropped. -/
  | strip
  /-- The first stays. -/
  | clip
  /-- They stay. -/
  | keep
  deriving DecidableEq

/-- What the first line of a block scalar says. -/
structure Header where
  /-- What happens to the breaks at the end. -/
  chomp : Chomp
  /-- The depth of the indentation below the surrounding one. -/
  increment : Option Nat
  deriving DecidableEq

/-- A block scalar that was read: its text, and what comes after it. -/
structure Result where
  /-- The scalar. -/
  text : List Char
  /-- What comes after it. -/
  next : Cursor

/-- The sign for the breaks at the end. -/
def chomp? : Char → Option Chomp
  | '+' => some .keep
  | '-' => some .strip
  | _ => none

/-- The sign for the indentation. -/
def increment? (c : Char) : Except Problem (Option Nat) :=
  if c = '0' then .error .zeroIndentation
  else if c.isDigit then .ok (some (c.toNat - '0'.toNat))
  else .ok none

/-- The signs after the first character of a block scalar, in either order, and how many characters
they take. -/
def header : List Char → Except Problem (Header × Nat)
  | [] => .ok (⟨.clip, none⟩, 0)
  | c :: cs =>
    match chomp? c with
    | some chomp =>
      match cs with
      | [] => .ok (⟨chomp, none⟩, 1)
      | d :: _ => do
        let increment ← increment? d
        .ok (⟨chomp, increment⟩, if increment.isSome then 2 else 1)
    | none => do
      match ← increment? c with
      | none => .ok (⟨.clip, none⟩, 0)
      | some n =>
        match cs.head? >>= chomp? with
        | some chomp => .ok (⟨chomp, some n⟩, 2)
        | none => .ok (⟨.clip, some n⟩, 1)

/-- Indentation and empty lines that were passed. -/
structure Passed where
  /-- The line breaks, latest first. -/
  breaks : List Char
  /-- The deepest column that was reached. -/
  deepest : Nat
  /-- What comes after them. -/
  next : Cursor

/-- Pass indentation, up to a column if it is known, and empty lines. -/
def passIndent (indent : Option Nat) : (breaks : List Char) → (deepest : Nat) → List Char → Mark →
    Except Malformed Passed
  | breaks, deepest, [], mark => .ok ⟨breaks, max deepest mark.column, ⟨[], mark⟩⟩
  | breaks, deepest, '\r' :: '\n' :: cs, mark =>
    passIndent indent ('\n' :: breaks) (max deepest mark.column) cs (mark.newLine 2)
  | breaks, deepest, c :: cs, mark =>
    let within := indent.all (mark.column < ·)
    if c = ' ' ∧ within then passIndent indent breaks deepest cs (mark.advance 1)
    else if c = '\t' ∧ within then .error ⟨.tabIndentation, mark⟩
    else if isBreak c then
      passIndent indent (breakText c :: breaks) (max deepest mark.column) cs (mark.newLine 1)
    else .ok ⟨breaks, max deepest mark.column, ⟨c :: cs, mark⟩⟩

/-- The line break at a place, as text. -/
def breakHere (c : Cursor) : List Char :=
  match c.rest with
  | b :: _ => if isBreak b then [breakText b] else []
  | [] => []

/-- A block scalar in the middle of reading.  All texts have their latest character first. -/
structure State where
  /-- The text of the lines read. -/
  text : List Char
  /-- The break at the end of the last line. -/
  leading : List Char
  /-- The breaks of the empty lines after it. -/
  breaks : List Char
  /-- The last line starts with a blank. -/
  blankLine : Bool

/-- The text once the breaks after the last line are known to be inside.  When lines are folded, the
break between two lines that start without a blank means a blank, or nothing if empty lines stand in
its place. -/
def State.join (s : State) (folded startsBlank : Bool) : List Char :=
  if folded && s.leading == ['\n'] && !s.blankLine && !startsBlank then
    if s.breaks.isEmpty then ' ' :: s.text else s.breaks ++ s.text
  else s.breaks ++ (s.leading ++ s.text)

/-- The text once the breaks after the last line are known to be the end. -/
def State.finish (s : State) : Chomp → List Char
  | .strip => s.text
  | .clip => s.leading ++ s.text
  | .keep => s.breaks ++ (s.leading ++ s.text)

/-- Read the lines of a block scalar that are indented to a column. -/
def readLines (folded : Bool) (indent : Nat) (s : State) (here : Cursor) :
    Except Malformed (State × Cursor) :=
  if here.mark.column = indent ∧ here.rest ≠ [] then
    let startsBlank := here.rest.head?.any isBlank
    let line := here.rest.takeWhile (!isBreak ·)
    let stop := here.skip line.length
    match passIndent (some indent) [] 0 stop.skipBreak.rest stop.skipBreak.mark with
    | .error e => .error e
    | .ok passed =>
      let s' : State := ⟨line.reverse ++ s.join folded startsBlank, breakHere stop, passed.breaks,
        startsBlank⟩
      if passed.next.rest.length < here.rest.length then readLines folded indent s' passed.next
      else .ok (s', passed.next)
  else .ok (s, here)
termination_by here.rest.length

/-- Read a block scalar, from its sign on, within an indentation.  No indentation is that of the
document itself. -/
def read (folded : Bool) (parent : Option Nat) (c : Cursor) : Except Malformed Result := do
  let start := c.skip 1
  let (head, n) ← (header start.rest).mapError (⟨·, (start.skip 1).mark⟩)
  let after := (start.skip n).skipWhile isBlank
  let stop := if after.rest.head? = some '#' then after.skipWhile (!isBreak ·) else after
  if !startsWithBreak stop.rest then throw ⟨.missingLineBreak, stop.mark⟩
  let body := stop.skipBreak
  let known := head.increment.map (parent.getD 0 + ·)
  let passed ← passIndent known [] 0 body.rest body.mark
  let least := max 1 ((parent.map (· + 1)).getD 0)
  let indent := known.getD (max passed.deepest least)
  let (s, next) ← readLines folded indent ⟨[], [], passed.breaks, false⟩ passed.next
  return ⟨(s.finish head.chomp).reverse, next⟩

end RadioFrontEnd.Yaml.Block
