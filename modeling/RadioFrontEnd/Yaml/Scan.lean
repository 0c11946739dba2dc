import RadioFrontEnd.Yaml.Block
import RadioFrontEnd.Yaml.Plain
import RadioFrontEnd.Yaml.Quoted
import RadioFrontEnd.Yaml.Token

/-!
# From characters to tokens

`tokens` cuts a text into tokens.  Two things make this more than cutting.

*Indentation.*  Block collections are opened and closed by the column at which things start, so the
scanner keeps the columns of the open block collections.

*Keys without a mark.*  In `a: b` nothing says that `a` is a key until the colon comes.  A node that
could be such a key is a `Candidate`; when the colon comes, a `key` token, and perhaps the start of
a mapping, is put before it.  A key ends on the line where it starts and has at most 1024
characters, so a candidate does not stay one for long.  As long as it is one, neither its tokens nor
those after it are final.

A text may go wrong in the middle.  Then `Scan.tokens` are the tokens that were final by then, and
`Scan.failure` says what came after them.
-/

namespace RadioFrontEnd.Yaml

/-- A node that may turn out to be a key. -/
structure Candidate where
  /-- It stands where there has to be a key. -/
  required : Bool
  /-- The number of tokens before it. -/
  position : Nat
  /-- Where it starts. -/
  mark : Mark
  deriving DecidableEq

/-- The tokens of a text. -/
structure Scan where
  /-- The tokens, in order. -/
  tokens : List Token
  /-- What comes after them, if the text does not end there. -/
  failure : Option Malformed
  deriving DecidableEq

/-- A text in the middle of being cut into tokens. -/
structure Scanner where
  /-- The place, and what is still to come. -/
  cursor : Cursor
  /-- The columns of the open block collections, innermost first. -/
  indents : List Nat
  /-- The candidate within the innermost flow collection, or outside of all. -/
  candidate : Option Candidate
  /-- The candidates outside of each open flow collection, innermost first. -/
  outer : List (Option Candidate)
  /-- A key without a mark may start here. -/
  keyAllowed : Bool
  /-- The tokens so far, latest first. -/
  produced : List Token
  deriving DecidableEq

/-- A failure, with the scanner as it was then. -/
structure Stop where
  /-- What is wrong. -/
  failure : Malformed
  /-- The scanner when that came out. -/
  scanner : Scanner

namespace Scanner

/-- Within a flow collection? -/
def inFlow (s : Scanner) : Bool := !s.outer.isEmpty

/-- Give up, with a problem at the present place. -/
def fail {α : Type} (s : Scanner) (problem : Problem) : Except Stop α :=
  .error ⟨⟨problem, s.cursor.mark⟩, s⟩

/-- Take the result of reading a part of the text. -/
def attempt {α : Type} (s : Scanner) (x : Except Malformed α) : Except Stop α :=
  x.mapError (⟨·, s⟩)

/-- One more token. -/
def emit (s : Scanner) (kind : TokenKind) (mark : Mark) : Scanner :=
  { s with produced := ⟨kind, mark⟩ :: s.produced }

/-- Put tokens, latest first, where so many tokens stand before. -/
def insert (s : Scanner) (position : Nat) (tokens : List Token) : Scanner :=
  let after := s.produced.length - position
  { s with produced := s.produced.take after ++ tokens ++ s.produced.drop after }

/-- Go past characters of the same line. -/
def skip (s : Scanner) (n : Nat) : Scanner := { s with cursor := s.cursor.skip n }

/-! ## Spaces and comments -/

/-- Pass blanks, comments and line breaks.  Tabs are blanks only where no key may start.  Outside of
flow collections a line break allows a key. -/
def passSpaces (inFlow : Bool) : (inComment keyAllowed : Bool) → List Char → Mark → Cursor × Bool
  | _, keyAllowed, [], mark => (⟨[], mark⟩, keyAllowed)
  | _, keyAllowed, '\r' :: '\n' :: cs, mark =>
    passSpaces inFlow false (keyAllowed || !inFlow) cs (mark.newLine 2)
  | inComment, keyAllowed, c :: cs, mark =>
    if isBreak c then passSpaces inFlow false (keyAllowed || !inFlow) cs (mark.newLine 1)
    else if inComment || c == ' ' || (c == '\t' && (inFlow || !keyAllowed)) then
      passSpaces inFlow inComment keyAllowed cs (mark.advance 1)
    else if c = '#' then passSpaces inFlow true keyAllowed cs (mark.advance 1)
    else (⟨c :: cs, mark⟩, keyAllowed)

/-- Go to the start of the next token. -/
def toNextToken (s : Scanner) : Scanner :=
  let (cursor, keyAllowed) := passSpaces s.inFlow false s.keyAllowed s.cursor.rest s.cursor.mark
  { s with cursor, keyAllowed }

/-! ## Candidates for keys -/

/-- The number of characters within which the colon of a key must come. -/
def maxKey : Nat := 1024

/-- Can the candidate no longer be a key? -/
def isStale (s : Scanner) (k : Candidate) : Bool :=
  k.mark.line < s.cursor.mark.line || k.mark.index + maxKey < s.cursor.mark.index

/-- Forget a candidate that can no longer be a key. -/
def freshOnly (s : Scanner) (k : Option Candidate) : Option Candidate :=
  k.filter (!s.isStale ·)

/-- Forget the candidates that can no longer be keys.  One that has to be a key is a failure. -/
def dropStale (s : Scanner) : Except Stop Scanner :=
  if (s.candidate :: s.outer).any fun k => k.any fun k => k.required && s.isStale k then
    s.fail .missingColon
  else .ok { s with candidate := s.freshOnly s.candidate, outer := s.outer.map s.freshOnly }

/-- Forget the present candidate.  One that has to be a key is a failure. -/
def dropCandidate (s : Scanner) : Except Stop Scanner :=
  if s.candidate.any (·.required) then s.fail .missingColon
  else .ok { s with candidate := none }

/-- The node that starts here may be a key, if keys are allowed. -/
def saveCandidate (s : Scanner) : Except Stop Scanner :=
  if s.keyAllowed then do
    let required := !s.inFlow && s.indents.head? == some s.cursor.mark.column
    let s ← s.dropCandidate
    return { s with candidate := some ⟨required, s.produced.length, s.cursor.mark⟩ }
  else .ok s

/-! ## Indentation -/

/-- Does a column lie deeper than the innermost block collection? -/
def isDeeper (s : Scanner) (column : Nat) : Bool := s.indents.head?.all (· < column)

/-- Close the block collections that are deeper than a column; without a column, all of them. -/
def closeBlocks (column : Option Nat) (mark : Mark) : List Nat → List Token →
    List Nat × List Token
  | [], tokens => ([], tokens)
  | i :: is, tokens =>
    if column.all (· < i) then closeBlocks column mark is (⟨.blockEnd, mark⟩ :: tokens)
    else (i :: is, tokens)

/-- Close the block collections that are deeper than a column.  Within flow collections indentation
means nothing. -/
def unroll (s : Scanner) (column : Option Nat) : Scanner :=
  if s.inFlow then s
  else
    let (indents, produced) := closeBlocks column s.cursor.mark s.indents s.produced
    { s with indents, produced }

/-- Open a block collection at the present column, if that is deeper than the open ones. -/
def openBlock (s : Scanner) (kind : TokenKind) : Scanner :=
  let column := s.cursor.mark.column
  if !s.inFlow && s.isDeeper column then
    { s.emit kind s.cursor.mark with indents := column :: s.indents }
  else s

/-! ## The tokens -/

/-- The end of the text. -/
def fetchEnd (s : Scanner) : Except Stop Scanner := do
  let mark := s.cursor.mark
  let mark := if mark.column = 0 then mark else { mark with line := mark.line + 1, column := 0 }
  let s := { s with cursor := ⟨[], mark⟩ }.unroll none
  let s ← s.dropCandidate
  return { s with keyAllowed := false }.emit .streamEnd mark

/-- A directive. -/
def fetchDirective (s : Scanner) : Except Stop Scanner := do
  let s ← (s.unroll none).dropCandidate
  let s := { s with keyAllowed := false }
  let (directive, next) ← s.attempt (Tag.readDirective s.cursor)
  return { s.emit (.directive directive) s.cursor.mark with cursor := next }

/-- The start or the end of a document. -/
def fetchMarker (s : Scanner) (kind : TokenKind) : Except Stop Scanner := do
  let s ← (s.unroll none).dropCandidate
  return ({ s with keyAllowed := false }.emit kind s.cursor.mark).skip 3

/-- The start of a flow collection. -/
def fetchFlowStart (s : Scanner) (kind : TokenKind) : Except Stop Scanner := do
  let s ← s.saveCandidate
  return ({ s with candidate := none, outer := s.candidate :: s.outer, keyAllowed := true }.emit
    kind s.cursor.mark).skip 1

/-- The end of a flow collection. -/
def fetchFlowEnd (s : Scanner) (kind : TokenKind) : Except Stop Scanner := do
  let s ← s.dropCandidate
  let s := match s.outer with
    | k :: ks => { s with candidate := k, outer := ks }
    | [] => s
  return ({ s with keyAllowed := false }.emit kind s.cursor.mark).skip 1

/-- The comma between entries of a flow collection. -/
def fetchFlowEntry (s : Scanner) : Except Stop Scanner := do
  let s ← s.dropCandidate
  return ({ s with keyAllowed := true }.emit .flowEntry s.cursor.mark).skip 1

/-- The dash before an entry of a block sequence. -/
def fetchBlockEntry (s : Scanner) : Except Stop Scanner := do
  if !s.inFlow && !s.keyAllowed then s.fail .misplacedEntry
  let s ← (s.openBlock .blockSequenceStart).dropCandidate
  return ({ s with keyAllowed := true }.emit .blockEntry s.cursor.mark).skip 1

/-- The question mark before a key. -/
def fetchKey (s : Scanner) : Except Stop Scanner := do
  if !s.inFlow && !s.keyAllowed then s.fail .misplacedKey
  let s ← (s.openBlock .blockMappingStart).dropCandidate
  return ({ s with keyAllowed := !s.inFlow }.emit .key s.cursor.mark).skip 1

/-- Make the candidate a key, and open a mapping at its column if that is deeper than the open
block collections. -/
def promote (s : Scanner) (k : Candidate) : Scanner :=
  let key : Token := ⟨.key, k.mark⟩
  if !s.inFlow && s.isDeeper k.mark.column then
    { s.insert k.position [key, ⟨.blockMappingStart, k.mark⟩] with
      indents := k.mark.column :: s.indents }
  else s.insert k.position [key]

/-- The colon before a value.  It makes the candidate a key; without one it belongs to a marked key,
or to a key that is empty. -/
def fetchValue (s : Scanner) : Except Stop Scanner := do
  let s ← match s.candidate with
    | some k => pure { s.promote k with candidate := none, keyAllowed := false }
    | none => do
      if !s.inFlow && !s.keyAllowed then s.fail .misplacedValue
      pure { s.openBlock .blockMappingStart with keyAllowed := !s.inFlow }
  return (s.emit .value s.cursor.mark).skip 1

/-- A name with its sign: an anchor or an alias. -/
def fetchName (s : Scanner) (kind : String → TokenKind) : Except Stop Scanner := do
  let s ← s.saveCandidate
  let s := { s with keyAllowed := false }
  let (name, next) ← s.attempt (Tag.readName s.cursor)
  return { s.emit (kind name) s.cursor.mark with cursor := next }

/-- A tag. -/
def fetchTag (s : Scanner) : Except Stop Scanner := do
  let s ← s.saveCandidate
  let s := { s with keyAllowed := false }
  let (tag, next) ← s.attempt (Tag.read s.inFlow s.cursor)
  return { s.emit (.tag tag) s.cursor.mark with cursor := next }

/-- A block scalar. -/
def fetchBlockScalar (s : Scanner) (folded : Bool) : Except Stop Scanner := do
  let s ← s.dropCandidate
  let s := { s with keyAllowed := true }
  let r ← s.attempt (Block.read folded s.indents.head? s.cursor)
  let style := if folded then ScalarStyle.folded else .literal
  return { s.emit (.scalar style (.ofList r.text)) s.cursor.mark with cursor := r.next }

/-- A quoted scalar. -/
def fetchQuoted (s : Scanner) (single : Bool) : Except Stop Scanner := do
  let s ← s.saveCandidate
  let s := { s with keyAllowed := false }
  let r ← s.attempt (Quoted.read single s.cursor)
  let style := if single then ScalarStyle.singleQuoted else .doubleQuoted
  return { s.emit (.scalar style (.ofList r.text)) s.cursor.mark with cursor := r.next }

/-- The column that a further line of a plain scalar must reach. -/
def plainIndent (s : Scanner) : Nat := (s.indents.head?.map (· + 1)).getD 0

/-- A plain scalar.  If a line break follows it, a key may come next. -/
def fetchPlain (s : Scanner) : Except Stop Scanner := do
  let s ← s.saveCandidate
  let s := { s with keyAllowed := false }
  let r ← s.attempt (Plain.read ⟨s.inFlow, s.plainIndent⟩ s.cursor)
  return { s.emit (.scalar .plain (.ofList r.text)) s.cursor.mark with
    cursor := r.next, keyAllowed := r.brokeLine }

/-- The characters that have a meaning of their own at the start of a token. -/
def isIndicator (c : Char) : Bool := "-?:,[]\x7b\x7d#&*!|>'\"%@\x60".toList.contains c

/-- Can a plain scalar start with these characters?  A dash, a question mark and a colon can start
one if no space follows; within flow collections only the dash can, and a line break after it will
do. -/
def startsPlain (inFlow : Bool) (c : Char) (cs : List Char) : Bool :=
  !(isSpace c || isIndicator c) || (c == '-' && !cs.head?.any isBlank) ||
    (!inFlow && (c == '?' || c == ':') && !startsWithSpace cs)

/-- The token that starts with a character. -/
def fetchAt (s : Scanner) (c : Char) (cs : List Char) : Except Stop Scanner :=
  let spaced := startsWithSpace cs
  if s.cursor.mark.column = 0 ∧ c = '%' then s.fetchDirective
  else if s.cursor.atMarker then s.fetchMarker (if c = '-' then .documentStart else .documentEnd)
  else if c = '[' then s.fetchFlowStart .flowSequenceStart
  else if c = '{' then s.fetchFlowStart .flowMappingStart
  else if c = ']' then s.fetchFlowEnd .flowSequenceEnd
  else if c = '}' then s.fetchFlowEnd .flowMappingEnd
  else if c = ',' then s.fetchFlowEntry
  else if c = '-' ∧ spaced then s.fetchBlockEntry
  else if c = '?' ∧ (s.inFlow ∨ spaced) then s.fetchKey
  else if c = ':' ∧ (s.inFlow ∨ spaced) then s.fetchValue
  else if c = '*' then s.fetchName .reference
  else if c = '&' then s.fetchName .anchor
  else if c = '!' then s.fetchTag
  else if c = '|' ∧ !s.inFlow then s.fetchBlockScalar false
  else if c = '>' ∧ !s.inFlow then s.fetchBlockScalar true
  else if c = '\'' then s.fetchQuoted true
  else if c = '"' then s.fetchQuoted false
  else if startsPlain s.inFlow c cs then s.fetchPlain
  else s.fail .unexpectedCharacter

/-- The next token, and the tokens that come with it. -/
def fetch (s : Scanner) : Except Stop Scanner := do
  let s ← s.toNextToken.dropStale
  let s := s.unroll (some s.cursor.mark.column)
  match s.cursor.rest with
  | [] => s.fetchEnd
  | c :: cs => s.fetchAt c cs

/-- Is the text at its end, with all its tokens there? -/
def isDone (s : Scanner) : Bool := s.produced.head?.any (·.kind == .streamEnd)

/-- The number of tokens that no candidate can change any more. -/
def settled (s : Scanner) : Nat :=
  (s.candidate :: s.outer).foldl (fun n k => (k.map fun k => min n k.position).getD n)
    s.produced.length

/-- Fetch tokens to the end of the text. -/
def run (s : Scanner) : Scan :=
  match s.fetch with
  | .error stop =>
    ⟨stop.scanner.produced.reverse.take stop.scanner.settled, some stop.failure⟩
  | .ok s' =>
    if s'.isDone then ⟨s'.produced.reverse, none⟩
    else if s'.cursor.rest.length < s.cursor.rest.length then s'.run
    else ⟨s'.produced.reverse, none⟩
termination_by s.cursor.rest.length

/-- Before the first token. -/
def start (text : List Char) : Scanner where
  cursor := ⟨text, {}⟩
  indents := []
  candidate := none
  outer := []
  keyAllowed := true
  produced := []

end Scanner

/-- The place of the first control character of a text. -/
def controlCharacter? (text : List Char) : Option Nat := text.findIdx? (!isPrintable ·)

/-- Cut a text into tokens.  A byte order mark at the start is no part of it, and a text with
control characters has no tokens at all. -/
def tokens (text : List Char) : Scan :=
  let text := if text.head? = some '\uFEFF' then text.tail else text
  match controlCharacter? text with
  | some n => ⟨[], some ⟨.controlCharacter, Mark.advance {} n⟩⟩
  | none => (Scanner.start text).run

end RadioFrontEnd.Yaml
