import RadioFrontEnd.Yaml.Node
import RadioFrontEnd.Yaml.Scan

/-!
# Documents

`Document.ofText` reads the first document of a text: its directives, its root node, and whether
something follows it.  A text without any document is no failure; its document has no root.

The nodes are read by recursive descent over the tokens.  A node that is not there, as in `key:`
before the next key, is an empty plain scalar, and where it would start depends on what is around
it.  When the text goes wrong, the reader keeps the first failure and from then on finds nothing
more, so every open collection ends in `Node.missing`.

An anchor gets the number of different anchor names that were seen before it.  A name that is used
again thus takes a number of its own, which the next new name takes too; an alias stands for the
node that was the last to get its number.
-/

namespace RadioFrontEnd.Yaml

/-- The first document of a text. -/
structure Document where
  /-- The root node; none if the text holds no document. -/
  root : Option Node
  /-- What goes wrong in the document or at its end. -/
  failure : Option Malformed
  /-- Something follows the document. -/
  isFollowed : Bool

namespace Document

/-- A document in the middle of being read. -/
structure Reading where
  /-- The tokens to come. -/
  tokens : List Token
  /-- What goes wrong after them. -/
  ending : Malformed
  /-- What went wrong. -/
  failure : Option Malformed
  /-- What tag handles stand for, the first binding of a handle counts. -/
  handles : List (String × String)
  /-- The anchor names with their numbers, the latest use first. -/
  anchors : List (String × Nat)

/-- A step of reading a document. -/
abbrev Reader := StateM Reading

/-- The next token; none once the text went wrong. -/
def next? : Reader (Option Token) := fun r =>
  match r.failure, r.tokens with
  | some _, _ => (none, r)
  | none, t :: _ => (some t, r)
  | none, [] => (none, { r with failure := some r.ending })

/-- Go past a token. -/
def skip : Reader Unit := modify fun r => { r with tokens := r.tokens.tail }

/-- The text goes wrong here. -/
def fail (problem : Problem) (mark : Mark) : Reader Unit :=
  modify fun r => { r with failure := r.failure.or (some ⟨problem, mark⟩) }

/-- A node that is not there. -/
def absent (mark : Mark) : Node := .scalar ⟨mark, none, none⟩ .plain ""

/-! ## What comes before the content of a node -/

/-- The anchor and the tag of a node. -/
structure Properties where
  /-- The name of the anchor. -/
  anchor : Option String
  /-- The tag and its place. -/
  tag : Option (WrittenTag × Mark)

/-- Read an anchor, if one comes. -/
def readAnchor : Reader (Option String) := do
  match ← next? with
  | some ⟨.anchor name, _⟩ => skip; return some name
  | _ => return none

/-- Read a tag, if one comes. -/
def readTag : Reader (Option (WrittenTag × Mark)) := do
  match ← next? with
  | some ⟨.tag tag, mark⟩ => skip; return some (tag, mark)
  | _ => return none

/-- Read an anchor and a tag in either order, as far as they come. -/
def readProperties : Reader Properties := do
  match ← readAnchor with
  | some name => return ⟨some name, ← readTag⟩
  | none =>
    match ← readTag with
    | some tag => return ⟨← readAnchor, some tag⟩
    | none => return ⟨none, none⟩

/-- The tag that is meant, once the handle is replaced by what it stands for. -/
def resolveTag : Option (WrittenTag × Mark) → Reader (Option String)
  | none => return none
  | some (tag, mark) => do
    if tag.handle = "" then return some tag.suffix
    match (← get).handles.lookup tag.handle with
    | some meaning => return some (meaning ++ tag.suffix)
    | none => fail .undefinedTagHandle mark; return none

/-- Give an anchor its number. -/
def number : Option String → Reader (Option Nat)
  | none => return none
  | some name => do
    let known := (← get).anchors
    modify fun r => { r with anchors := (name, known.length) :: known.filter (·.1 ≠ name) }
    return some known.length

/-- The node that an alias stands for. -/
def readAlias (name : String) (mark : Mark) : Reader Node := do
  skip
  match (← get).anchors.lookup name with
  | some n => return .reference mark n
  | none => fail .unknownAnchor mark; return .missing

/-! ## Nodes -/

/-- Where a node is read: that decides which collections may start. -/
inductive Setting where
  /-- Where block collections may start. -/
  | block
  /-- As a key or value of a block mapping, where a block sequence need not be indented. -/
  | entry
  /-- Within a flow collection. -/
  | flow
  deriving DecidableEq

/-- The tag of a scalar: a lone exclamation mark says no more than that there is a tag. -/
def scalarTag (tag : Option String) : Option String := tag.filter (· ≠ "!")

/-- The mark right after a token of one character. -/
def Token.after (t : Token) : Mark := t.mark.advance 1

mutual

/-- Read a node. -/
def readNode : (fuel : Nat) → Setting → Reader Node
  | 0, _ => return .missing
  | n + 1, setting => do
    let some first ← next? | return .missing
    if let .reference name := first.kind then
      return ← readAlias name first.mark
    let properties ← readProperties
    let some here ← next? | return .missing
    let tag ← resolveTag properties.tag
    if (← next?).isNone then return .missing
    let head (tag : Option String) : Reader NodeHead :=
      return ⟨first.mark, tag, ← number properties.anchor⟩
    match here.kind, setting with
    | .blockEntry, .entry => return .sequence (← head tag) (← readLevelItems n)
    | .scalar style text, _ => skip; return .scalar (← head (scalarTag tag)) style text
    | .flowSequenceStart, _ => skip; return .sequence (← head tag) (← readFlowItems n true)
    | .flowMappingStart, _ => skip; return .mapping (← head tag) (← readFlowEntries n true)
    | .blockSequenceStart, .block | .blockSequenceStart, .entry =>
      skip; return .sequence (← head tag) (← readBlockItems n)
    | .blockMappingStart, .block | .blockMappingStart, .entry =>
      skip; return .mapping (← head tag) (← readBlockEntries n)
    | _, _ =>
      if properties.anchor.isSome || properties.tag.isSome then
        return .scalar (← head tag) .plain ""
      else
        fail .missingNode here.mark
        return .missing

/-- Read a node unless one of certain tokens comes; then there is none, and the empty scalar in its
place starts where `place` says, by default at that token. -/
def readUnless : (fuel : Nat) → Setting → List TokenKind → Option Mark → Reader Node
  | 0, _, _, _ => return .missing
  | n + 1, setting, kinds, place => do
    let some t ← next? | return .missing
    if kinds.contains t.kind then return absent (place.getD t.mark)
    readNode n setting

/-- Read the items of an indented sequence, to its end. -/
def readBlockItems : (fuel : Nat) → Reader (List Node)
  | 0 => return [.missing]
  | n + 1 => do
    let some t ← next? | return [.missing]
    match t.kind with
    | .blockEntry =>
      skip
      let item ← readUnless n .block [.blockEntry, .blockEnd] (some (Token.after t))
      return item :: (← readBlockItems n)
    | .blockEnd => skip; return []
    | _ => fail .missingDash t.mark; return [.missing]

/-- Read the items of a sequence that stands at the column of the mapping around it. -/
def readLevelItems : (fuel : Nat) → Reader (List Node)
  | 0 => return [.missing]
  | n + 1 => do
    let some t ← next? | return [.missing]
    match t.kind with
    | .blockEntry =>
      skip
      let item ← readUnless n .block [.blockEntry, .key, .value, .blockEnd] (some (Token.after t))
      return item :: (← readLevelItems n)
    | _ => return []

/-- Read the entries of a block mapping, to its end. -/
def readBlockEntries : (fuel : Nat) → Reader (List (Node × Node))
  | 0 => return [(.missing, .missing)]
  | n + 1 => do
    let some t ← next? | return [(.missing, .missing)]
    match t.kind with
    | .key =>
      skip
      let key ← readUnless n .entry [.key, .value, .blockEnd] (some (Token.after t))
      let value ← readBlockValue n
      return (key, value) :: (← readBlockEntries n)
    | .blockEnd => skip; return []
    | _ => fail .missingKey t.mark; return [(.missing, .missing)]

/-- Read the value that belongs to a key of a block mapping, if there is one. -/
def readBlockValue : (fuel : Nat) → Reader Node
  | 0 => return .missing
  | n + 1 => do
    let some t ← next? | return .missing
    match t.kind with
    | .value => skip; readUnless n .entry [.key, .value, .blockEnd] (some (Token.after t))
    | _ => return absent t.mark

/-- Go past the comma before an entry of a flow collection, unless the entry is the first. -/
def readComma : (isFirst : Bool) → Problem → Reader Unit
  | true, _ => return ()
  | false, problem => do
    let some t ← next? | return ()
    match t.kind with
    | .flowEntry => skip
    | _ => fail problem t.mark

/-- Read the items of a flow sequence, to its end. -/
def readFlowItems : (fuel : Nat) → (isFirst : Bool) → Reader (List Node)
  | 0, _ => return [.missing]
  | n + 1, isFirst => do
    let some t ← next? | return [.missing]
    if t.kind = .flowSequenceEnd then
      skip
      return []
    readComma isFirst .missingSequenceComma
    let some t ← next? | return [.missing]
    match t.kind with
    | .flowSequenceEnd => skip; return []
    | .key =>
      skip
      let item := .mapping ⟨t.mark, none, none⟩ [← readPair n]
      return item :: (← readFlowItems n false)
    | _ =>
      let item ← readNode n .flow
      return item :: (← readFlowItems n false)

/-- Read the single pair that stands as an item in a flow sequence.  If there is no key, the token
in its place is passed. -/
def readPair : (fuel : Nat) → Reader (Node × Node)
  | 0 => return (.missing, .missing)
  | n + 1 => do
    let some t ← next? | return (.missing, .missing)
    let key ← readUnless n .flow [.value, .flowEntry, .flowSequenceEnd] (some (Token.after t))
    if [TokenKind.value, .flowEntry, .flowSequenceEnd].contains t.kind then skip
    let some t ← next? | return (key, .missing)
    match t.kind with
    | .value => skip; return (key, ← readUnless n .flow [.flowEntry, .flowSequenceEnd] none)
    | _ => return (key, absent t.mark)

/-- Read the entries of a flow mapping, to its end. -/
def readFlowEntries : (fuel : Nat) → (isFirst : Bool) → Reader (List (Node × Node))
  | 0, _ => return [(.missing, .missing)]
  | n + 1, isFirst => do
    let some t ← next? | return [(.missing, .missing)]
    if t.kind = .flowMappingEnd then
      skip
      return []
    readComma isFirst .missingMappingComma
    let some t ← next? | return [(.missing, .missing)]
    match t.kind with
    | .flowMappingEnd => skip; return []
    | .key =>
      skip
      let key ← readUnless n .flow [.value, .flowEntry, .flowMappingEnd] none
      let value ← readFlowValue n
      return (key, value) :: (← readFlowEntries n false)
    | _ =>
      let key ← readNode n .flow
      let some t ← next? | return [(key, .missing)]
      return (key, absent t.mark) :: (← readFlowEntries n false)

/-- Read the value that belongs to a key of a flow mapping, if there is one. -/
def readFlowValue : (fuel : Nat) → Reader Node
  | 0 => return .missing
  | n + 1 => do
    let some t ← next? | return .missing
    match t.kind with
    | .value => skip; readUnless n .flow [.flowEntry, .flowMappingEnd] none
    | _ => return absent t.mark

end

/-! ## The document -/

/-- What the tag handles stand for that need no directive. -/
def standardHandles : List (String × String) := [("!", "!"), ("!!", "tag:yaml.org,2002:")]

/-- Take the directives of a document.  The version and every tag handle may be declared once, and
the version must be one of the first major version. -/
def readDirectives : (fuel : Nat) → (versionSeen : Bool) → Reader Unit
  | 0, _ => return ()
  | n + 1, versionSeen => do
    let some t ← next? | return ()
    match t.kind with
    | .directive (.version major minor) =>
      if versionSeen then fail .duplicateDirective t.mark
      else if major ≠ 1 ∨ (minor ≠ 1 ∧ minor ≠ 2) then fail .incompatibleVersion t.mark
      else
        skip
        readDirectives n true
    | .directive (.tag handle meaning) =>
      if ((← get).handles.lookup handle).isSome then fail .duplicateDirective t.mark
      else
        modify fun r => { r with handles := r.handles ++ [(handle, meaning)] }
        skip
        readDirectives n versionSeen
    | _ => return ()

/-- Read the root node after the mark at the start of a document. -/
def readContent (fuel : Nat) : Reader Node := do
  let some t ← next? | return .missing
  match t.kind with
  | .directive _ | .documentStart | .documentEnd | .streamEnd => return absent t.mark
  | _ => readNode fuel .block

/-- Read the root node of the first document, if there is one. -/
def readRoot (fuel : Nat) : Reader (Option Node) := do
  let some t ← next? | return some .missing
  match t.kind with
  | .streamEnd => return none
  | .directive _ | .documentStart =>
    readDirectives fuel false
    modify fun r => { r with handles := r.handles ++ standardHandles }
    let some t ← next? | return some .missing
    match t.kind with
    | .documentStart => skip; return some (← readContent fuel)
    | _ => fail .missingDocumentStart t.mark; return some .missing
  | _ =>
    modify fun r => { r with handles := standardHandles }
    return some (← readNode fuel .block)

/-- Does the document end here, and the text with it?  Any number of document ends may stand
there. -/
def endsText : List Token → Bool
  | ⟨.documentEnd, _⟩ :: ts => endsText ts
  | [⟨.streamEnd, _⟩] => true
  | _ => false

/-- The first document of a text. -/
def ofText (text : String) : Document :=
  let scan := tokens text.toList
  let start : Reading :=
    { tokens := scan.tokens
      ending := scan.failure.getD ⟨.missingNode, {}⟩
      failure := none
      handles := []
      anchors := [] }
  let (root, r) := (readRoot (4 * scan.tokens.length + 4)).run start
  let (_, r) := next?.run r
  { root, failure := r.failure, isFollowed := !endsText r.tokens }

/-- The node that an alias stands for. -/
def anchor? (d : Document) (n : Nat) : Option Node :=
  d.root.bind fun root => root.anchored.reverse.lookup n

end Document
end RadioFrontEnd.Yaml
