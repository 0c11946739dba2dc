import RadioFrontEnd.Yaml.Document
import RadioFrontEnd.Yaml.Value

/-!
# From nodes to values of the program

A `Decoder` takes a node for what the program expects there, or says why the node does not suit.
Decoding follows the text: it looks at nodes in order and stops at the first that does not suit, so
a text that goes wrong further on is told about only when everything before suits.

A message names the site of the node, which is the keys on the way to it and its place in the text.
Some mismatches come up before the node is entered; then the surrounding record is the site.
-/

namespace RadioFrontEnd.Yaml

/-- What a node turned out to be. -/
inductive Found where
  /-- A scalar with this meaning. -/
  | value (v : Value)
  /-- A sequence. -/
  | sequence
  /-- A mapping. -/
  | mapping
  deriving DecidableEq

/-- The words for what a node turned out to be. -/
def Found.describe : Found → String
  | value v => v.describe
  | sequence => "sequence"
  | mapping => "map"

/-- Why a node does not suit. -/
inductive Mismatch where
  /-- It is something else. -/
  | type (found : Found) (expected : String)
  /-- It is of the right sort, but its value is not. -/
  | value (found : Value) (expected : String)
  /-- It is none of the known names. -/
  | name (found : String) (known : List String)
  /-- It has a key twice. -/
  | repeated (key : String)
  deriving DecidableEq

/-- A name in messages. -/
def nameText (name : String) : String := s!"\x60{name}\x60"

/-- The wording of a mismatch. -/
def Mismatch.message : Mismatch → String
  | type found expected => s!"invalid type: {found.describe}, expected {expected}"
  | value found expected => s!"invalid value: {found.describe}, expected {expected}"
  | name found known =>
    s!"unknown variant {nameText found}, expected one of " ++
      ", ".intercalate (known.map nameText)
  | repeated key => s!"duplicate field {nameText key}"

/-- Where a node is. -/
structure Site where
  /-- The keys on the way to the node. -/
  path : List String
  /-- Where it starts. -/
  mark : Mark
  deriving DecidableEq

/-- Why a document was not decoded. -/
inductive DecodeError where
  /-- A node does not suit. -/
  | mismatch (reason : Mismatch) (site : Option Site)
  /-- The text goes wrong. -/
  | malformed (failure : Malformed)
  /-- A second document follows. -/
  | followed
  deriving DecidableEq

namespace DecodeError

/-- The same error, with a site if it has none. -/
def placed (e : DecodeError) (site : Site) : DecodeError :=
  match e with
  | mismatch reason none => mismatch reason (some site)
  | e => e

/-- Is it about a node that does not suit? -/
def isMismatch : DecodeError → Bool
  | mismatch _ _ => true
  | malformed _ | followed => false

/-- The wording without the place in the text. -/
def summary : DecodeError → String
  | mismatch reason none => reason.message
  | mismatch reason (some site) =>
    if site.path.isEmpty then reason.message
    else ".".intercalate site.path ++ ": " ++ reason.message
  | malformed failure => failure.problem.text
  | followed => "deserializing from YAML containing more than one document is not supported"

/-- The place in the text, unless it is the start. -/
def place? : DecodeError → Option Mark
  | mismatch _ site => (site.map (·.mark)).filter fun m => m.line != 0 || m.column != 0
  | malformed failure => some failure.mark
  | followed => none

/-- The wording. -/
def message (e : DecodeError) : String :=
  match e.place? with
  | some mark => s!"{e.summary} at {mark.text}"
  | none => e.summary

end DecodeError

/-- A way to take a node of a document, at a path, for a value. -/
def Decoder (α : Type) : Type := Document → List String → Node → Except DecodeError α

namespace Document

/-- What goes wrong where something is missing. -/
def problem (d : Document) : DecodeError := .malformed (d.failure.getD ⟨.missingNode, {}⟩)

/-- The node itself, or the node it is an alias of. -/
def follow (d : Document) : Node → Node
  | .reference _ n => (d.anchor? n).getD .missing
  | node => node

/-- The node is not what was expected. -/
def unsuited (d : Document) (path : List String) (node : Node) (expected : String) :
    DecodeError :=
  match node with
  | .missing | .reference _ _ => d.problem
  | .scalar head style text =>
    match Value.ofScalar head.tag style text with
    | .ok v => .mismatch (.type (.value v) expected) (some ⟨path, head.mark⟩)
    | .error m => .mismatch (.value (.text m.text) m.expected) (some ⟨path, head.mark⟩)
  | .sequence head _ => .mismatch (.type .sequence expected) (some ⟨path, head.mark⟩)
  | .mapping head _ => .mismatch (.type .mapping expected) (some ⟨path, head.mark⟩)

end Document

namespace Decoder

/-! ## Scalars -/

/-- Can the scalar be read as its text says?  A plain one can, and so can an indented one with the
fitting tag. -/
def isOpenTo (fitting : String) (tag : Option String) (style : ScalarStyle) : Bool :=
  style == .plain || (style == .literal && tag == some fitting)

/-- A natural number below a bound. -/
def natural (bound : Nat) (expected : String) : Decoder Nat := fun d path node =>
  match d.follow node with
  | .scalar head style text =>
    match (Value.readNatural? UInt64.size text.toList).filter
        fun _ => isOpenTo Tag.integer head.tag style with
    | some n =>
      if n < bound then .ok n
      else .error (.mismatch (.value (.integer n) expected) (some ⟨path, head.mark⟩))
    | none => .error (d.unsuited path (.scalar head style text) expected)
  | node => .error (d.unsuited path node expected)

/-- A truth value. -/
def boolean : Decoder Bool := fun d path node =>
  match d.follow node with
  | .scalar head style text =>
    match (Value.readBoolean? text).filter fun _ => isOpenTo Tag.boolean head.tag style with
    | some b => .ok b
    | none => .error (d.unsuited path (.scalar head style text) "a boolean")
  | node => .error (d.unsuited path node "a boolean")

/-- The text of a scalar, whatever the scalar means. -/
def text (expected : String) : Decoder String := fun d path node =>
  match d.follow node with
  | .scalar _ _ text => .ok text
  | node => .error (d.unsuited path node expected)

/-- Does a scalar stand for nothing? -/
def isAbsent (tag : Option String) (style : ScalarStyle) (text : String) :
    Except DecodeError Bool :=
  if style ≠ .plain then .ok false
  else match tag with
    | none => .ok (text = "" || Value.isNull text)
    | some tag =>
      if tag ≠ Tag.null then .ok false
      else if Value.isNull text then .ok true
      else .error (.mismatch (.value (.text text) "null") none)

/-- A value, or nothing. -/
def optional {α : Type} (decode : Decoder α) : Decoder (Option α) := fun d path node =>
  match d.follow node with
  | .missing => .error d.problem
  | .scalar head style text => do
    if ← isAbsent head.tag style text then return none
    return some (← decode d path (.scalar head style text))
  | node => do return some (← decode d path node)

/-! ## Names -/

/-- The name in a private tag. -/
def nameInTag? (tag : Option String) : Option String :=
  (tag.filter Tag.isPrivate).map fun tag => .ofList (tag.toList.drop 1)

/-- One of the known names. -/
def known {α : Type} (names : List (String × α)) (name : String) : Except DecodeError α :=
  match names.lookup name with
  | some x => .ok x
  | none => .error (.mismatch (.name name (names.map (·.1))) none)

/-- The node must be null. -/
def nothing (d : Document) (path : List String) : Node → Except DecodeError Unit
  | .scalar head style text =>
    if style = .plain ∧ (text = "" ∨ Value.isNull text) then .ok ()
    else .error (.mismatch (.value (.text text) "null") (some ⟨path, head.mark⟩))
  | node => .error (d.unsuited path node "unit")

/-- One of the known names.  It may stand in a private tag before null, too. -/
def oneOf {α : Type} (names : List (String × α)) : Decoder α := fun d path node =>
  let node := d.follow node
  let tagged (tag : Option String) (otherwise : Except DecodeError α) : Except DecodeError α :=
    match nameInTag? tag with
    | some name => do
      let x ← known names name
      nothing d path node
      return x
    | none => otherwise
  let other : Except DecodeError α :=
    .error (d.unsuited path node "a YAML tag starting with '!'")
  match node with
  | .scalar head _ text =>
    tagged head.tag ((known names text).mapError (·.placed ⟨path, head.mark⟩))
  | .sequence head _ | .mapping head _ => tagged head.tag other
  | .missing | .reference _ _ => other

/-! ## Records -/

/-- A key that a record knows. -/
structure Entry (ρ : Type) where
  /-- The key. -/
  key : String
  /-- What the value under the key changes in the record. -/
  decode : Decoder (ρ → ρ)

/-- A key in a path; one that is no scalar itself has no text. -/
def pathKey : Node → String
  | .scalar _ _ text => text
  | _ => "?"

/-- Take the entries of a mapping into a record, in order.  A known key may come only once, and
unknown keys are passed. -/
def takeEntries {ρ : Type} (known : List (Entry ρ)) (d : Document) (path : List String) :
    (seen : List String) → ρ → List (Node × Node) → Except DecodeError ρ
  | _, r, [] => .ok r
  | seen, r, (key, value) :: entries => do
    let name ← text "field identifier" d path key
    match known.find? (·.key = name) with
    | some entry =>
      if seen.contains name then .error (.mismatch (.repeated name) none)
      else
        let change ← entry.decode d (path ++ [pathKey key]) value
        takeEntries known d path (name :: seen) (change r) entries
    | none =>
      if value.isWhole then takeEntries known d path seen r entries
      else .error d.problem

/-- A record: a mapping of keys, or an empty plain scalar.  What is not given is as in `start`. -/
def record {ρ : Type} (expected : String) (known : List (Entry ρ)) (start : ρ) : Decoder ρ :=
  fun d path node =>
    match d.follow node with
    | .mapping head entries =>
      (takeEntries known d path [] start entries).mapError (·.placed ⟨path, head.mark⟩)
    | .scalar head style text =>
      if style = .plain ∧ text = "" then .ok start
      else .error (d.unsuited path (.scalar head style text) expected)
    | node => .error (d.unsuited path node expected)

end Decoder

/-- Decode the only document of a text; if there is none, the value is `start`. -/
def Document.decode {α : Type} (d : Document) (decode : Decoder α) (start : α) :
    Except DecodeError α := do
  let x ← match d.root with
    | some root => decode d [] root
    | none => .ok start
  if d.failure.isSome then throw d.problem
  if d.isFollowed then throw .followed
  return x

end RadioFrontEnd.Yaml
