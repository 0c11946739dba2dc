import RadioFrontEnd.Yaml.Tag

/-!
# Tokens

What a document is made of, before its structure is known.  The tokens of block collections have no
character of their own: `blockSequenceStart`, `blockMappingStart` and `blockEnd` stand where the
indentation grows and shrinks, and a `key` may stand before a key that carries no mark.
-/

namespace RadioFrontEnd.Yaml

/-- How a scalar is written. -/
inductive ScalarStyle where
  /-- Without any mark. -/
  | plain
  /-- Between single quotes. -/
  | singleQuoted
  /-- Between double quotes. -/
  | doubleQuoted
  /-- In indented lines that are kept. -/
  | literal
  /-- In indented lines that are folded. -/
  | folded
  deriving DecidableEq, Repr

/-- What a token is. -/
inductive TokenKind where
  | directive (directive : Directive)
  | documentStart
  | documentEnd
  | streamEnd
  | blockSequenceStart
  | blockMappingStart
  | blockEnd
  | flowSequenceStart
  | flowSequenceEnd
  | flowMappingStart
  | flowMappingEnd
  | blockEntry
  | flowEntry
  | key
  | value
  | reference (name : String)
  | anchor (name : String)
  | tag (tag : WrittenTag)
  | scalar (style : ScalarStyle) (text : String)
  deriving DecidableEq, Repr

/-- A token and its place. -/
structure Token where
  /-- What the token is. -/
  kind : TokenKind
  /-- Where it starts. -/
  mark : Mark
  deriving DecidableEq, Repr

end RadioFrontEnd.Yaml
