import RadioFrontEnd.Yaml.Position

/-!
# Malformed documents

What can be wrong with a text that is to be a document, and where.
-/

namespace RadioFrontEnd.Yaml

/-- What is wrong with a text. -/
inductive Problem where
  /-- A control character. -/
  | controlCharacter
  /-- A key without a colon. -/
  | missingColon
  /-- An entry of a sequence where there is no sequence. -/
  | misplacedEntry
  /-- A marked key where there is no mapping. -/
  | misplacedKey
  /-- A colon where there is no key. -/
  | misplacedValue
  /-- A character with which nothing starts. -/
  | unexpectedCharacter
  /-- A directive without a name. -/
  | missingDirectiveName
  /-- Something stuck to the name of a directive. -/
  | badDirectiveName
  /-- A directive with an unknown name. -/
  | unknownDirective
  /-- A number that is missing in a version. -/
  | missingVersionNumber
  /-- A number that is too long in a version. -/
  | longVersionNumber
  /-- A version without a point. -/
  | missingVersionPoint
  /-- Something after the end of a line that should hold no more. -/
  | missingLineBreak
  /-- A name without characters, or with something stuck to it. -/
  | badAnchorName
  /-- A tag handle without an exclamation mark. -/
  | badTagHandle
  /-- A tag without characters. -/
  | missingTagText
  /-- A tag in angle brackets without the closing one. -/
  | missingTagBracket
  /-- Something stuck to a tag. -/
  | missingTagSpace
  /-- An escape in a tag that is no byte or no character. -/
  | badTagEscape
  /-- A block scalar with indentation zero. -/
  | zeroIndentation
  /-- A tab where blanks are counted. -/
  | tabIndentation
  /-- A document marker within quotes. -/
  | markerInQuotes
  /-- The end of the text within quotes. -/
  | endInQuotes
  /-- An escape that stands for nothing. -/
  | unknownEscape
  /-- An escape with too few hexadecimal digits. -/
  | badEscapeDigits
  /-- An escape for something that is no character. -/
  | badEscapeCode
  /-- A colon within a word where it cannot be. -/
  | unexpectedColon
  /-- Something other than the start of a document. -/
  | missingDocumentStart
  /-- A directive given twice. -/
  | duplicateDirective
  /-- A document of another language version. -/
  | incompatibleVersion
  /-- A tag with an undeclared handle. -/
  | undefinedTagHandle
  /-- Something other than a node. -/
  | missingNode
  /-- Something other than the next entry of a sequence. -/
  | missingDash
  /-- Something other than the next key of a mapping. -/
  | missingKey
  /-- Something other than a comma or the end of a sequence. -/
  | missingSequenceComma
  /-- Something other than a comma or the end of a mapping. -/
  | missingMappingComma
  /-- An alias without an anchor. -/
  | unknownAnchor
  deriving DecidableEq, Repr

/-- The wording of a problem. -/
def Problem.text : Problem → String
  | controlCharacter => "control characters are not allowed"
  | missingColon => "could not find expected ':'"
  | misplacedEntry => "block sequence entries are not allowed in this context"
  | misplacedKey => "mapping keys are not allowed in this context"
  | misplacedValue => "mapping values are not allowed in this context"
  | unexpectedCharacter => "found character that cannot start any token"
  | missingDirectiveName => "could not find expected directive name"
  | badDirectiveName => "found unexpected non-alphabetical character"
  | unknownDirective => "found unknown directive name"
  | missingVersionNumber => "did not find expected version number"
  | longVersionNumber => "found extremely long version number"
  | missingVersionPoint => "did not find expected digit or '.' character"
  | missingLineBreak => "did not find expected comment or line break"
  | badAnchorName => "did not find expected alphabetic or numeric character"
  | badTagHandle => "did not find expected '!'"
  | missingTagText => "did not find expected tag URI"
  | missingTagBracket => "did not find the expected '>'"
  | missingTagSpace => "did not find expected whitespace or line break"
  | badTagEscape => "found an incorrect escape in a tag"
  | zeroIndentation => "found an indentation indicator equal to 0"
  | tabIndentation => "found a tab character where an indentation space is expected"
  | markerInQuotes => "found unexpected document indicator"
  | endInQuotes => "found unexpected end of stream"
  | unknownEscape => "found unknown escape character"
  | badEscapeDigits => "did not find expected hexdecimal number"
  | badEscapeCode => "found invalid Unicode character escape code"
  | unexpectedColon => "found unexpected ':'"
  | missingDocumentStart => "did not find expected <document start>"
  | duplicateDirective => "found duplicate directive"
  | incompatibleVersion => "found incompatible YAML document"
  | undefinedTagHandle => "found undefined tag handle"
  | missingNode => "did not find expected node content"
  | missingDash => "did not find expected '-' indicator"
  | missingKey => "did not find expected key"
  | missingSequenceComma => "did not find expected ',' or ']'"
  | missingMappingComma => "did not find expected ',' or '\x7d'"
  | unknownAnchor => "unknown anchor"

/-- A problem and its place. -/
structure Malformed where
  /-- What is wrong. -/
  problem : Problem
  /-- Where. -/
  mark : Mark
  deriving DecidableEq, Repr

/-- A problem and its place in words. -/
def Malformed.message (m : Malformed) : String := s!"{m.problem.text} at {m.mark.text}"

end RadioFrontEnd.Yaml
