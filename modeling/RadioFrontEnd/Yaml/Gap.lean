import RadioFrontEnd.Yaml.Position

/-!
# Gaps within scalars

A scalar may run over several lines.  Between two of its words there is a gap of blanks and line
breaks, and what the gap means is known only when the next word comes: blanks on one line mean
themselves, while a gap with line breaks is folded.  Then the blanks are indentation and mean
nothing, a single line feed means a blank, and every further break means a line feed.
-/

namespace RadioFrontEnd.Yaml

/-- What was passed since the last word, latest character first. -/
inductive Gap where
  /-- Nothing. -/
  | none
  /-- Blanks on the line of the word. -/
  | blanks (chars : List Char)
  /-- Line breaks: the first, and those after it.  An escaped break counts as one without a first
  character. -/
  | lines (first more : List Char)
  deriving DecidableEq

namespace Gap

/-- Has the gap left the line? -/
def isLines : Gap → Bool
  | lines _ _ => true
  | none | blanks _ => false

/-- Is there no gap? -/
def isNone : Gap → Bool
  | none => true
  | blanks _ | lines _ _ => false

/-- One more blank. -/
def addBlank (c : Char) : Gap → Gap
  | none => blanks [c]
  | blanks chars => blanks (c :: chars)
  | lines first more => lines first more

/-- One more line break. -/
def addBreak (c : Char) : Gap → Gap
  | none | blanks _ => lines [breakText c] []
  | lines first more => lines first (breakText c :: more)

/-- What the gap means, put before a text whose latest character comes first. -/
def close (text : List Char) : Gap → List Char
  | none => text
  | blanks chars => chars ++ text
  | lines ['\n'] [] => ' ' :: text
  | lines ['\n'] more => more ++ text
  | lines first more => more ++ (first ++ text)

end Gap
end RadioFrontEnd.Yaml
