import RadioFrontEnd.Yaml.Token

/-!
# Nodes

The structure of a document: scalars, sequences and mappings, and aliases that stand for another
node of the document.  A text may go wrong in the middle of a node.  The node is then known up to
that point, and `missing` stands in it where the text goes wrong, so a reader that needs only the
part before can still say what it thinks of it.

An alias does not hold the node it stands for but the number of its anchor, because a node may hold
an alias of itself.  `Node.anchored` lists the nodes with a number.
-/

namespace RadioFrontEnd.Yaml

/-- What every node has besides its content. -/
structure NodeHead where
  /-- Where the node starts. -/
  mark : Mark
  /-- What the node is said to be. -/
  tag : Option String
  /-- The number of its anchor. -/
  anchor : Option Nat
  deriving DecidableEq, Repr

/-- A part of a document. -/
inductive Node where
  /-- What should be here is not there: the text goes wrong. -/
  | missing
  /-- The node whose anchor has this number. -/
  | reference (mark : Mark) (anchor : Nat)
  /-- A text. -/
  | scalar (head : NodeHead) (style : ScalarStyle) (text : String)
  /-- Nodes in order. -/
  | sequence (head : NodeHead) (items : List Node)
  /-- Pairs of a key and a value, in order. -/
  | mapping (head : NodeHead) (entries : List (Node × Node))

namespace Node

mutual

/-- Is nothing missing in the node? -/
def isWhole : Node → Bool
  | missing => false
  | reference _ _ | scalar _ _ _ => true
  | sequence _ items => areWhole items
  | mapping _ entries => entriesAreWhole entries

/-- Is nothing missing in the nodes? -/
def areWhole : List Node → Bool
  | [] => true
  | item :: items => item.isWhole && areWhole items

/-- Is nothing missing in the entries? -/
def entriesAreWhole : List (Node × Node) → Bool
  | [] => true
  | (key, value) :: entries => key.isWhole && value.isWhole && entriesAreWhole entries

end

/-- A node under the number of its anchor, if it has one. -/
def numbered (head : NodeHead) (n : Node) : List (Nat × Node) :=
  head.anchor.toList.map (·, n)

mutual

/-- The nodes that have an anchor, each with its number, in the order in which they start. -/
def anchored : Node → List (Nat × Node)
  | missing | reference _ _ => []
  | scalar head style text => numbered head (scalar head style text)
  | sequence head items => numbered head (sequence head items) ++ itemsAnchored items
  | mapping head entries => numbered head (mapping head entries) ++ entriesAnchored entries

/-- The nodes with an anchor in a list of nodes. -/
def itemsAnchored : List Node → List (Nat × Node)
  | [] => []
  | item :: items => item.anchored ++ itemsAnchored items

/-- The nodes with an anchor in a list of entries. -/
def entriesAnchored : List (Node × Node) → List (Nat × Node)
  | [] => []
  | (key, value) :: entries => key.anchored ++ value.anchored ++ entriesAnchored entries

end

end Node
end RadioFrontEnd.Yaml
