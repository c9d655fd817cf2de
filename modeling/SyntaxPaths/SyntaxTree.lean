import SyntaxPaths.Position

/-!
# Syntax trees

A syntax tree is a table of nodes that are linked to each other by their places in
the table.  Every node takes part in two views of one tree.

* **The multi-way view**: `parent`, and `children` for the other direction.
* **The binary view**: `leftChild` leads to the first child and `rightSibling` to
  the next sibling; `guardian` is the way back along either of them, so it is the
  parent of a first child and the left sibling of any other.

## Main definitions

* `Node` — the entry of one node
* `SyntaxTree` — the table, with the list of its leaves and the number of its inner
  nodes
* `SyntaxTree.ancestors` — the way from a node to the root

## Design notes

**Links lead upwards or downwards in the table.**  In a tree that was built from a
parse tree every parent stands before its children.  The walks along links test
this at each step, so they end in *any* table, and in a built one the tests never
fail.
-/

namespace SyntaxPaths

/-- The entry of one node. -/
structure Node where
  /-- The kind of the node, in lowercase. -/
  kind : String
  /-- The normalized text of the node. -/
  value : String
  /-- The text that the node covers. -/
  span : Span
  /-- Whether the node is the first child of its parent. -/
  isEldest : Bool
  /-- The parent. -/
  parent : Option Nat
  /-- The children, from left to right. -/
  offspring : Array Nat
  /-- The parent of a first child, and the left sibling of another. -/
  guardian : Option Nat
  /-- The first child. -/
  leftChild : Option Nat
  /-- The next child of the same parent. -/
  rightSibling : Option Nat
  deriving DecidableEq, Repr, Inhabited

namespace Node

/-- The mark of the node. -/
def mark (node : Node) : String :=
  node.span.mark

/-- The children, from left to right. -/
def children (node : Node) : List Nat :=
  node.offspring.toList

/-- Whether the node is a leaf. -/
def isTerminal (node : Node) : Bool :=
  node.children.isEmpty

end Node

/-- A table of linked nodes, with the root in the first place. -/
structure SyntaxTree where
  /-- The nodes, the root first. -/
  nodes : Array Node
  /-- The places of the leaves, in the order in which they were met. -/
  leaves : Array Nat
  /-- The number of nodes with children.  Each has one link to a left child, its
  first or eldest one. -/
  eldestCount : Nat
  deriving DecidableEq, Repr, Inhabited

namespace SyntaxTree

/-- The number of nodes. -/
def size (tree : SyntaxTree) : Nat :=
  tree.nodes.size

/-- The place of the root. -/
def root : Nat := 0

/-- The node in a place; a place outside the table holds an empty node. -/
def node (tree : SyntaxTree) (i : Nat) : Node :=
  tree.nodes[i]?.getD default

/-- The places of the leaves, in the order in which they were met. -/
def terminals (tree : SyntaxTree) : List Nat :=
  tree.leaves.toList

/-- The proper ancestors of a node, the nearest first. -/
def ancestors (tree : SyntaxTree) (i : Nat) : List Nat :=
  match (tree.node i).parent with
  | some p => if p < i then p :: tree.ancestors p else []
  | none => []
termination_by i

theorem ancestors_eq (tree : SyntaxTree) (i : Nat) :
    tree.ancestors i =
      match (tree.node i).parent with
      | some p => if p < i then p :: tree.ancestors p else []
      | none => [] := by
  rw [ancestors]

end SyntaxTree

end SyntaxPaths
