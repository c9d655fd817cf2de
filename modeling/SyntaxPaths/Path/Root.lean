import SyntaxPaths.Style
import SyntaxPaths.SyntaxTree
import SyntaxPaths.Text.Pieces

/-!
# Root paths

The root path of a terminal lists its ancestors from the root downwards and ends
in the *anchor*, the value of the terminal.  Ancestors and anchor carry marks.

## Main definitions

* `RootPath` — ancestors and anchor
* `SyntaxTree.rootPath` — the root path of a terminal in a given style
* `SyntaxTree.statementAbove?` — the enclosing expression statement, with what
  lies above it
* `SyntaxTree.identifiersBelow` — the sub-tokens of all identifiers of a statement

## Design notes

**Hierarchical styles.**  They describe a whole statement by each of its
terminals. The path then keeps the ancestors *above* the nearest expression
statement, and the value in the anchor is that of the statement: the sub-tokens of
every identifier in it. The mark of the anchor stays the terminal's own.  A
terminal outside any expression statement has the same path as in the plain style.

**A breadth-first walk.**  `levelsBelow` visits the nodes below a node level by
level. It takes as many levels as there are nodes in the table at most, which is
enough: the places grow along every link to a child.
-/

namespace SyntaxPaths

open Text

/-- The ancestors of a terminal, the root first, and the value of the terminal. -/
structure RootPath where
  /-- The labels of the ancestors. -/
  ancestors : List String
  /-- The value in which the path ends. -/
  anchor : String
  deriving DecidableEq, Repr, Inhabited

namespace RootPath

/-- The number of pieces of the anchor. -/
def anchorTokenCount (path : RootPath) : Nat :=
  (pieces separator path.anchor).length

/-- Whether the anchor has several pieces. -/
def isMultiToken (path : RootPath) : Bool :=
  1 < path.anchorTokenCount

end RootPath

/-- The kind of node at which hierarchical styles cut. -/
def statementKind : String := "expression_statement"

/-- The kind of node whose values name things. -/
def identifierKind : String := "identifier"

/-- The label of a node in the given style, without its mark. -/
def Node.label (style : TreeStyle) (node : Node) : String :=
  if style.usesKinds then node.kind else node.value

/-- The label of a node in the given style, with its mark. -/
def Node.markedLabel (style : TreeStyle) (node : Node) : String :=
  node.label style ++ node.mark

namespace SyntaxTree

/-- The first expression statement in a chain of nodes, with the rest of the chain
behind it. -/
def firstStatement? (tree : SyntaxTree) : List Nat → Option (Nat × List Nat)
  | [] => none
  | i :: above =>
    if (tree.node i).kind = statementKind then some (i, above) else tree.firstStatement? above

/-- The nearest expression statement above a node, with its own ancestors. -/
def statementAbove? (tree : SyntaxTree) (i : Nat) : Option (Nat × List Nat) :=
  tree.firstStatement? (tree.ancestors i)

/-- The nodes that are reached from the given ones along links to children, level
by level, for at most `depth` levels. -/
def levelsBelow (tree : SyntaxTree) : (depth : Nat) → (level : List Nat) → List Nat
  | 0, _ => []
  | _ + 1, [] => []
  | depth + 1, i :: level =>
    (i :: level) ++ tree.levelsBelow depth ((i :: level).flatMap fun j => (tree.node j).children)

/-- The nodes of the subtree at a node, in level order. -/
def subtree (tree : SyntaxTree) (i : Nat) : List Nat :=
  tree.levelsBelow tree.size [i]

/-- The sub-tokens of all identifiers in the subtree at a node, in level order. -/
def identifiersBelow (tree : SyntaxTree) (i : Nat) : String :=
  join <| ((tree.subtree i).filter fun j => (tree.node j).kind = identifierKind).flatMap fun j =>
    pieces separator (tree.node j).value

/-- The statement that describes a terminal in the given style, with its
ancestors. -/
def describedBy? (tree : SyntaxTree) (style : TreeStyle) (i : Nat) : Option (Nat × List Nat) :=
  if style.isHierarchical then tree.statementAbove? i else none

/-- **The root path of a terminal** in the given style. -/
def rootPath (tree : SyntaxTree) (style : TreeStyle) (i : Nat) : RootPath :=
  match tree.describedBy? style i with
  | some (statement, above) =>
    { ancestors := above.reverse.map fun j => (tree.node j).markedLabel style
      anchor := tree.identifiersBelow statement ++ (tree.node i).mark }
  | none =>
    { ancestors := (tree.ancestors i).reverse.map fun j => (tree.node j).markedLabel style
      anchor := (tree.node i).value ++ (tree.node i).mark }

@[simp] theorem levelsBelow_zero (tree : SyntaxTree) (level : List Nat) :
    tree.levelsBelow 0 level = [] := rfl

@[simp] theorem levelsBelow_nil (tree : SyntaxTree) (depth : Nat) :
    tree.levelsBelow depth [] = [] := by
  cases depth <;> rfl

theorem levelsBelow_succ (tree : SyntaxTree) (depth : Nat) (level : List Nat) :
    tree.levelsBelow (depth + 1) level =
      level ++ tree.levelsBelow depth (level.flatMap fun j => (tree.node j).children) := by
  cases level with
  | nil => simp
  | cons i level => rfl

end SyntaxTree

end SyntaxPaths
