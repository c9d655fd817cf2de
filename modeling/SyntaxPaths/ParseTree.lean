import SyntaxPaths.Position

/-!
# Parse trees

A parse tree is what a parser hands over: every node has a kind, the span of
source text that it covers, and its children from left to right.  Tokens without a
name of their own (brackets, operators) are nodes like the others.

## Main definitions

* `ParseTree` — the trees
* `ParseTree.size`, `ParseTree.forestSize` — the number of nodes of a tree and of a
  forest
-/

namespace SyntaxPaths

/-- A tree of named spans. -/
inductive ParseTree where
  /-- A node of the given kind that covers the given span. -/
  | node (kind : String) (span : Span) (children : List ParseTree)
  deriving Inhabited

namespace ParseTree

/-- The kind of the root. -/
def kind : ParseTree → String
  | .node kind _ _ => kind

/-- The span of the root. -/
def span : ParseTree → Span
  | .node _ span _ => span

/-- The subtrees below the root, from left to right. -/
def children : ParseTree → List ParseTree
  | .node _ _ children => children

mutual

/-- The number of nodes of a tree. -/
def size : ParseTree → Nat
  | .node _ _ children => forestSize children + 1

/-- The number of nodes of a forest. -/
def forestSize : List ParseTree → Nat
  | [] => 0
  | tree :: forest => tree.size + forestSize forest

end

@[simp] theorem forestSize_nil : forestSize [] = 0 := by
  simp [forestSize]

@[simp] theorem forestSize_cons (tree : ParseTree) (forest : List ParseTree) :
    forestSize (tree :: forest) = tree.size + forestSize forest := by
  simp [forestSize]

@[simp] theorem forestSize_append (front back : List ParseTree) :
    forestSize (front ++ back) = forestSize front + forestSize back := by
  induction front with
  | nil => simp
  | cons tree front ih => simp [ih, Nat.add_assoc]

theorem size_eq (tree : ParseTree) : tree.size = forestSize tree.children + 1 := by
  cases tree
  simp [size, children]

end ParseTree

end SyntaxPaths
