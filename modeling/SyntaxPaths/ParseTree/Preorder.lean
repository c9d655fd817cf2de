import SyntaxPaths.ParseTree

/-!
# Parse trees as rows in preorder

A tree can be written as a flat table: one row per node, a node before its
children, and in each row the number of children.  The table determines the tree.

## Main definitions

* `Row` — the entry of one node
* `ofPreorder?` — the tree that a table describes, if it describes one

## Design notes

**Reading from the end.**  The rows after a row describe a forest whose first
trees are the children of that row.  So the table is read from its last row to its
first, and every row gathers as many trees as it has children.
-/

namespace SyntaxPaths.ParseTree

/-- The entry of one node in a table: what it is, and how many children follow. -/
structure Row where
  /-- The kind of the node. -/
  kind : String
  /-- The span of the node. -/
  span : Span
  /-- How many of the trees that follow are its children. -/
  childCount : Nat

/-- The forest that the rows describe, if no row has more children than follow it. -/
def forestOfPreorder? : List Row → Option (List ParseTree)
  | [] => some []
  | row :: rows =>
    (forestOfPreorder? rows).bind fun forest =>
      if row.childCount ≤ forest.length then
        some (.node row.kind row.span (forest.take row.childCount) ::
          forest.drop row.childCount)
      else none

/-- The tree that the rows describe, if they describe exactly one. -/
def ofPreorder? (rows : List Row) : Option ParseTree :=
  match forestOfPreorder? rows with
  | some [tree] => some tree
  | _ => none

end SyntaxPaths.ParseTree
