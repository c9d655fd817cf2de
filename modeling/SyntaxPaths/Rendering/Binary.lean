import SyntaxPaths.Failure
import SyntaxPaths.Rendering.Nested
import SyntaxPaths.Text.Decimal

/-!
# The rendering of the binary view

In this rendering a node is written in brackets: first what its link to the left
child leads to, then its value in brackets of its own, then what its link to the
right sibling leads to.  So it reads `(left(value)right)`, and nothing is written
for a missing link.

## Main definitions

* `RenderError` — the tree is too deep
* `SyntaxTree.renderBinary` — the rendering, under a depth limit
* `SyntaxTree.binaryTokens` — its tokens, or those of the structure-based
  rendering

## Design notes

**Depth.**  The root has depth one, and every link adds one, to a sibling as well
as to a child.  A wide tree is therefore deep in this view, and a limit protects
from walks that are too deep.
-/

namespace SyntaxPaths

open Text

/-- The causes for which a tree is not rendered. -/
inductive RenderError where
  /-- A node lies deeper than the limit. -/
  | depthExceeded (limit : Nat)
  deriving DecidableEq, Repr

namespace RenderError

/-- The cause in one sentence. -/
def message : RenderError → String
  | .depthExceeded limit => "Recursion depth limit of " ++ decimal limit ++ " exceeded"

instance : Failure RenderError where
  message := message
  code := fun _ => .serializeDepth

end RenderError

namespace SyntaxTree

/-- The rendering of what is reached from a node along the links of the binary
view, where the node lies at the given depth. -/
def renderBinaryFrom (tree : SyntaxTree) (limit depth i : Nat) : Except RenderError String :=
  if limit < depth then .error (.depthExceeded limit)
  else
    let node := tree.node i
    let left : Except RenderError String :=
      match node.leftChild with
      | some c =>
        if _h : i < c ∧ c < tree.size then tree.renderBinaryFrom limit (depth + 1) c else .ok ""
      | none => .ok ""
    left.bind fun left =>
      let right : Except RenderError String :=
        match node.rightSibling with
        | some s =>
          if _h : i < s ∧ s < tree.size then tree.renderBinaryFrom limit (depth + 1) s else .ok ""
        | none => .ok ""
      right.map fun right => "(" ++ left ++ "(" ++ node.value ++ ")" ++ right ++ ")"
termination_by tree.size - i

/-- **The rendering of the binary view**, if no node lies deeper than the limit. -/
def renderBinary (tree : SyntaxTree) (limit : Nat) : Except RenderError String :=
  tree.renderBinaryFrom limit 1 root

/-- The tokens of the binary view, or those of the structure-based rendering if
the binary view is too deep. -/
def binaryTokens (tree : SyntaxTree) (limit : Nat) : List String :=
  match tree.renderBinary limit with
  | .ok rendered => Rendering.tokens rendered
  | .error _ => tree.nestedTokens

end SyntaxTree

end SyntaxPaths
