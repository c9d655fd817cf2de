import SyntaxPaths.Rendering.Tokens
import SyntaxPaths.SyntaxTree

/-!
# The structure-based rendering

In this rendering of the multi-way view a node is written as its value, the
renderings of its children in brackets, and its value again:
`value(children)value`.
-/

namespace SyntaxPaths.SyntaxTree

/-- The rendering of the subtree at a node. -/
def renderNested (tree : SyntaxTree) (i : Nat) : String :=
  let node := tree.node i
  node.value ++ "(" ++
    String.join (node.children.map fun c =>
      if _h : i < c ∧ c < tree.size then tree.renderNested c else "") ++
    ")" ++ node.value
termination_by tree.size - i

theorem renderNested_eq (tree : SyntaxTree) (i : Nat) :
    tree.renderNested i =
      (tree.node i).value ++ "(" ++
        String.join ((tree.node i).children.map fun c =>
          if i < c ∧ c < tree.size then tree.renderNested c else "") ++
        ")" ++ (tree.node i).value := by
  rw [renderNested]
  simp only [dite_eq_ite]

/-- The tokens of the rendering of the whole tree. -/
def nestedTokens (tree : SyntaxTree) : List String :=
  Rendering.tokens (tree.renderNested root)

end SyntaxPaths.SyntaxTree
