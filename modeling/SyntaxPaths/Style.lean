/-!
# Styles

Two choices shape the paths of a tree.  The *tree style* says which labels a root
path is made of, and whether it is cut at the enclosing statement.  The *path
style* says how the middle of a leaf path is written.

## Main definitions

* `TreeStyle`, with `usesKinds` and `isHierarchical`
* `PathStyle`
-/

namespace SyntaxPaths

/-- Which labels a root path is made of, and whether it is cut at a statement. -/
inductive TreeStyle where
  /-- Abstract syntax tree: the kinds of the ancestors. -/
  | ast
  /-- Simplified parse tree: the values of the ancestors. -/
  | spt
  /-- Hierarchy syntax tree: kinds, cut at the enclosing expression statement. -/
  | hst
  /-- Hierarchy parse tree: values, cut at the enclosing expression statement. -/
  | hpt
  deriving DecidableEq, Repr, Inhabited

namespace TreeStyle

/-- Whether the labels are kinds rather than values. -/
def usesKinds : TreeStyle → Bool
  | .ast | .hst => true
  | .spt | .hpt => false

/-- Whether root paths are cut at the enclosing expression statement. -/
def isHierarchical : TreeStyle → Bool
  | .hst | .hpt => true
  | .ast | .spt => false

/-- The name of a style. -/
def name : TreeStyle → String
  | .ast => "AST"
  | .spt => "SPT"
  | .hst => "HST"
  | .hpt => "HPT"

/-- All styles, in the order in which they are listed to users. -/
def all : List TreeStyle :=
  [.ast, .spt, .hst, .hpt]

/-- The style with the given name. -/
def ofName? (s : String) : Option TreeStyle :=
  all.find? (·.name == s)

@[simp] theorem ofName?_name (style : TreeStyle) : ofName? style.name = some style := by
  cases style <;> decide

end TreeStyle

/-- How the middle of a leaf path is written. -/
inductive PathStyle where
  /-- Every label from source to target, the meeting point included. -/
  | labels
  /-- Only the moves, one `U` or `D` for each hop. -/
  | moves
  /-- Labels and moves, interleaved. -/
  | labelsAndMoves
  deriving DecidableEq, Repr, Inhabited

namespace PathStyle

/-- The name of a style. -/
def name : PathStyle → String
  | .labels => "L2L"
  | .moves => "UD"
  | .labelsAndMoves => "U2D"

/-- All styles, in the order in which they are listed to users. -/
def all : List PathStyle :=
  [.labels, .moves, .labelsAndMoves]

/-- The style with the given name. -/
def ofName? (s : String) : Option PathStyle :=
  all.find? (·.name == s)

@[simp] theorem ofName?_name (style : PathStyle) : ofName? style.name = some style := by
  cases style <;> decide

end PathStyle

end SyntaxPaths
