import SyntaxPaths.Path.Merge
import SyntaxPaths.Path.Root

/-!
# Leaf paths

A leaf path leads from one terminal to another: the anchor of the first, the
middle of the merge of their ancestors, the anchor of the second.

## Main definitions

* `LeafPath` — source, middle and target
* `LeafPath.render`, `LeafPath.tokens` — the path as one string, and as its pieces
* `leafPath?` — the leaf path between the terminals of two root paths

## Design notes

**Anchors spill.**  An anchor with several sub-tokens is written with the same
divider as the path itself, so its sub-tokens become tokens of the path.
-/

namespace SyntaxPaths

open Text

/-- Two anchors with what lies between them. -/
structure LeafPath where
  /-- The anchor in which the path begins. -/
  source : String
  /-- The labels or moves in between. -/
  middle : List String
  /-- The anchor in which the path ends. -/
  target : String
  deriving DecidableEq, Repr, Inhabited

namespace LeafPath

/-- The path as one string. -/
def render (path : LeafPath) : String :=
  join (path.source :: path.middle ++ [path.target])

/-- The pieces of the rendered path. -/
def tokens (path : LeafPath) : List String :=
  pieces separator path.render

end LeafPath

/-- How long, how uneven and how written the leaf paths are. -/
structure LeafPathShape where
  /-- How much the legs of a path may differ. -/
  width : Nat
  /-- How many labels a path may have. -/
  length : Nat
  /-- How the middle is written. -/
  style : PathStyle
  deriving DecidableEq, Repr

/-- The leaf path between the terminals of two root paths, if they meet and the
merge qualifies. -/
def leafPath? (shape : LeafPathShape) (u v : RootPath) : Option LeafPath :=
  (merge? u.ancestors v.ancestors).bind fun merge =>
    if merge.qualifies shape.width shape.length then
      some { source := u.anchor, middle := merge.middle shape.style, target := v.anchor }
    else none

end SyntaxPaths
