import SyntaxPaths.Failure
import SyntaxPaths.Label
import SyntaxPaths.Session

/-!
# Coverage of a tree by sampled paths

How much of a tree do the sampled paths show?  *Link coverage* compares numbers of
distinct marked labels, one less on both sides, as a tree has one link less than
nodes. *Node coverage* compares numbers of distinct labels without their marks.

## Main definitions

* `distinctCount` — the number of different strings in a list
* `Ratio` — a quotient as it was counted, neither reduced nor rounded
* `Coverage` — the five ratios of a tree
* `Session.coverage` — the ratios of a session, or the reason why there are none

## Design notes

**Exact first.**  A ratio is kept as the two numbers that were counted.  What
arithmetic it is carried into is a later decision: `Ratio.toFloat` rounds once per
quotient, and `Ratio.toRat` does not round at all.

**Terminals and inner nodes are counted apart.**  A terminal and an inner node may
have the same label; they are two nodes nevertheless.  So the two lists are
counted separately and the counts are added.
-/

namespace SyntaxPaths

open Text

/-- The different items of a list, each where it occurs last. -/
def distinct {α : Type} [DecidableEq α] : List α → List α
  | [] => []
  | item :: items =>
    let rest := distinct items
    if item ∈ rest then rest else item :: rest

/-- The number of different items of a list. -/
def distinctCount {α : Type} [DecidableEq α] (items : List α) : Nat :=
  (distinct items).length

/-- A quotient, as it was counted. -/
structure Ratio where
  /-- What is divided. -/
  numerator : Int
  /-- What divides. -/
  denominator : Nat
  deriving DecidableEq, Repr

namespace Ratio

/-- The quotient in floating point. -/
def toFloat (ratio : Ratio) : Float :=
  Float.ofInt ratio.numerator / Float.ofNat ratio.denominator

/-- The quotient as an exact rational number. -/
def toRat (ratio : Ratio) : Rat :=
  ratio.numerator / ratio.denominator

end Ratio

/-- The five ratios that describe a sample. -/
structure Coverage (α : Type) where
  /-- Links in sampled root paths. -/
  rootLinks : α
  /-- Links in sampled leaf paths. -/
  leafLinks : α
  /-- Links to a left child, in the binary view. -/
  binaryLinks : α
  /-- Labels in sampled root paths. -/
  rootNodes : α
  /-- Labels in sampled leaf paths. -/
  leafNodes : α
  deriving DecidableEq, Repr, Inhabited

namespace Coverage

/-- A function applied to all five ratios. -/
def map {α β : Type} (f : α → β) (coverage : Coverage α) : Coverage β where
  rootLinks := f coverage.rootLinks
  leafLinks := f coverage.leafLinks
  binaryLinks := f coverage.binaryLinks
  rootNodes := f coverage.rootNodes
  leafNodes := f coverage.leafNodes

/-- Two coverages, combined ratio by ratio. -/
def zipWith {α β γ : Type} (f : α → β → γ) (x : Coverage α) (y : Coverage β) :
    Coverage γ where
  rootLinks := f x.rootLinks y.rootLinks
  leafLinks := f x.leafLinks y.leafLinks
  binaryLinks := f x.binaryLinks y.binaryLinks
  rootNodes := f x.rootNodes y.rootNodes
  leafNodes := f x.leafNodes y.leafNodes

end Coverage

/-- The causes for which there is no coverage. -/
inductive CoverageError where
  /-- The tree has fewer than two distinct labels, so there are no links to cover. -/
  | degenerateTree (terminals nonterminals : Nat)
  deriving DecidableEq, Repr

namespace CoverageError

/-- The cause in one sentence. -/
def message : CoverageError → String
  | .degenerateTree terminals nonterminals =>
    "Degenerate tree: " ++ decimal terminals ++ " terminal and " ++ decimal nonterminals ++
      " non-terminal labels leave no links to cover"

instance : Failure CoverageError where
  message := message
  code := fun _ => .degenerateTree

end CoverageError

/-- The number of different marked labels, terminals and inner nodes counted
apart. -/
def linkCount (terminals nonterminals : List String) : Nat :=
  distinctCount terminals + distinctCount nonterminals

/-- The number of different labels without marks, terminals and inner nodes
counted apart. -/
def labelCount (terminals nonterminals : List String) : Nat :=
  distinctCount (terminals.map Label.stem) + distinctCount (nonterminals.map Label.stem)

namespace Session

/-- The number of links of the tree. -/
def allLinks (session : Session) : Nat :=
  linkCount session.terminals session.nonterminals - 1

/-- The number of labels of the tree. -/
def allLabels (session : Session) : Nat :=
  labelCount session.terminals session.nonterminals

/-- The part of the links that the given labels cover. -/
def linkRatio (session : Session) (terminals nonterminals : List String) : Ratio where
  numerator := (linkCount terminals nonterminals : Int) - 1
  denominator := session.allLinks

/-- The part of the labels that are among the given ones. -/
def labelRatio (session : Session) (terminals nonterminals : List String) : Ratio where
  numerator := labelCount terminals nonterminals
  denominator := session.allLabels

/-- **The coverage of a session**, for a tree with the given number of first
children.  At least two distinct labels are needed. -/
def coverage (session : Session) (eldestCount : Nat) : Except CoverageError (Coverage Ratio) :=
  if linkCount session.terminals session.nonterminals < 2 then
    .error (.degenerateTree (distinctCount session.terminals)
      (distinctCount session.nonterminals))
  else
    .ok
      { rootLinks := session.linkRatio session.rootTerminals session.rootNonterminals
        leafLinks := session.linkRatio session.leafTerminals session.leafNonterminals
        binaryLinks := { numerator := eldestCount, denominator := session.allLinks }
        rootNodes := session.labelRatio session.rootTerminals session.rootNonterminals
        leafNodes := session.labelRatio session.leafTerminals session.leafNonterminals }

end Session

end SyntaxPaths
