import SyntaxPaths.Path.Leaf

/-!
# Sessions

While paths are made of one tree, a session keeps the labels that occurred: those
of the whole tree, and those that were reached by the sampled root paths and leaf
paths.  The coverage of a sample is computed from these lists.

## Main definitions

* `Session` — the six lists
* `Session.recordTerminals`, `Session.recordRootPaths`, `Session.recordLeafPaths`
  — what is added to them
* `endpoints`, `interior` — how the pieces of a leaf path are sorted into two
  lists
-/

namespace SyntaxPaths

/-- The labels that occurred so far, each list in the order of occurrence. -/
structure Session where
  /-- The anchors of all terminals. -/
  terminals : List String
  /-- The labels of the ancestors of all terminals. -/
  nonterminals : List String
  /-- The anchors of the sampled root paths. -/
  rootTerminals : List String
  /-- The labels of the ancestors in the sampled root paths. -/
  rootNonterminals : List String
  /-- The first and last pieces of the sampled leaf paths. -/
  leafTerminals : List String
  /-- The other pieces of the sampled leaf paths. -/
  leafNonterminals : List String
  deriving DecidableEq, Repr, Inhabited

/-- The first and the last of the pieces of a path; a single piece is the last
one. -/
def endpoints (tokens : List String) : List String :=
  [tokens.dropLast.head?.getD "", tokens.getLast?.getD ""]

/-- The pieces of a path without the first and the last. -/
def interior (tokens : List String) : List String :=
  tokens.dropLast.drop 1

namespace Session

/-- Nothing has occurred. -/
def empty : Session where
  terminals := []
  nonterminals := []
  rootTerminals := []
  rootNonterminals := []
  leafTerminals := []
  leafNonterminals := []

/-- The session after the terminals with the given root paths were met. -/
def recordTerminals (session : Session) (paths : List RootPath) : Session :=
  { session with
    terminals := session.terminals ++ paths.map RootPath.anchor
    nonterminals := session.nonterminals ++ paths.flatMap RootPath.ancestors }

/-- The session after the given root paths were sampled. -/
def recordRootPaths (session : Session) (paths : List RootPath) : Session :=
  { session with
    rootTerminals := session.rootTerminals ++ paths.map RootPath.anchor
    rootNonterminals := session.rootNonterminals ++ paths.flatMap RootPath.ancestors }

/-- The session after the given leaf paths were sampled. -/
def recordLeafPaths (session : Session) (paths : List LeafPath) : Session :=
  { session with
    leafTerminals := session.leafTerminals ++ paths.flatMap fun path => endpoints path.tokens
    leafNonterminals := session.leafNonterminals ++ paths.flatMap fun path =>
      interior path.tokens }

end Session

end SyntaxPaths
