import SyntaxPaths.Quota
import SyntaxPaths.Session
import SyntaxPaths.Settings

/-!
# Extraction of paths

From the terminals of a tree the root paths are made; of those that end in an
identifier a quota is sampled, with anchors of several sub-tokens first.  Any two
sampled root paths may make a leaf path, and of the leaf paths again a quota is
sampled, the more sub-tokens in the anchors the better.

## Main definitions

* `Sampled` — sampled paths, with the session and the stream behind them
* `sampleRootPaths` — the sampled root paths of a tree
* `Tiers`, `Tiers.offer`, `gatherTiers` — leaf paths sorted by their anchors
* `sampleLeafPathsFrom` — the sampled leaf paths between given root paths
* `sampleLeafPaths` — both steps
* `trySampleRootPaths`, `trySampleLeafPathsFrom`, `trySampleLeafPaths` — the same in
  tables for the quotas, as they run

## Design notes

**Pairs that cannot count are not merged.**  Once the best tier alone fills the
quota, the other two cannot be sampled from any more, and once the best two tiers
fill it together, the last one cannot.  `Tiers.isClosedTo` says which pairs are
then passed over.

**Tables.**  `trySampleRootPaths` and its like are what runs.  They give up if there is
no room for a table with as many places as the quota has, and agree otherwise with the
functions that have no `try` in front.
-/

namespace SyntaxPaths

open Randomness

/-- Sampled paths, with the session and the stream of random words behind them. -/
structure Sampled (α : Type) where
  /-- The paths that were chosen. -/
  paths : List α
  /-- The session in which they are recorded. -/
  session : Session
  /-- What is left of the stream. -/
  stream : WordStream
  deriving DecidableEq

/-! ### Root paths -/

/-- The terminals of a tree with their root paths. -/
def terminalPaths (tree : SyntaxTree) (style : TreeStyle) : List (Nat × RootPath) :=
  tree.terminals.map fun i => (i, tree.rootPath style i)

/-- Whether a terminal with its root path may be sampled: it is an identifier, and
neither its list of ancestors nor its anchor is empty. -/
def isCandidate (tree : SyntaxTree) (entry : Nat × RootPath) : Bool :=
  (tree.node entry.1).kind = identifierKind && !entry.2.ancestors.isEmpty &&
    !entry.2.anchor.isEmpty

/-- The root paths that may be sampled, in the order of their terminals. -/
def candidatePaths (tree : SyntaxTree) (style : TreeStyle) : List RootPath :=
  ((terminalPaths tree style).filter (isCandidate tree)).map Prod.snd

/-- The same in tiers: anchors of several sub-tokens go first. -/
def rootTiers (settings : Settings) (tree : SyntaxTree) : List (List RootPath) :=
  let candidates := candidatePaths tree settings.treeStyleOrDefault
  [candidates.filter (·.isMultiToken), candidates.filter (!·.isMultiToken)]

/-- A choice of root paths, with the session in which all terminals and the chosen
paths are recorded. -/
def Sampled.ofRoots (settings : Settings) (tree : SyntaxTree) (session : Session)
    (choice : List RootPath × WordStream) : Sampled RootPath :=
  let met := (terminalPaths tree settings.treeStyleOrDefault).map Prod.snd
  { paths := choice.1
    session := (session.recordTerminals met).recordRootPaths choice.1
    stream := choice.2 }

/-- **Sampled root paths.**  All terminals are recorded; a quota of the candidates
is sampled, anchors of several sub-tokens first, and recorded too. -/
def sampleRootPaths (settings : Settings) (tree : SyntaxTree) (session : Session)
    (stream : WordStream) : Sampled RootPath :=
  .ofRoots settings tree session
    (fillQuota chooseIndices (rootTiers settings tree) settings.rootPathQuotaOrDefault stream)

/-- The bytes that a text or a list takes in a table: where it lies, how long it is,
and how long it may grow. -/
def handleSize : Nat := 24

/-- The bytes of a root path in a table: its ancestors and its anchor. -/
def RootPath.itemSize : Nat := 2 * handleSize

/-- Sampled root paths, in a table for the quota. -/
def trySampleRootPaths (settings : Settings) (tree : SyntaxTree) (session : Session)
    (stream : WordStream) : Except QuotaFault (Sampled RootPath) :=
  (tryFillQuota RootPath.itemSize chooseIndices (rootTiers settings tree)
    settings.rootPathQuotaOrDefault stream).map (.ofRoots settings tree session)

/-! ### Leaf paths -/

/-- All pairs of an item and a later one, in the order of their places. -/
def pairs {α : Type} : List α → List (α × α)
  | [] => []
  | item :: items => items.map (item, ·) ++ pairs items

/-- Leaf paths, sorted by how many of their two anchors have several sub-tokens. -/
structure Tiers where
  /-- Both anchors have several. -/
  both : Array LeafPath
  /-- One anchor has several. -/
  one : Array LeafPath
  /-- No anchor has several. -/
  neither : Array LeafPath

namespace Tiers

/-- There are no leaf paths. -/
def empty : Tiers where
  both := #[]
  one := #[]
  neither := #[]

/-- The tiers from the best to the last. -/
def toLists (tiers : Tiers) : List (List LeafPath) :=
  [tiers.both.toList, tiers.one.toList, tiers.neither.toList]

/-- The tiers with one more path between the terminals of two root paths. -/
def add (tiers : Tiers) (u v : RootPath) (path : LeafPath) : Tiers :=
  match u.isMultiToken, v.isMultiToken with
  | true, true => { tiers with both := tiers.both.push path }
  | false, false => { tiers with neither := tiers.neither.push path }
  | _, _ => { tiers with one := tiers.one.push path }

/-- Whether a path between two terminals could not be sampled any more. -/
def isClosedTo (tiers : Tiers) (quota : Nat) (u v : RootPath) : Bool :=
  if quota ≤ tiers.both.size then !u.isMultiToken || !v.isMultiToken
  else quota ≤ tiers.both.size + tiers.one.size && !u.isMultiToken && !v.isMultiToken

/-- The tiers after the pair of two root paths was looked at. -/
def offer (shape : LeafPathShape) (quota : Nat) (tiers : Tiers) (pair : RootPath × RootPath) :
    Tiers :=
  if tiers.isClosedTo quota pair.1 pair.2 then tiers
  else
    match leafPath? shape pair.1 pair.2 with
    | some path => tiers.add pair.1 pair.2 path
    | none => tiers

end Tiers

/-- The leaf paths between the given root paths, in tiers, without those that
cannot be sampled any more. -/
def gatherTiers (shape : LeafPathShape) (quota : Nat) (roots : List RootPath) : Tiers :=
  (pairs roots).foldl (Tiers.offer shape quota) .empty

/-- A choice of leaf paths, with the session in which they are recorded. -/
def Sampled.ofLeaves (session : Session) (choice : List LeafPath × WordStream) :
    Sampled LeafPath :=
  { paths := choice.1, session := session.recordLeafPaths choice.1, stream := choice.2 }

/-- **Sampled leaf paths** between the given root paths.  What was sampled is
recorded. -/
def sampleLeafPathsFrom (settings : Settings) (roots : List RootPath) (session : Session)
    (stream : WordStream) : Sampled LeafPath :=
  let quota := settings.leafPathQuotaOrDefault
  let tiers := gatherTiers settings.leafPathShape quota roots
  .ofLeaves session (fillQuota chooseIndices tiers.toLists quota stream)

/-- Sampled leaf paths of a tree: root paths are sampled first, and then leaf
paths between them. -/
def sampleLeafPaths (settings : Settings) (tree : SyntaxTree) (session : Session)
    (stream : WordStream) : Sampled LeafPath :=
  let roots := sampleRootPaths settings tree session stream
  sampleLeafPathsFrom settings roots.paths roots.session roots.stream

/-- The bytes of a leaf path in a table: both its anchors and what is between. -/
def LeafPath.itemSize : Nat := 3 * handleSize

/-- Sampled leaf paths between the given root paths, in a table for the quota. -/
def trySampleLeafPathsFrom (settings : Settings) (roots : List RootPath) (session : Session)
    (stream : WordStream) : Except QuotaFault (Sampled LeafPath) :=
  let quota := settings.leafPathQuotaOrDefault
  let tiers := gatherTiers settings.leafPathShape quota roots
  (tryFillQuota LeafPath.itemSize chooseIndices tiers.toLists quota stream).map
    (.ofLeaves session)

/-- Sampled leaf paths of a tree, in tables for both quotas. -/
def trySampleLeafPaths (settings : Settings) (tree : SyntaxTree) (session : Session)
    (stream : WordStream) : Except QuotaFault (Sampled LeafPath) :=
  (trySampleRootPaths settings tree session stream).bind fun roots =>
    trySampleLeafPathsFrom settings roots.paths roots.session roots.stream

end SyntaxPaths
