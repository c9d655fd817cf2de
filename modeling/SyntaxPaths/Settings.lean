import SyntaxPaths.Path.Leaf
import SyntaxPaths.Randomness.WordStream

/-!
# Settings

All that can be configured about the extraction of paths.  Every setting may be
left open, and has then a default value.

## Main definitions

* `Settings` — the settings, each of which may be unset
* `Settings.treeStyleOrDefault` and so on — the values that are in force
* `Settings.stream` — the stream of random words to use
-/

namespace SyntaxPaths

/-- The settings of an extraction; `none` leaves a setting open. -/
structure Settings where
  /-- Which labels root paths are made of. -/
  treeStyle : Option TreeStyle
  /-- How the middle of leaf paths is written. -/
  pathStyle : Option PathStyle
  /-- How many root paths are sampled at most. -/
  rootPathQuota : Option Nat
  /-- How many leaf paths are sampled at most. -/
  leafPathQuota : Option Nat
  /-- How much the legs of a leaf path may differ. -/
  pathWidth : Option Nat
  /-- How many labels a leaf path may have, the meeting point included. -/
  pathLength : Option Nat
  /-- How deep the binary view of a tree may be to be rendered. -/
  depthLimit : Option Nat
  /-- The seed of the random choices. -/
  seed : Option UInt64
  deriving DecidableEq, Repr

namespace Settings

/-- All settings are left open. -/
def unset : Settings where
  treeStyle := none
  pathStyle := none
  rootPathQuota := none
  leafPathQuota := none
  pathWidth := none
  pathLength := none
  depthLimit := none
  seed := none

instance : Inhabited Settings := ⟨unset⟩

/-- The tree style in force. -/
def treeStyleOrDefault (settings : Settings) : TreeStyle :=
  settings.treeStyle.getD .spt

/-- The path style in force. -/
def pathStyleOrDefault (settings : Settings) : PathStyle :=
  settings.pathStyle.getD .labels

/-- The quota of root paths in force. -/
def rootPathQuotaOrDefault (settings : Settings) : Nat :=
  settings.rootPathQuota.getD 20

/-- The quota of leaf paths in force. -/
def leafPathQuotaOrDefault (settings : Settings) : Nat :=
  settings.leafPathQuota.getD 20

/-- The tolerated difference between the legs of a leaf path. -/
def pathWidthOrDefault (settings : Settings) : Nat :=
  settings.pathWidth.getD 2

/-- The greatest length of a leaf path. -/
def pathLengthOrDefault (settings : Settings) : Nat :=
  settings.pathLength.getD 8

/-- The depth limit in force. -/
def depthLimitOrDefault (settings : Settings) : Nat :=
  settings.depthLimit.getD 1000

/-- The shape of the leaf paths that the settings ask for. -/
def leafPathShape (settings : Settings) : LeafPathShape where
  width := settings.pathWidthOrDefault
  length := settings.pathLengthOrDefault
  style := settings.pathStyleOrDefault

/-- The stream of the seed, or the given one if there is no seed. -/
def stream (settings : Settings) (unseeded : Randomness.WordStream) : Randomness.WordStream :=
  match settings.seed with
  | some seed => .ofSeed seed
  | none => unseeded

end Settings

end SyntaxPaths
