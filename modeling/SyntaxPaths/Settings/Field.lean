/-!
# The names of the settings

Every setting has a key, under which it stands in a configuration file, and a
path, by which messages refer to it.

## Main definitions

* `Field` — the settings as such
* `Field.key`, `Field.path` — their names
* `Field.all` — all of them, in the order in which they are written
-/

namespace SyntaxPaths

/-- The settings as such, without values. -/
inductive Field where
  /-- Which labels root paths are made of. -/
  | treeStyle
  /-- How the middle of leaf paths is written. -/
  | pathStyle
  /-- How many root paths are sampled at most. -/
  | rootPathQuota
  /-- How many leaf paths are sampled at most. -/
  | leafPathQuota
  /-- How much the legs of a leaf path may differ. -/
  | pathWidth
  /-- How many labels a leaf path may have. -/
  | pathLength
  /-- How deep the binary view of a tree may be. -/
  | depthLimit
  /-- The seed of the random choices. -/
  | seed
  deriving DecidableEq, Repr

/-- The table of a configuration file in which the settings stand. -/
def settingsTable : String := "extraction"

namespace Field

/-- The key of a setting. -/
def key : Field → String
  | .treeStyle => "tree_style"
  | .pathStyle => "path_style"
  | .rootPathQuota => "root_path_threshold"
  | .leafPathQuota => "leaf_path_threshold"
  | .pathWidth => "path_width_threshold"
  | .pathLength => "path_length_threshold"
  | .depthLimit => "lcrs_depth_limit"
  | .seed => "seed"

/-- The key of a setting, with the name of its table in front. -/
def path (field : Field) : String :=
  settingsTable ++ "." ++ field.key

/-- The place of a setting among all settings. -/
def index : Field → Nat
  | .treeStyle => 0
  | .pathStyle => 1
  | .rootPathQuota => 2
  | .leafPathQuota => 3
  | .pathWidth => 4
  | .pathLength => 5
  | .depthLimit => 6
  | .seed => 7

/-- All settings, in the order in which they are written. -/
def all : List Field :=
  [.treeStyle, .pathStyle, .rootPathQuota, .leafPathQuota, .pathWidth, .pathLength, .depthLimit,
    .seed]

end Field

end SyntaxPaths
