import SyntaxPaths.Settings.Format
import SyntaxPaths.Settings.Reading
import SyntaxPaths.Settings.Validation

/-!
# Layered settings

Settings come from three places, and a higher place wins setting by setting: what
the caller says explicitly, what the environment of the process says, and what the
file of the project says.  The result is validated, but no layer by itself.

## Main definitions

* `Settings.over` — one layer above another
* `ProjectFile`, `ProjectFile.settings` — the lowest layer
* `Environment`, `Environment.settings` — the middle layer
* `Overrides`, `Overrides.settings` — the highest layer
* `Settings.load` — all three together
-/

namespace SyntaxPaths

/-- The settings of the upper layer, and for those that it leaves open the
settings of the lower one. -/
def Settings.over (upper lower : Settings) : Settings where
  treeStyle := upper.treeStyle <|> lower.treeStyle
  pathStyle := upper.pathStyle <|> lower.pathStyle
  rootPathQuota := upper.rootPathQuota <|> lower.rootPathQuota
  leafPathQuota := upper.leafPathQuota <|> lower.leafPathQuota
  pathWidth := upper.pathWidth <|> lower.pathWidth
  pathLength := upper.pathLength <|> lower.pathLength
  depthLimit := upper.depthLimit <|> lower.depthLimit
  seed := upper.seed <|> lower.seed

/-! ### The file of the project -/

/-- What is found in the place of the configuration file of a project. -/
inductive ProjectFile where
  /-- There is no file. -/
  | absent
  /-- There is something that cannot be read as a text. -/
  | unreadable
  /-- There is a file with the given text. -/
  | text (content : String)
  deriving DecidableEq, Repr

/-- The settings in a configuration file with the given path. -/
def ProjectFile.settings (path : String) : ProjectFile → Except ConfigError Settings
  | .absent => .ok .unset
  | .unreadable => .error (.fileNotFound path)
  | .text content => Settings.readToml path content

/-! ### The environment -/

/-- The variables that are set; a variable whose value is no text counts as unset. -/
structure Environment where
  /-- The variable of the tree style, `TREEPATH_TREE_STYLE`. -/
  treeStyle : Option String
  /-- The variable of the path style, `TREEPATH_PATH_STYLE`. -/
  pathStyle : Option String
  /-- The variable of the seed. -/
  seed : Option String
  /-- The variable of the depth limit. -/
  depthLimit : Option String
  deriving DecidableEq, Repr

namespace Environment

/-- No variable is set. -/
def empty : Environment where
  treeStyle := none
  pathStyle := none
  seed := none
  depthLimit := none

/-- The name of the variable of the seed. -/
def seedName : String := "TREEPATH_SEED"

/-- The name of the variable of the depth limit. -/
def depthLimitName : String := "TREEPATH_LCRS_DEPTH_LIMIT"

/-- The settings in the variables, read in the order of the fields of
`Environment`. -/
def settings (environment : Environment) : Except ConfigError Settings := do
  let treeStyle ← environment.treeStyle.mapM TreeStyle.read
  let seed ← environment.seed.mapM (readVariable seedName .seed)
  let depthLimit ← environment.depthLimit.mapM (readVariable depthLimitName .depthLimit)
  return { Settings.unset with
    treeStyle, depthLimit
    pathStyle := environment.pathStyle.map PathStyle.read
    seed := seed.map UInt64.ofNat }

end Environment

/-! ### The caller -/

/-- What the caller says explicitly. -/
structure Overrides where
  /-- The tree style. -/
  treeStyle : Option TreeStyle
  /-- The path style. -/
  pathStyle : Option PathStyle
  /-- The seed. -/
  seed : Option UInt64
  deriving DecidableEq, Repr

namespace Overrides

/-- The caller says nothing. -/
def none : Overrides where
  treeStyle := .none
  pathStyle := .none
  seed := .none

/-- The settings that the caller sets. -/
def settings (overrides : Overrides) : Settings :=
  { Settings.unset with
    treeStyle := overrides.treeStyle
    pathStyle := overrides.pathStyle
    seed := overrides.seed }

end Overrides

/-! ### All layers -/

/-- **The settings of a project**: the layers are read from the lowest to the
highest, and what they give together is validated. -/
def Settings.load (path : String) (file : ProjectFile) (environment : Environment)
    (overrides : Overrides) : Except ConfigError Settings := do
  let lowest ← file.settings path
  let middle ← environment.settings
  (overrides.settings.over (middle.over lowest)).validated

end SyntaxPaths
