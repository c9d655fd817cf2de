import SyntaxPaths.Settings
import SyntaxPaths.Settings.Error
import SyntaxPaths.Settings.Field

/-!
# Which settings are acceptable

A setting that is left open is always acceptable.  A quota, a length or a depth of
zero would leave nothing to do, and a leaf path needs three labels at least: one
on either leg, and one where the legs meet.

## Main definitions

* `Settings.quantities` — the settings that must not be zero
* `Settings.validate` — the first thing that is wrong, if any is
-/

namespace SyntaxPaths

namespace Settings

/-- The settings that must not be zero, in the order in which they are looked at. -/
def quantities (settings : Settings) : List (Field × Option Nat) :=
  [(.rootPathQuota, settings.rootPathQuota), (.leafPathQuota, settings.leafPathQuota),
    (.pathLength, settings.pathLength), (.depthLimit, settings.depthLimit)]

/-- The first setting that is zero and must not be. -/
def zeroField? (settings : Settings) : Option Field :=
  (settings.quantities.find? fun quantity => quantity.2 == some 0).map Prod.fst

/-- The fewest labels of a leaf path. -/
def leastPathLength : Nat := 3

/-- Whether leaf paths could not have enough labels. -/
def isTooShort (settings : Settings) : Bool :=
  settings.pathLength.any (· < leastPathLength)

/-- **Validation.**  Zeros are looked for first, and then lengths that are too
small. -/
def validate (settings : Settings) : Except ConfigError Unit :=
  match settings.zeroField? with
  | some field => .error (.validationFailed field.path "must be greater than 0")
  | none =>
    if settings.isTooShort then
      .error (.validationFailed Field.pathLength.path "must be at least 3")
    else .ok ()

/-- The settings, if they are acceptable. -/
def validated (settings : Settings) : Except ConfigError Settings :=
  settings.validate.map fun _ => settings

end Settings

end SyntaxPaths
