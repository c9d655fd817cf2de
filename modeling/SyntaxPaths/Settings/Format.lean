import SyntaxPaths.Settings.Error
import SyntaxPaths.Settings.Field
import SyntaxPaths.Settings.Validation
import SyntaxPaths.Text.Decimal
import SyntaxPaths.Toml.Document

/-!
# Settings as TOML

In a configuration file the settings stand in one table.  A setting that is left
open has no entry; entries under other names are ignored.

## Main definitions

* `Settings.ofEntries?` — the settings in a document that was read
* `Settings.ofToml?` — the settings in a text
* `Settings.fromToml` — the same, with failures and validation
* `Settings.toToml` — the text of settings

## Design notes

**Other shapes.**  Some shapes besides the usual one are understood.  The table of
settings may be an array that lists the values in the order of the fields, and a
style may be a table whose only key is the name of the style and has an empty
value.

**Large numbers.**  Integers of TOML have 64 bits with a sign.  Larger settings
are possible, but have no text.
-/

namespace SyntaxPaths

open Text Toml

/-! ### Reading -/

/-- Whether an item holds nothing. -/
def isEmptyItem : Item → Bool
  | .array items => items.isEmpty
  | .table _ entries => entries.isEmpty
  | .tables elements => elements.isEmpty
  | _ => false

/-- The name that an item stands for: a string, or the only key of a table, with
an empty value. -/
def nameOfItem? : Item → Option String
  | .string text => some text
  | .table _ [(name, item)] => if isEmptyItem item then some name else none
  | _ => none

/-- The natural number that an item is. -/
def naturalOfItem? : Item → Option Nat
  | .integer (.ofNat n) => some n
  | _ => none

/-- A setting that is read from an item, if there is one. -/
def readOptional {α : Type} (read : Item → Option α) : Option Item → Option (Option α)
  | none => some none
  | some item => (read item).map some

/-- The settings whose items are given, if each of them can be read. -/
def Settings.ofItems? (item : Field → Option Item) : Option Settings := do
  let treeStyle ← readOptional (fun i => (nameOfItem? i).bind TreeStyle.ofName?) (item .treeStyle)
  let pathStyle ← readOptional (fun i => (nameOfItem? i).bind PathStyle.ofName?) (item .pathStyle)
  let rootPathQuota ← readOptional naturalOfItem? (item .rootPathQuota)
  let leafPathQuota ← readOptional naturalOfItem? (item .leafPathQuota)
  let pathWidth ← readOptional naturalOfItem? (item .pathWidth)
  let pathLength ← readOptional naturalOfItem? (item .pathLength)
  let depthLimit ← readOptional naturalOfItem? (item .depthLimit)
  let seed ← readOptional naturalOfItem? (item .seed)
  return { treeStyle, pathStyle, rootPathQuota, leafPathQuota, pathWidth, pathLength, depthLimit,
           seed := seed.map UInt64.ofNat }

/-- The settings that a list of values gives, in the order of the fields. -/
def Settings.ofList? (items : List Item) : Option Settings :=
  Settings.ofItems? fun field => items[field.index]?

/-- The settings in the item of the table of settings. -/
def Settings.ofItem? : Item → Option Settings
  | .table _ entries => Settings.ofItems? fun field => find? field.key entries
  | .array items => Settings.ofList? items
  | .tables elements => Settings.ofList? (elements.map (Item.table .header))
  | .dateTime _ => some .unset
  | _ => none

/-- The settings in a document. -/
def Settings.ofEntries? (entries : Entries) : Option Settings :=
  match find? settingsTable entries with
  | some item => Settings.ofItem? item
  | none => some .unset

/-- The settings in a text, if it is a document with settings of the right types. -/
def Settings.ofToml? (text : String) : Option Settings :=
  (Toml.parse? text).bind Settings.ofEntries?

/-- The settings in the text that comes from the given path. -/
def Settings.readToml (path text : String) : Except ConfigError Settings :=
  match Settings.ofToml? text with
  | some settings => .ok settings
  | none => .error (.malformed path "not a configuration")

/-- What stands for the path of a text that comes from no file. -/
def textPath : String := "<string>"

/-- **The settings in a text**, if they are acceptable. -/
def Settings.fromToml (text : String) : Except ConfigError Settings :=
  (Settings.readToml textPath text).bind Settings.validated

/-! ### Writing -/

/-- The line of an entry. -/
def entryLine (field : Field) (value : String) : String :=
  field.key ++ " = " ++ value ++ "\n"

/-- The line of a style.  The names of styles hold letters and digits only, so
they can be quoted as they are. -/
def nameLine (field : Field) (name : String) : String :=
  entryLine field ("\"" ++ name ++ "\"")

/-- Numbers with a text are below this bound. -/
def writtenBound : Nat := Nat.pow 2 63

/-- The line of a number, if the number has a text. -/
def numberLine? (field : Field) (n : Nat) : Option String :=
  if n < writtenBound then some (entryLine field (decimal n)) else none

/-- The line of a setting, which is empty if the setting is left open. -/
def optionalLine? {α : Type} (line? : α → Option String) : Option α → Option String
  | none => some ""
  | some value => line? value

/-- The lines of the settings, if each of them has a text. -/
def Settings.lines? (settings : Settings) : Option (List String) :=
  [optionalLine? (fun style => some (nameLine .treeStyle (TreeStyle.name style)))
      settings.treeStyle,
    optionalLine? (fun style => some (nameLine .pathStyle (PathStyle.name style)))
      settings.pathStyle,
    optionalLine? (numberLine? .rootPathQuota) settings.rootPathQuota,
    optionalLine? (numberLine? .leafPathQuota) settings.leafPathQuota,
    optionalLine? (numberLine? .pathWidth) settings.pathWidth,
    optionalLine? (numberLine? .pathLength) settings.pathLength,
    optionalLine? (numberLine? .depthLimit) settings.depthLimit,
    optionalLine? (fun seed => numberLine? .seed (UInt64.toNat seed)) settings.seed].mapM id

/-- What stands for the path of a text that is being written. -/
def writingPath : String := "<serialization>"

/-- **The text of settings**, if each of them has one: a header, and a line for
each setting that is not left open. -/
def Settings.toToml (settings : Settings) : Except ConfigError String :=
  match settings.lines? with
  | some lines => .ok ("[" ++ settingsTable ++ "]\n" ++ String.join lines)
  | none => .error (.malformed writingPath "out of range for an integer")

end SyntaxPaths
