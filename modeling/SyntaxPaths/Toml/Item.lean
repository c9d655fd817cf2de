/-!
# Items of a TOML document

A TOML document is a table: names with items.  An item is a value or again a
table, and some tables stand in a sequence of tables.

## Main definitions

* `Decimal` — a floating-point number, as it was written
* `Origin` — the way in which a table came into being
* `Item` — values and tables
* `Entries` — the names and items of a table
* `find?`, `replace`, `append` — looking up and changing entries

## Design notes

**Tables remember their origin.**  Whether a table may be opened or extended later
on depends on how it was written before.  So that is part of the item, though not
of what the item means.
-/

namespace SyntaxPaths.Toml

/-- A floating-point number, as it was written. -/
inductive Decimal where
  /-- The number `mantissa · 10 ^ exponent`, or its negative. -/
  | finite (isNegative : Bool) (mantissa : Nat) (exponent : Int)
  /-- An infinity. -/
  | infinite (isNegative : Bool)
  /-- Not a number. -/
  | notANumber
  deriving DecidableEq, Repr

/-- The ways in which a table comes into being. -/
inductive Origin where
  /-- It was opened by a header of its own. -/
  | header
  /-- It lies on the way to a table with a header. -/
  | implied
  /-- It lies on the way to the value of a dotted key. -/
  | dotted
  /-- It was written inside a value. -/
  | inline
  deriving DecidableEq, Repr

/-- A value or a table. -/
inductive Item where
  /-- A string. -/
  | string (text : String)
  /-- An integer. -/
  | integer (number : Int)
  /-- A floating-point number. -/
  | float (number : Decimal)
  /-- A truth value. -/
  | boolean (value : Bool)
  /-- A date, a time of day or both, as it was written. -/
  | dateTime (text : String)
  /-- A sequence of values. -/
  | array (items : List Item)
  /-- A table. -/
  | table (origin : Origin) (entries : List (String × Item))
  /-- A sequence of tables, each opened by a header of its own. -/
  | tables (elements : List (List (String × Item)))
  deriving Inhabited

/-- The names and items of a table, in the order in which they were written. -/
abbrev Entries := List (String × Item)

/-- The item of a name. -/
def find? (name : String) : Entries → Option Item
  | [] => none
  | entry :: entries => if entry.1 = name then some entry.2 else find? name entries

/-- The entries with another item for a name that is among them. -/
def replace (name : String) (item : Item) : Entries → Entries
  | [] => []
  | entry :: entries =>
    if entry.1 = name then (name, item) :: entries else entry :: replace name item entries

/-- The entries with a further one. -/
def append (name : String) (item : Item) (entries : Entries) : Entries :=
  entries ++ [(name, item)]

@[simp] theorem find?_nil (name : String) : find? name [] = none := rfl

theorem find?_cons (name : String) (entry : String × Item) (entries : Entries) :
    find? name (entry :: entries) =
      if entry.1 = name then some entry.2 else find? name entries := rfl

end SyntaxPaths.Toml
