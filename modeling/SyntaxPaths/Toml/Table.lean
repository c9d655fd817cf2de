import SyntaxPaths.Toml.Item

/-!
# Building tables

The entries of a document come one after the other, and headers and dotted keys
say to which table each of them belongs.  A table may be described in several
places, but no place may contradict another: nothing is defined twice, a table
with a header of its own is not extended by dotted keys, and a table that was
written as a value is complete.

## Main definitions

* `descend` — a change of the table at the end of a path
* `assign` — the value of a dotted key
* `openTable`, `openElement` — what the two kinds of headers do

## Design notes

**Two ways to descend.**  On the way to a header one may pass through every table
that is not a value, and through the last element of a sequence.  On the way to a
dotted key only tables without a header may be passed.  Tables that are missing on
the way come into being, and remember which of the two ways it was.
-/

namespace SyntaxPaths.Toml

/-- Whether a table of the given origin may be passed on a way on which missing
tables come into being as `created`. -/
def mayPass (created origin : Origin) : Bool :=
  match origin with
  | .implied | .dotted => true
  | .header => created == .implied
  | .inline => false

/-- Changes the table at the end of a path.  The change is told the origin of that
table. -/
def descend (created : Origin) (change : Origin → Entries → Option Entries) :
    (path : List String) → (origin : Origin) → Entries → Option Entries
  | [], origin, entries => change origin entries
  | name :: path, _, entries =>
    match find? name entries with
    | none =>
      (descend created change path created []).map fun inner =>
        append name (.table created inner) entries
    | some (.table origin inner) =>
      if mayPass created origin then
        (descend created change path origin inner).map fun inner =>
          replace name (.table origin inner) entries
      else none
    | some (.tables elements) =>
      match elements.getLast? with
      | none => none
      | some inner =>
        (descend created change path .header inner).map fun inner =>
          replace name (.tables (elements.dropLast ++ [inner])) entries
    | some _ => none

/-- A new entry for a value, in a table of the given origin.  A key that is not
dotted belongs to the table at hand, a dotted key to one that dotted keys have
made. -/
def addEntry (isDottedKey : Bool) (name : String) (item : Item) (origin : Origin)
    (entries : Entries) : Option Entries :=
  if (origin == .dotted) != isDottedKey then none
  else if (find? name entries).isSome then none
  else some (append name item entries)

/-- The entries with the value of a key, whose last part is `name`. -/
def assign (path : List String) (name : String) (item : Item) (entries : Entries) :
    Option Entries :=
  descend .dotted (addEntry (!path.isEmpty) name item) path .header entries

/-- The entries after the header of a table.  A table that was only implied before
is opened; any other one must be new. -/
def openTable (path : List String) (name : String) (entries : Entries) : Option Entries :=
  descend .implied (fun _ entries =>
    match find? name entries with
    | none => some (append name (.table .header []) entries)
    | some (.table .implied inner) => some (replace name (.table .header inner) entries)
    | some _ => none) path .header entries

/-- The entries after the header of an element in a sequence of tables. -/
def openElement (path : List String) (name : String) (entries : Entries) : Option Entries :=
  descend .implied (fun _ entries =>
    match find? name entries with
    | none => some (append name (.tables [[]]) entries)
    | some (.tables elements) => some (replace name (.tables (elements ++ [[]])) entries)
    | some _ => none) path .header entries

/-- The entries with the value of a key below the header of the table `path`. -/
def assignBelow (path keyPath : List String) (name : String) (item : Item) (entries : Entries) :
    Option Entries :=
  descend .implied (fun _ entries => assign keyPath name item entries) path .header entries

/-- The entries of a table that is written as a value, from its keys and values. -/
def inlineEntries : List (List String × String × Item) → Entries → Option Entries
  | [], entries => some entries
  | (path, name, item) :: rest, entries =>
    (assign path name item entries).bind (inlineEntries rest)

@[simp] theorem descend_nil (created : Origin) (change : Origin → Entries → Option Entries)
    (origin : Origin) (entries : Entries) :
    descend created change [] origin entries = change origin entries := by
  rw [descend]

theorem assign_nil (name : String) (item : Item) (entries : Entries) :
    assign [] name item entries =
      if (find? name entries).isSome then none else some (append name item entries) := by
  simp [assign, addEntry]

end SyntaxPaths.Toml
