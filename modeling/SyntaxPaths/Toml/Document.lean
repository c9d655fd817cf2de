import SyntaxPaths.Toml.DateTime
import SyntaxPaths.Toml.Number
import SyntaxPaths.Toml.Quoted
import SyntaxPaths.Toml.Table

/-!
# Reading TOML documents

A document is a sequence of lines.  A line holds the header of a table, a key with
its value, or nothing; a comment may follow.  A value may go on over several
lines, if it is an array or a string that allows it.

## Main definitions

* `scalar`, `value` — readers for values
* `State` — the tables read so far, and the table that is open
* `statement` — what a line does to the state
* `parse?` — the table of a document, if the text is one

## Design notes

**Nesting.**  Arrays and tables inside values are nested less than `nestingLimit`
deep.  The depth that is left is the argument on which `value` recurs, and the
readers of a level take the reader of the next level as an argument.
-/

namespace SyntaxPaths.Toml

open Text

/-! ### Values -/

/-- Reads a truth value. -/
def boolean (cs : List Char) : Option (Bool × List Char) :=
  match expect ['t', 'r', 'u', 'e'] cs with
  | some cs => some (true, cs)
  | none => (expect ['f', 'a', 'l', 's', 'e'] cs).map fun cs => (false, cs)

/-- Reads a value that is not made of others.  What can be read as a date is one,
and what can be read as a floating-point number is no integer. -/
def scalar (cs : List Char) : Option (Item × List Char) :=
  (quotedString cs).map (fun (text, cs) => (.string text, cs)) <|>
  (dateTime cs).map (fun (text, cs) => (.dateTime text, cs)) <|>
  (float cs).map (fun (number, cs) => (.float number, cs)) <|>
  (integer cs).map (fun (number, cs) => (.integer number, cs)) <|>
  (boolean cs).map (fun (value, cs) => (.boolean value, cs))

/-- Reads the values of an array up to its closing bracket.  Line ends and
comments may stand between them, and a comma behind the last one. -/
def arrayItems (item : Reader Item) : (fuel : Nat) → Reader (List Item)
  | 0, _ => none
  | fuel + 1, cs =>
    match skipGaps cs with
    | ']' :: cs => some ([], cs)
    | cs =>
      (item cs).bind fun (first, cs) =>
        match skipGaps cs with
        | ',' :: cs => (arrayItems item fuel cs).map fun (items, cs) => (first :: items, cs)
        | ']' :: cs => some ([first], cs)
        | _ => none

/-- Reads a key with its value, and the blanks around them. -/
def assignment (item : Reader Item) (cs : List Char) :
    Option ((List String × String × Item) × List Char) := do
  let ((path, name), cs) ← key cs
  let cs ← expect ['='] cs
  let (value, cs) ← item (skipBlanks cs)
  return ((path, name, value), skipBlanks cs)

/-- Reads the assignments of a table inside a value, at least one, up to its
closing brace. -/
def inlineAssignments (item : Reader Item) :
    (fuel : Nat) → Reader (List (List String × String × Item))
  | 0, _ => none
  | fuel + 1, cs =>
    (assignment item cs).bind fun (first, cs) =>
      match cs with
      | ',' :: cs =>
        (inlineAssignments item fuel cs).map fun (assignments, cs) => (first :: assignments, cs)
      | '}' :: cs => some ([first], cs)
      | _ => none

/-- Reads a table inside a value, behind its opening brace. -/
def inlineTable (item : Reader Item) (cs : List Char) : Option (Item × List Char) :=
  match skipBlanks cs with
  | '}' :: cs => some (.table .inline [], cs)
  | cs =>
    (inlineAssignments item (cs.length + 1) cs).bind fun (assignments, cs) =>
      (inlineEntries assignments []).map fun entries => (.table .inline entries, cs)

/-- Reads a value that holds others to the given depth at most. -/
def value : (depth : Nat) → Reader Item
  | 0, cs => scalar cs
  | depth + 1, cs =>
    match cs with
    | '[' :: cs =>
      (arrayItems (value depth) (cs.length + 1) cs).map fun (items, cs) => (.array items, cs)
    | '{' :: cs => inlineTable (value depth) cs
    | cs => scalar cs

/-! ### Lines -/

/-- The tables read so far, and the table to which the next keys belong. -/
structure State where
  /-- The entries of the document. -/
  entries : Entries
  /-- The path of the table that is open. -/
  path : List String

/-- Reads a header up to the given closing brackets, and opens a table by it. -/
def headerLine (close : List Char)
    (opened : List String → String → Entries → Option Entries) (state : State)
    (cs : List Char) : Option (State × List Char) := do
  let ((path, name), cs) ← key cs
  let cs ← expect close cs
  let cs ← endOfLine cs
  let entries ← opened path name state.entries
  return ({ entries, path := path ++ [name] }, cs)

/-- Reads a key with its value, and adds it to the table that is open. -/
def assignmentLine (state : State) (cs : List Char) : Option (State × List Char) := do
  let ((path, name, item), cs) ← assignment (value (nestingLimit - 1)) cs
  let cs ← endOfLine cs
  let entries ← assignBelow state.path path name item state.entries
  return ({ state with entries }, cs)

/-- Reads a line with a header, or with a key and its value. -/
def statement (state : State) (cs : List Char) : Option (State × List Char) :=
  match cs with
  | '[' :: '[' :: cs => headerLine [']', ']'] openElement state cs
  | '[' :: cs => headerLine [']'] openTable state cs
  | cs => assignmentLine state cs

/-- Reads all lines. -/
def statements : (fuel : Nat) → State → List Char → Option State
  | 0, _, _ => none
  | fuel + 1, state, cs =>
    match skipBlanks cs with
    | [] => some state
    | cs =>
      match endOfLine cs with
      | some cs => statements fuel state cs
      | none => (statement state cs).bind fun (state, cs) => statements fuel state cs

/-- A text without the byte order mark at its front. -/
def skipByteOrderMark : List Char → List Char
  | '\uFEFF' :: cs => cs
  | cs => cs

/-- **The table of a document**, if the text is one. -/
def parse? (text : String) : Option Entries :=
  let cs := skipByteOrderMark text.toList
  (statements (cs.length + 1) { entries := [], path := [] } cs).map State.entries

end SyntaxPaths.Toml
