import SyntaxPaths.Json.Container
import SyntaxPaths.ParseTree

/-!
# Parse trees in JSON

A parser may hand over its tree as a JSON text.  A node is an object with the
fields `kind`, `start`, `end` and `children`, a point is one with the fields `row`
and `column`.

## Main definitions

* `readPoint`, `readNode` — readers for points and nodes
* `ParseTree.ofJson?` — the tree of a text

## Design notes

**What is tolerated.**  Fields may come in any order, and fields of other names
are skipped.  A node without `children` is a leaf.  In place of an object there
may be an array of the fields, in the order in which they are listed above.

**What is refused.**  A field that is given twice, a field with a value of another
type, and any text behind the tree.  Objects and arrays are nested at most
`nestingLimit` deep, not counting those in fields that are skipped.
-/

namespace SyntaxPaths.ParseTree

open Json Text

/-! ### Points -/

/-- What is known of a point while it is read. -/
structure PointFields where
  /-- The row. -/
  row : Option Nat
  /-- The column. -/
  column : Option Nat

/-- Reads a field of a point. -/
def pointField (name : String) (known : PointFields) (cs : List Char) :
    Option (PointFields × List Char) :=
  if name = "row" then
    (once known.row natural cs).map fun (row, cs) => ({ known with row := some row }, cs)
  else if name = "column" then
    (once known.column natural cs).map fun (column, cs) =>
      ({ known with column := some column }, cs)
  else (skipValue cs).map fun cs => (known, cs)

/-- Reads a point. -/
def readPoint : Reader Point
  | '{' :: cs => do
    let (known, cs) ← object pointField { row := none, column := none } cs
    let row ← known.row
    let column ← known.column
    return ({ row, column }, cs)
  | cs => do
    let cs ← expect ['['] cs
    let (row, cs) ← spaced natural cs
    let cs ← expect [','] (skipSpace cs)
    let (column, cs) ← spaced natural cs
    let cs ← expect [']'] (skipSpace cs)
    return ({ row, column }, cs)

/-! ### Nodes -/

/-- What is known of a node while it is read. -/
structure NodeFields where
  /-- The kind. -/
  kind : Option String
  /-- Where the node starts. -/
  start : Option Point
  /-- Where the node stops. -/
  stop : Option Point
  /-- The children. -/
  children : Option (List ParseTree)

/-- Reads a field of a node, with the given readers for points and lists of
children. -/
def nodeField (point : Reader Point) (children : Reader (List ParseTree)) (name : String)
    (known : NodeFields) (cs : List Char) : Option (NodeFields × List Char) :=
  if name = "kind" then
    (once known.kind string cs).map fun (kind, cs) => ({ known with kind := some kind }, cs)
  else if name = "start" then
    (once known.start point cs).map fun (start, cs) => ({ known with start := some start }, cs)
  else if name = "end" then
    (once known.stop point cs).map fun (stop, cs) => ({ known with stop := some stop }, cs)
  else if name = "children" then
    (once known.children children cs).map fun (children, cs) =>
      ({ known with children := some children }, cs)
  else (skipValue cs).map fun cs => (known, cs)

/-- Reads the children in a node that is written as an array, or its end. -/
def trailingChildren (children : Reader (List ParseTree)) (cs : List Char) :
    Option (List ParseTree × List Char) :=
  match skipSpace cs with
  | ',' :: cs => do
    let (children, cs) ← spaced children cs
    let cs ← expect [']'] (skipSpace cs)
    return (children, cs)
  | cs => (expect [']'] cs).map fun cs => ([], cs)

/-- Reads a node, with the given readers for points and lists of children. -/
def readNodeWith (point : Reader Point) (children : Reader (List ParseTree)) : Reader ParseTree
  | '{' :: cs => do
    let (known, cs) ←
      object (nodeField point children)
        { kind := none, start := none, stop := none, children := none } cs
    let kind ← known.kind
    let start ← known.start
    let stop ← known.stop
    return (.node kind { start, stop } (known.children.getD []), cs)
  | cs => do
    let cs ← expect ['['] cs
    let (kind, cs) ← spaced string cs
    let cs ← expect [','] (skipSpace cs)
    let (start, cs) ← spaced point cs
    let cs ← expect [','] (skipSpace cs)
    let (stop, cs) ← spaced point cs
    let (children, cs) ← trailingChildren children cs
    return (.node kind { start, stop } children, cs)

/-- Reads a node in which objects and arrays are nested to the given depth at
most. -/
def readNode : (depth : Nat) → Reader ParseTree
  | 0, _ => none
  | 1, cs => readNodeWith (fun _ => none) (fun _ => none) cs
  | depth + 2, cs => readNodeWith readPoint (array (readNode depth)) cs

/-- **The tree of a JSON text**, if the text is one. -/
def ofJson? (text : String) : Option ParseTree :=
  match readNode nestingLimit (skipSpace text.toList) with
  | some (tree, cs) => if (skipSpace cs).isEmpty then some tree else none
  | none => none

end SyntaxPaths.ParseTree
