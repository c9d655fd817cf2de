import SyntaxPaths.Text.Decimal

/-!
# Positions in source text

A node of a parse tree covers the text between two points.  The four coordinates
of a node are also written behind its label, as a *mark*, which tells apart nodes
whose labels read the same.

## Main definitions

* `Point` — a row and a column, both counted from zero
* `Span` — where a node starts and where it stops
* `Span.mark` — the coordinates of a span as text, `@row~column~row~column`
-/

namespace SyntaxPaths

open Text

/-- A place in source text.  Rows and columns are counted from zero; a column
counts the bytes before it in its line. -/
structure Point where
  /-- The line. -/
  row : Nat
  /-- The number of bytes before the place in its line. -/
  column : Nat
  deriving DecidableEq, Repr, Inhabited

/-- Points are ordered by row, then by column. -/
def Point.isBefore (p q : Point) : Bool :=
  p.row < q.row || (p.row == q.row && p.column < q.column)

/-- A point as a pair, in the wording of messages. -/
def Point.text (p : Point) : String :=
  "(" ++ decimal p.row ++ ", " ++ decimal p.column ++ ")"

/-- The text between two points. -/
structure Span where
  /-- Where the text starts. -/
  start : Point
  /-- Where the text stops. -/
  stop : Point
  deriving DecidableEq, Repr, Inhabited

/-- The first character of every mark. -/
def markDelimiter : Char := '@'

/-- The divider between the coordinates of a mark. -/
def coordinateDivider : Char := '~'

/-- The characters of a mark. -/
def Span.markChars (span : Span) : List Char :=
  markDelimiter :: digits span.start.row ++ coordinateDivider :: digits span.start.column ++
    coordinateDivider :: digits span.stop.row ++ coordinateDivider :: digits span.stop.column

/-- **The mark of a span**: its four coordinates as text. -/
def Span.mark (span : Span) : String :=
  String.ofList span.markChars

@[simp] theorem Span.toList_mark (span : Span) : span.mark.toList = span.markChars := by
  simp [Span.mark]

end SyntaxPaths
