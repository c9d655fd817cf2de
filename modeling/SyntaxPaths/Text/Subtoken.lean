import SyntaxPaths.Text.Lowercase
import SyntaxPaths.Text.Pieces

/-!
# Sub-tokens of a value

An identifier is usually written from several words: `parse_HTMLBody` holds
*parse*, *html* and *body*.  The value of a terminal is the sequence of these
sub-tokens in lowercase, with `separator` between them.

## Main definitions

* `camelPieces` — a text cut where a new word starts inside it
* `words` — the words of a text, underscores taken as dividers
* `tokenize` — the lowercase words of a text, joined

## Design notes

**Where a word starts.**  A new word starts at a capital after a small letter
(`aB`), and at the last capital of an acronym when a small letter follows it
(`ABc` is *A* and *Bc*).  The test sees ASCII letters alone: it describes how
identifiers are written, not the letters of all scripts.

**No empty words.**  `camelPieces` never yields an empty piece, and yields none at
all for an empty text, so repeated, leading and trailing underscores leave no
trace.
-/

namespace SyntaxPaths.Text

/-- Whether a word ends between `a` and `b`, where `rest` follows `b`. -/
def startsWord (a b : Char) (rest : List Char) : Bool :=
  (a.isLower && b.isUpper) || (a.isUpper && b.isUpper && rest.head?.any Char.isLower)

/-- A character in front of the first piece, or as the only piece. -/
def consPiece (c : Char) : List (List Char) → List (List Char)
  | [] => [[c]]
  | piece :: rest => (c :: piece) :: rest

/-- A text, cut where a new word starts inside it. -/
def camelPieces : List Char → List (List Char)
  | [] => []
  | [c] => [[c]]
  | a :: b :: rest =>
    if startsWord a b rest then [a] :: camelPieces (b :: rest)
    else consPiece a (camelPieces (b :: rest))

/-- The words of a text: cut at underscores, then where a new word starts. -/
def words (cs : List Char) : List (List Char) :=
  (cut (· == '_') cs).flatMap camelPieces

/-- **Sub-tokens.**  The words of a text in lowercase, with `separator` between
them.  Each word is lowercased on its own. -/
def tokenize (s : String) : String :=
  join ((words s.toList).map fun word => String.ofList (lowered word))

@[simp] theorem camelPieces_nil : camelPieces [] = [] := rfl

theorem camelPieces_cons_cons (a b : Char) (rest : List Char) :
    camelPieces (a :: b :: rest) =
      if startsWord a b rest then [a] :: camelPieces (b :: rest)
      else consPiece a (camelPieces (b :: rest)) := rfl

/-- Cutting a text where words start loses nothing. -/
theorem flatten_camelPieces (cs : List Char) : (camelPieces cs).flatten = cs := by
  fun_induction camelPieces cs with
  | case1 => rfl
  | case2 c => rfl
  | case3 a b rest _ ih => simp [ih]
  | case4 a b rest _ ih =>
    cases h : camelPieces (b :: rest) with
    | nil => simp [h] at ih
    | cons piece more => rw [h] at ih; simpa [consPiece] using ih

end SyntaxPaths.Text
