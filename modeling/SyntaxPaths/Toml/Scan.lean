import SyntaxPaths.Text.Reader

/-!
# Reading characters

What all readers of TOML texts share.  Blanks, comments and line ends are skipped
by functions that cannot fail; what they leave is looked at by the next reader.

## Main definitions

* `skipBlanks`, `skipLineEnd?`, `skipGaps` — what may stand between the parts of a
  text
* `endOfLine` — what may stand behind a statement
* `manyDigits` — digits, with single underscores between them
-/

namespace SyntaxPaths.Toml

open Text

/-- A blank inside a line. -/
def isLineBlank (c : Char) : Bool :=
  c == ' ' || c == '\t'

/-- A character that may stand in a comment or a string: no control character,
apart from the tabulator. -/
def isTextChar (c : Char) : Bool :=
  c == '\t' || (0x20 ≤ c.toNat && c.toNat != 0x7F)

/-- A text without the blanks at its front. -/
def skipBlanks (cs : List Char) : List Char :=
  cs.dropWhile isLineBlank

/-- What follows a line feed, with or without a carriage return before it. -/
def skipLineEnd? : List Char → Option (List Char)
  | '\n' :: cs => some cs
  | '\r' :: '\n' :: cs => some cs
  | _ => none

/-- Skips blanks, line ends, and, if the text starts inside a comment, the rest of
it.  A comment with a character that may not stand there is not skipped any
further. -/
def skipGapsFrom : (inComment : Bool) → List Char → List Char
  | _, [] => []
  | _, '\r' :: '\n' :: cs => skipGapsFrom false cs
  | inComment, c :: cs =>
    if c = '\n' then skipGapsFrom false cs
    else if inComment then (if isTextChar c then skipGapsFrom true cs else c :: cs)
    else if isLineBlank c then skipGapsFrom false cs
    else if c = '#' then skipGapsFrom true cs
    else c :: cs

/-- Skips blanks, line ends and comments. -/
def skipGaps (cs : List Char) : List Char :=
  skipGapsFrom false cs

/-- Skips blanks and line ends. -/
def skipEmptyLines : List Char → List Char
  | [] => []
  | '\r' :: '\n' :: cs => skipEmptyLines cs
  | c :: cs => if c = '\n' || isLineBlank c then skipEmptyLines cs else c :: cs

/-- A text without the comment at its front. -/
def skipComment : List Char → List Char
  | '#' :: cs => cs.dropWhile isTextChar
  | cs => cs

/-- What follows the line that ends here, perhaps with blanks and a comment; the
end of the text ends a line too. -/
def endOfLine (cs : List Char) : Option (List Char) :=
  match skipComment (skipBlanks cs) with
  | [] => some []
  | cs => skipLineEnd? cs

/-- Digits, and underscores that stand between two digits. -/
def manyDigits (isDigit : Char → Bool) : List Char → List Char × List Char
  | [] => ([], [])
  | '_' :: c :: cs =>
    if isDigit c then
      let (digits, rest) := manyDigits isDigit cs
      (c :: digits, rest)
    else ([], '_' :: c :: cs)
  | c :: cs =>
    if isDigit c then
      let (digits, rest) := manyDigits isDigit cs
      (c :: digits, rest)
    else ([], c :: cs)

/-- At least one digit, and single underscores between digits. -/
def someDigits (isDigit : Char → Bool) : Reader (List Char)
  | [] => none
  | c :: cs =>
    if isDigit c then
      let (digits, rest) := manyDigits isDigit cs
      some (c :: digits, rest)
    else none

end SyntaxPaths.Toml
