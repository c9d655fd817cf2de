import SyntaxPaths.Text.Pieces

/-!
# Tokens of a rendered tree

A rendered tree is one string, in which brackets show the structure and separators
divide the sub-tokens of the values.  Its tokens are what stands between these
characters.
-/

namespace SyntaxPaths.Rendering

open Text

/-- The characters that divide the tokens of a rendered tree. -/
def isTokenDivider (c : Char) : Bool :=
  c == '(' || c == separator || c == ')'

/-- The tokens of a rendered tree; none of them is empty. -/
def tokenChars (cs : List Char) : List (List Char) :=
  (cut isTokenDivider cs).filter (!·.isEmpty)

/-- `tokenChars` on strings. -/
def tokens (rendered : String) : List String :=
  (tokenChars rendered.toList).map String.ofList

end SyntaxPaths.Rendering
