import SyntaxPaths.Text.Pieces

/-!
# Normalizers

How the text of a node becomes its value is left to the caller: literals may be
masked, identifiers replaced by placeholders.  A normalizer is a pair of
functions, one for the text of inner nodes and one for the sub-tokens of
terminals.

## Main definitions

* `Normalizer` — such a pair
* `Normalizer.verbatim` — the default, which changes as little as possible

## Design notes

**Separators.**  The value of an inner node is used as one token of a path, so the
result of `desensitize` should hold no separator.  `verbatim` removes them;
nothing in this library relies on another normalizer doing so.
-/

namespace SyntaxPaths

open Text

/-- What is done to the texts of the nodes. -/
structure Normalizer where
  /-- Applied to the source text of an inner node. -/
  desensitize : String → String
  /-- Applied to the sub-tokens of a terminal. -/
  formalize : String → String

namespace Normalizer

/-- A text without its separators. -/
def withoutSeparators (s : String) : String :=
  String.ofList (s.toList.filter (· ≠ separator))

/-- Terminals keep their value; inner nodes only lose separators. -/
def verbatim : Normalizer where
  desensitize := withoutSeparators
  formalize := id

end Normalizer

end SyntaxPaths
