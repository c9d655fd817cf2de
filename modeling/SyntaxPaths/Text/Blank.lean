/-!
# Blank characters

Kinds, style names, language names and seed texts may all arrive with space around
them.  The space that is ignored is Unicode's `White_Space` property, not the five
ASCII characters alone: a no-break space or an ideographic space is ignored too.

## Main definitions

* `isBlank` — membership in `White_Space`
* `trimmed` — a text without the blanks at its two ends
* `trim` — the same on strings
-/

namespace SyntaxPaths.Text

/-- The `White_Space` property: twenty-five code points, in ten runs. -/
def isBlank (c : Char) : Bool :=
  let n := c.toNat
  (0x09 ≤ n && n ≤ 0x0D) || n == 0x20 || n == 0x85 || n == 0xA0 || n == 0x1680 ||
    (0x2000 ≤ n && n ≤ 0x200A) || n == 0x2028 || n == 0x2029 || n == 0x202F ||
    n == 0x205F || n == 0x3000

/-- The characters that are left when the leading and the trailing blanks are
dropped; blanks between two other characters stay. -/
def trimmed (cs : List Char) : List Char :=
  ((cs.dropWhile isBlank).reverse.dropWhile isBlank).reverse

/-- `trimmed` on strings. -/
def trim (s : String) : String :=
  String.ofList (trimmed s.toList)

@[simp] theorem toList_trim (s : String) : (trim s).toList = trimmed s.toList := by
  simp [trim]

@[simp] theorem trimmed_nil : trimmed [] = [] := rfl

end SyntaxPaths.Text
