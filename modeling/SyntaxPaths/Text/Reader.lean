/-!
# Reading from the front of a text

Configuration files and parse trees come as texts.  A reader takes what it can
from the front of a text and hands on what is left, so that the next reader can go
on from there.

## Main definitions

* `Reader` — what a reader is
* `expect` — what is left behind given characters
* `hexDigit?`, `isHexDigit` — hexadecimal digits in either case
* `numberOfDigits` — the number that digits stand for in some base
-/

namespace SyntaxPaths.Text

/-- A reader takes a part from the front of a text, or refuses the text. -/
abbrev Reader (α : Type) := List Char → Option (α × List Char)

/-- What is left of a text that begins with the given characters. -/
def expect : (wanted : List Char) → List Char → Option (List Char)
  | [], cs => some cs
  | _ :: _, [] => none
  | w :: wanted, c :: cs => if c = w then expect wanted cs else none

/-- The value of a hexadecimal digit. -/
def hexDigit? (c : Char) : Option Nat :=
  if c.isDigit then some (c.toNat - '0'.toNat)
  else if 'a' ≤ c && c ≤ 'f' then some (c.toNat - 'a'.toNat + 10)
  else if 'A' ≤ c && c ≤ 'F' then some (c.toNat - 'A'.toNat + 10)
  else none

/-- Whether a character is a hexadecimal digit. -/
def isHexDigit (c : Char) : Bool :=
  (hexDigit? c).isSome

/-- The number that digits stand for in a base up to sixteen. -/
def numberOfDigits (base : Nat) (digits : List Char) : Nat :=
  digits.foldl (fun n c => base * n + (hexDigit? c).getD 0) 0

@[simp] theorem expect_nil (cs : List Char) : expect [] cs = some cs := by
  cases cs <;> rfl

theorem expect_cons_cons (w c : Char) (wanted cs : List Char) :
    expect (w :: wanted) (c :: cs) = if c = w then expect wanted cs else none := rfl

end SyntaxPaths.Text
