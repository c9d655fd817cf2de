/-!
# Natural numbers in decimal

Positions, counts and limits are written in decimal, without leading zeros and
without grouping.

## Main definitions

* `digits` — the decimal digits of a number
* `decimal` — the same as a string
* `digitValue` — the value of a decimal digit
-/

namespace SyntaxPaths.Text

/-- The decimal digits of a number, the most significant first; zero has one
digit. -/
def digits (n : Nat) : List Char :=
  Nat.toDigits 10 n

/-- A number in decimal. -/
def decimal (n : Nat) : String :=
  String.ofList (digits n)

/-- The value of one of the ten ASCII digits. -/
def digitValue (c : Char) : Option Nat :=
  if '0' ≤ c ∧ c ≤ '9' then some (c.toNat - '0'.toNat) else none

@[simp] theorem toList_decimal (n : Nat) : (decimal n).toList = digits n := by
  simp [decimal]

end SyntaxPaths.Text
