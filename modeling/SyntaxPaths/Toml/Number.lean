import SyntaxPaths.Toml.Item
import SyntaxPaths.Toml.Scan

/-!
# Numbers

Integers are written in decimal with an optional sign, or without a sign in one of
three other bases; they must fit in 64 bits.  Floating-point numbers have a
fraction, an exponent or both.

## Main definitions

* `integer` — a reader for integers
* `float` — a reader for floating-point numbers
* `Decimal.overflows` — whether a number is rounded to infinity

## Design notes

**Too large and too small.**  A positive number that would be rounded to infinity
is refused.  Its negative counterpart is not, and neither is a number that is
rounded to zero.
-/

namespace SyntaxPaths.Toml

open Text

/-- Reads an optional sign, and tells whether it is a minus. -/
def sign : List Char → Bool × List Char
  | '+' :: cs => (false, cs)
  | '-' :: cs => (true, cs)
  | cs => (false, cs)

/-- Reads the digits of a decimal integer, which has no leading zeros. -/
def decimalDigits : Reader (List Char)
  | '0' :: cs => some (['0'], cs)
  | cs => someDigits Char.isDigit cs

/-- Whether an integer fits in 64 bits, one of which is the sign. -/
def isIntegerInRange (n : Int) : Bool :=
  -9223372036854775808 ≤ n && n ≤ 9223372036854775807

/-- A number with a sign. -/
def signed (isNegative : Bool) (n : Nat) : Int :=
  if isNegative then -(n : Int) else n

/-- Reads the digits of an integer in some base, behind the letter of the base. -/
def basedInteger (base : Nat) (isDigit : Char → Bool) (cs : List Char) :
    Option (Int × List Char) :=
  (someDigits isDigit cs).map fun (digits, cs) => ((numberOfDigits base digits : Int), cs)

/-- Reads an integer of any size. -/
def anyInteger : Reader Int
  | '0' :: 'x' :: cs => basedInteger 16 isHexDigit cs
  | '0' :: 'o' :: cs => basedInteger 8 (fun c => '0' ≤ c && c ≤ '7') cs
  | '0' :: 'b' :: cs => basedInteger 2 (fun c => c == '0' || c == '1') cs
  | cs =>
    let (isNegative, cs) := sign cs
    (decimalDigits cs).map fun (digits, cs) =>
      (signed isNegative (numberOfDigits 10 digits), cs)

/-- Reads an integer. -/
def integer (cs : List Char) : Option (Int × List Char) :=
  (anyInteger cs).bind fun (n, cs) => if isIntegerInRange n then some (n, cs) else none

/-- Reads the part of a number behind its point. -/
def fraction? : Reader (List Char)
  | '.' :: cs => someDigits Char.isDigit cs
  | _ => none

/-- Reads the exponent of a number. -/
def exponent? : Reader Int
  | 'e' :: cs | 'E' :: cs =>
    let (isNegative, cs) := sign cs
    (someDigits Char.isDigit cs).map fun (digits, cs) =>
      (signed isNegative (numberOfDigits 10 digits), cs)
  | _ => none

/-- Half a unit above the greatest finite number: from here on numbers are rounded
to infinity. -/
def overflowBound : Nat := Nat.pow 2 1024 - Nat.pow 2 970

/-- Whether a number is rounded to positive infinity.  A number with `n` digits
before the point lies between `10 ^ (n - 1)` and `10 ^ n`; only for 309 of them is
a closer look needed. -/
def Decimal.overflows : Decimal → Bool
  | .finite false mantissa exponent =>
    if mantissa = 0 then false
    else
      let size := ((Nat.toDigits 10 mantissa).length : Int) + exponent
      if size < 309 then false
      else if 309 < size then true
      else if 0 ≤ exponent then overflowBound ≤ mantissa * Nat.pow 10 exponent.toNat
      else overflowBound * Nat.pow 10 (-exponent).toNat ≤ mantissa
  | _ => false

/-- Reads a number with a fraction, an exponent or both. -/
def finiteFloat (cs : List Char) : Option (Decimal × List Char) :=
  let (isNegative, cs) := sign cs
  (decimalDigits cs).bind fun (whole, cs) =>
    let number := fun (part : List Char) (exponent : Int) =>
      Decimal.finite isNegative (numberOfDigits 10 (whole ++ part)) (exponent - part.length)
    match exponent? cs with
    | some (exponent, cs) => some (number [] exponent, cs)
    | none =>
      (fraction? cs).map fun (part, cs) =>
        match exponent? cs with
        | some (exponent, cs) => (number part exponent, cs)
        | none => (number part 0, cs)

/-- Reads an infinity, or what is not a number. -/
def specialFloat (cs : List Char) : Option (Decimal × List Char) :=
  let (isNegative, cs) := sign cs
  match expect ['i', 'n', 'f'] cs with
  | some cs => some (.infinite isNegative, cs)
  | none => (expect ['n', 'a', 'n'] cs).map fun cs => (.notANumber, cs)

/-- Reads a floating-point number. -/
def float (cs : List Char) : Option (Decimal × List Char) :=
  match finiteFloat cs with
  | some (number, cs) => if number.overflows then none else some (number, cs)
  | none => specialFloat cs

end SyntaxPaths.Toml
