import SyntaxPaths.Settings.Error
import SyntaxPaths.Settings.Field
import SyntaxPaths.Style
import SyntaxPaths.Text.Blank
import SyntaxPaths.Text.Decimal

/-!
# Settings as texts

A setting may come as a text, from a command line or from the environment of a
process.  Styles are given by name, numbers in decimal; surrounding blanks do not
count.

## Main definitions

* `TreeStyle.read`, `PathStyle.read` — styles from their names, in any case
* `NumberError`, `readNumber` — numbers that fit in 64 bits
* `readVariable` — the number in a variable

## Design notes

**Unknown path styles.**  A text that names neither of the two plain path styles
stands for the third one, so reading a path style cannot fail.

**Which fault of a number counts.**  A number is read from left to right, and the
first fault counts: a character that is no digit, or a digit with which the number
grows too large.
-/

namespace SyntaxPaths

open Text

/-- A name as it is compared: without surrounding blanks and with ASCII letters in
upper case. -/
def upperName (s : String) : String :=
  String.ofList ((trimmed s.toList).map Char.toUpper)

/-- The tree style of a name. -/
def TreeStyle.read (s : String) : Except ConfigError TreeStyle :=
  match TreeStyle.ofName? (upperName s) with
  | some style => .ok style
  | none =>
    .error (.invalidValue Field.treeStyle.path
      ("unknown tree style `" ++ upperName s ++ "`, expected AST, SPT, HST or HPT"))

/-- The path style of a name. -/
def PathStyle.read (s : String) : PathStyle :=
  (PathStyle.ofName? (upperName s)).getD .labelsAndMoves

/-- The causes for which a text is no number. -/
inductive NumberError where
  /-- There is no text. -/
  | empty
  /-- There is a character that is no digit, or no digit at all. -/
  | invalidDigit
  /-- The number does not fit in 64 bits. -/
  | tooLarge
  deriving DecidableEq, Repr

/-- The cause in a few words. -/
def NumberError.message : NumberError → String
  | .empty => "cannot parse integer from empty string"
  | .invalidDigit => "invalid digit found in string"
  | .tooLarge => "number too large to fit in target type"

/-- Numbers are below this bound. -/
def numberBound : Nat := Nat.pow 2 64

/-- The number whose first digits are those of `n`, and whose further digits are
given. -/
def readDigits : (n : Nat) → List Char → Except NumberError Nat
  | n, [] => .ok n
  | n, c :: cs =>
    match digitValue c with
    | none => .error .invalidDigit
    | some digit =>
      if 10 * n + digit < numberBound then readDigits (10 * n + digit) cs else .error .tooLarge

/-- The number of a text: an optional plus, and digits. -/
def readNumber : List Char → Except NumberError Nat
  | [] => .error .empty
  | ['+'] => .error .invalidDigit
  | '+' :: cs => readDigits 0 cs
  | cs => readDigits 0 cs

/-- The number in a variable, which is to become the value of a setting. -/
def readVariable (variableName : String) (field : Field) (text : String) :
    Except ConfigError Nat :=
  (readNumber (trimmed text.toList)).mapError fun cause =>
    .invalidValue field.path (variableName ++ "=`" ++ text ++ "`: " ++ cause.message)

end SyntaxPaths
