import SyntaxPaths.Text.Reader

/-!
# Parts of JSON texts

The parts of a JSON text that are not made of others, and the values that are
skipped because nobody asks for them.

## Main definitions

* `skipSpace` — blanks between the parts of a text
* `string` — a reader for strings
* `natural` — a reader for natural numbers of at most 64 bits
* `skipValue` — skips a value of any kind

## Design notes

**Skipped strings.**  A string that is skipped has to be written correctly, but
need not stand for a text: the escape of half a surrogate pair may stand in it by
itself.

**Skipped values.**  They may be nested to any depth.
-/

namespace SyntaxPaths.Json

open Text

/-- A blank between the parts of a text. -/
def isSpace (c : Char) : Bool :=
  c == ' ' || c == '\n' || c == '\t' || c == '\r'

/-- A text without the blanks at its front. -/
def skipSpace (cs : List Char) : List Char :=
  cs.dropWhile isSpace

/-! ### Strings -/

/-- The character that a single character behind a backslash stands for. -/
def simpleEscape? : Char → Option Char
  | '"' => some '"'
  | '\\' => some '\\'
  | '/' => some '/'
  | 'b' => some '\x08'
  | 'f' => some '\x0C'
  | 'n' => some '\n'
  | 'r' => some '\r'
  | 't' => some '\t'
  | _ => none

/-- Reads four hexadecimal digits. -/
def hexUnit (cs : List Char) : Option (Nat × List Char) :=
  let digits := cs.take 4
  if digits.length = 4 && digits.all isHexDigit then
    some (numberOfDigits 16 digits, cs.drop 4)
  else none

/-- Whether a unit is the first half of a surrogate pair. -/
def isLeading (unit : Nat) : Bool :=
  0xD800 ≤ unit && unit ≤ 0xDBFF

/-- Whether a unit is the second half of a surrogate pair. -/
def isTrailing (unit : Nat) : Bool :=
  0xDC00 ≤ unit && unit ≤ 0xDFFF

/-- The code point of a surrogate pair. -/
def pairedPoint (leading trailing : Nat) : Nat :=
  0x10000 + 1024 * (leading - 0xD800) + (trailing - 0xDC00)

/-- Reads the digits behind the letter of a code point, and the second half of a
surrogate pair if they are the first. -/
def pointEscape (cs : List Char) : Option (Char × List Char) := do
  let (unit, cs) ← hexUnit cs
  if isLeading unit then
    let cs ← expect ['\\', 'u'] cs
    let (second, cs) ← hexUnit cs
    if isTrailing second then return (Char.ofNat (pairedPoint unit second), cs) else none
  else if isTrailing unit then none
  else return (Char.ofNat unit, cs)

/-- Reads what follows a backslash. -/
def escape : Reader Char
  | [] => none
  | 'u' :: cs => pointEscape cs
  | c :: cs => (simpleEscape? c).map fun c => (c, cs)

/-- Reads the rest of a string up to the closing quotation mark. -/
def stringBody : (fuel : Nat) → Reader (List Char)
  | 0, _ => none
  | _ + 1, [] => none
  | fuel + 1, c :: cs =>
    if c = '"' then some ([], cs)
    else if c = '\\' then
      (escape cs).bind fun (c, cs) => (stringBody fuel cs).map fun (text, cs) => (c :: text, cs)
    else if c.toNat < 0x20 then none
    else (stringBody fuel cs).map fun (text, cs) => (c :: text, cs)

/-- Reads a string. -/
def string : Reader String
  | '"' :: cs => (stringBody (cs.length + 1) cs).map fun (text, cs) => (String.ofList text, cs)
  | _ => none

/-! ### Numbers -/

/-- Numbers have to be below this bound. -/
def naturalBound : Nat := Nat.pow 2 64

/-- Whether a number could go on here, with a point or an exponent. -/
def continuesNumber (cs : List Char) : Bool :=
  match cs with
  | [] => false
  | c :: _ => c.isDigit || c == '.' || c == 'e' || c == 'E'

/-- Reads a natural number: digits without a leading zero, and neither point nor
exponent. -/
def natural (cs : List Char) : Option (Nat × List Char) :=
  let digits :=
    match cs with
    | '0' :: _ => ['0']
    | cs => cs.takeWhile Char.isDigit
  let rest := cs.drop digits.length
  let n := numberOfDigits 10 digits
  if digits.isEmpty || continuesNumber rest || naturalBound ≤ n then none else some (n, rest)

/-! ### Values that are skipped -/

/-- Skips the rest of a string. -/
def skipStringBody : (fuel : Nat) → List Char → Option (List Char)
  | 0, _ => none
  | _ + 1, [] => none
  | fuel + 1, c :: cs =>
    if c = '"' then some cs
    else if c = '\\' then
      match cs with
      | 'u' :: cs => (hexUnit cs).bind fun (_, cs) => skipStringBody fuel cs
      | c :: cs => (simpleEscape? c).bind fun _ => skipStringBody fuel cs
      | [] => none
    else if c.toNat < 0x20 then none
    else skipStringBody fuel cs

/-- Skips at least one digit. -/
def skipDigits (cs : List Char) : Option (List Char) :=
  if (cs.takeWhile Char.isDigit).isEmpty then none else some (cs.dropWhile Char.isDigit)

/-- Skips the digits of a whole number without a leading zero. -/
def skipWhole : List Char → Option (List Char)
  | '0' :: c :: cs => if c.isDigit then none else some (c :: cs)
  | cs => skipDigits cs

/-- Skips a fraction, if there is one. -/
def skipFraction : List Char → Option (List Char)
  | '.' :: cs => skipDigits cs
  | cs => some cs

/-- Skips the sign of an exponent, if there is one. -/
def skipSign : List Char → List Char
  | '+' :: cs => cs
  | '-' :: cs => cs
  | cs => cs

/-- Skips an exponent, if there is one. -/
def skipExponent : List Char → Option (List Char)
  | 'e' :: cs => skipDigits (skipSign cs)
  | 'E' :: cs => skipDigits (skipSign cs)
  | cs => some cs

/-- Skips a number without its sign. -/
def skipUnsigned (cs : List Char) : Option (List Char) :=
  ((skipWhole cs).bind skipFraction).bind skipExponent

/-- Skips a value that is not made of others. -/
def skipScalar : List Char → Option (List Char)
  | '"' :: cs => skipStringBody (cs.length + 1) cs
  | '-' :: cs => skipUnsigned cs
  | 'n' :: cs => expect ['u', 'l', 'l'] cs
  | 't' :: cs => expect ['r', 'u', 'e'] cs
  | 'f' :: cs => expect ['a', 'l', 's', 'e'] cs
  | cs => skipUnsigned cs

/-- What is expected next, inside the arrays and objects that are still open. -/
inductive Expected where
  /-- A value. -/
  | value
  /-- The first value of an array, or its end. -/
  | firstItem
  /-- The first key of an object, or its end. -/
  | firstKey
  /-- A further key. -/
  | key
  /-- What follows a value. -/
  | next

/-- Skips a value, where `isObject` tells for each array or object that is still
open which of the two it is, the innermost first. -/
def skipFrom : (fuel : Nat) → Expected → (isObject : List Bool) → List Char →
    Option (List Char)
  | 0, _, _, _ => none
  | fuel + 1, expected, isObject, cs =>
    match expected, isObject with
    | .next, [] => some cs
    | .next, true :: outer =>
      match skipSpace cs with
      | ',' :: cs => skipFrom fuel .key (true :: outer) cs
      | '}' :: cs => skipFrom fuel .next outer cs
      | _ => none
    | .next, false :: outer =>
      match skipSpace cs with
      | ',' :: cs => skipFrom fuel .value (false :: outer) cs
      | ']' :: cs => skipFrom fuel .next outer cs
      | _ => none
    | .firstItem, isObject =>
      match skipSpace cs with
      | ']' :: cs => skipFrom fuel .next (isObject.drop 1) cs
      | cs => skipFrom fuel .value isObject cs
    | .firstKey, isObject =>
      match skipSpace cs with
      | '}' :: cs => skipFrom fuel .next (isObject.drop 1) cs
      | cs => skipFrom fuel .key isObject cs
    | .key, isObject =>
      match skipSpace cs with
      | '"' :: cs =>
        (skipStringBody (cs.length + 1) cs).bind fun cs =>
          (expect [':'] (skipSpace cs)).bind (skipFrom fuel .value isObject)
      | _ => none
    | .value, isObject =>
      match skipSpace cs with
      | '[' :: cs => skipFrom fuel .firstItem (false :: isObject) cs
      | '{' :: cs => skipFrom fuel .firstKey (true :: isObject) cs
      | cs => (skipScalar cs).bind (skipFrom fuel .next isObject)

/-- Skips a value of any kind.  Between two characters that are skipped there are
at most two steps. -/
def skipValue (cs : List Char) : Option (List Char) :=
  skipFrom (3 * cs.length + 3) .value [] cs

end SyntaxPaths.Json
