import SyntaxPaths.Toml.Scan

/-!
# Strings and keys

A TOML string stands in quotation marks or in apostrophes, on one line or, with
three of them on either side, on several.  Escapes are read between quotation
marks only.  A key is a row of names with dots between them, and a name is bare or
quoted like a string on one line.

## Main definitions

* `escape` — a reader for what follows a backslash
* `lineBody`, `blockBody` — readers for the two lengths of strings
* `quotedString` — a reader for strings
* `key` — a reader for keys

## Design notes

**Quotes inside a block.**  One or two marks inside a string of several lines are
text.  At its end up to two further marks may stand before the three that close
it, and belong to the text.
-/

namespace SyntaxPaths.Toml

open Text

/-- The quotation mark, between two of which escapes are read. -/
def quotationMark : Char := '"'

/-- The apostrophe, between two of which all characters stand for themselves. -/
def apostrophe : Char := '\x27'

/-- The character that a single character behind a backslash stands for. -/
def simpleEscape? : Char → Option Char
  | 'b' => some '\x08'
  | 't' => some '\t'
  | 'n' => some '\n'
  | 'f' => some '\x0C'
  | 'r' => some '\r'
  | '"' => some '"'
  | '\\' => some '\\'
  | _ => none

/-- The character with a code point, which must not be a surrogate. -/
def charOfPoint? (n : Nat) : Option Char :=
  if n.isValidChar then some (Char.ofNat n) else none

/-- The character whose code point is written with exactly `count` hexadecimal
digits. -/
def pointEscape (count : Nat) (cs : List Char) : Option (Char × List Char) :=
  let digits := cs.take count
  if digits.length = count && digits.all isHexDigit then
    (charOfPoint? (numberOfDigits 16 digits)).map fun c => (c, cs.drop count)
  else none

/-- Reads what follows a backslash. -/
def escape : Reader Char
  | [] => none
  | 'u' :: cs => pointEscape 4 cs
  | 'U' :: cs => pointEscape 8 cs
  | c :: cs => (simpleEscape? c).map fun c => (c, cs)

/-- Whether a backslash is an escape between the given marks. -/
def hasEscapes (mark : Char) : Bool :=
  mark == quotationMark

/-- Reads the rest of a string on one line, up to the closing mark. -/
def lineBody (mark : Char) : (fuel : Nat) → Reader (List Char)
  | 0, _ => none
  | _ + 1, [] => none
  | fuel + 1, c :: cs =>
    if c = mark then some ([], cs)
    else if c = '\\' && hasEscapes mark then
      (escape cs).bind fun (c, cs) => (lineBody mark fuel cs).map fun (text, cs) => (c :: text, cs)
    else if isTextChar c then
      (lineBody mark fuel cs).map fun (text, cs) => (c :: text, cs)
    else none

/-- What follows a backslash at the end of a line, without the blanks and empty
lines there. -/
def skipContinuation? (cs : List Char) : Option (List Char) :=
  (skipLineEnd? (skipBlanks cs)).map skipEmptyLines

/-- Reads the rest of a string on several lines, up to the three closing marks.
Each end of a line becomes a line feed. -/
def blockBody (mark : Char) : (fuel : Nat) → Reader (List Char)
  | 0, _ => none
  | _ + 1, [] => none
  | fuel + 1, c :: cs =>
    let more := fun (front : List Char) (cs : List Char) =>
      (blockBody mark fuel cs).map fun (text, cs) => (front ++ text, cs)
    if c = mark then
      let run := ((c :: cs).takeWhile (· == mark)).length
      if run < 3 then more (List.replicate run mark) ((c :: cs).drop run)
      else
        let inner := min (run - 3) 2
        some (List.replicate inner mark, (c :: cs).drop (inner + 3))
    else if c = '\\' && hasEscapes mark then
      match skipContinuation? cs with
      | some cs => more [] cs
      | none => (escape cs).bind fun (c, cs) => more [c] cs
    else
      match skipLineEnd? (c :: cs) with
      | some cs => more ['\n'] cs
      | none => if isTextChar c then more [c] cs else none

/-- Reads a string between the given marks, where the first of them is already
read. -/
def lineString (mark : Char) (cs : List Char) : Option (String × List Char) :=
  (lineBody mark (cs.length + 1) cs).map fun (text, cs) => (String.ofList text, cs)

/-- Reads a string between three of the given marks, where the first three are
already read.  A line end right behind them is not part of it. -/
def blockString (mark : Char) (cs : List Char) : Option (String × List Char) :=
  let cs := (skipLineEnd? cs).getD cs
  (blockBody mark (cs.length + 1) cs).map fun (text, cs) => (String.ofList text, cs)

/-- Reads a string between the given marks, on one line or on several. -/
def stringBetween (mark : Char) (cs : List Char) : Option (String × List Char) :=
  match expect [mark, mark, mark] cs with
  | some cs => blockString mark cs
  | none => (expect [mark] cs).bind (lineString mark)

/-- Reads a string. -/
def quotedString (cs : List Char) : Option (String × List Char) :=
  match cs with
  | [] => none
  | c :: _ =>
    if c = quotationMark || c = apostrophe then stringBetween c cs else none

/-- A character of a bare name. -/
def isBareChar (c : Char) : Bool :=
  c.isAlphanum || c == '-' || c == '_'

/-- Reads one name of a key. -/
def keyName (cs : List Char) : Option (String × List Char) :=
  match cs with
  | [] => none
  | c :: rest =>
    if c = quotationMark || c = apostrophe then lineString c rest
    else
      let name := cs.takeWhile isBareChar
      if name.isEmpty then none else some (String.ofList name, cs.dropWhile isBareChar)

/-- Reads names with dots between them; blanks may stand around each of them. -/
def keyNames : (fuel : Nat) → Reader (List String)
  | 0, _ => none
  | fuel + 1, cs =>
    (keyName (skipBlanks cs)).bind fun (name, cs) =>
      match skipBlanks cs with
      | '.' :: cs => (keyNames fuel cs).map fun (names, cs) => (name :: names, cs)
      | cs => some ([name], cs)

/-- Keys have fewer names than this, and values are nested less deeply. -/
def nestingLimit : Nat := 80

/-- Reads a key: the names before the last one, and the last one. -/
def key (cs : List Char) : Option ((List String × String) × List Char) :=
  (keyNames (cs.length + 1) cs).bind fun (names, cs) =>
    if names.length < nestingLimit then
      names.getLast?.map fun name => ((names.dropLast, name), cs)
    else none

end SyntaxPaths.Toml
