import SyntaxPaths.Toml.Scan

/-!
# Dates and times

A date is a day of the calendar, a time is a time of day with seconds, and a date
with a time may have an offset from universal time.  All parts have fixed widths
and ranges.

## Main definitions

* `date`, `timeOfDay`, `offset` — what is left behind each of the three parts
* `dateTime` — a reader for dates, times and both, which keeps the text

## Design notes

**Only the text is kept.**  No setting is a date.  What matters is where a date
ends and that it is one, so the readers of its parts yield only what is left.
-/

namespace SyntaxPaths.Toml

open Text

/-- Reads exactly `count` digits, whose value is to lie between the bounds. -/
def fixedDigits (count low high : Nat) (cs : List Char) : Option (Nat × List Char) :=
  let digits := cs.take count
  let value := numberOfDigits 10 digits
  if digits.length = count && digits.all Char.isDigit && low ≤ value && value ≤ high then
    some (value, cs.drop count)
  else none

/-- Whether a year has a day more than others. -/
def isLeapYear (year : Nat) : Bool :=
  year % 4 == 0 && (year % 100 != 0 || year % 400 == 0)

/-- The number of days of a month. -/
def daysIn (year month : Nat) : Nat :=
  if month == 2 then (if isLeapYear year then 29 else 28)
  else if month == 4 || month == 6 || month == 9 || month == 11 then 30
  else 31

/-- What follows a date. -/
def date (cs : List Char) : Option (List Char) := do
  let (year, cs) ← fixedDigits 4 0 9999 cs
  let cs ← expect ['-'] cs
  let (month, cs) ← fixedDigits 2 1 12 cs
  let cs ← expect ['-'] cs
  let (_, cs) ← fixedDigits 2 1 (daysIn year month) cs
  return cs

/-- A text without the fraction of a second at its front. -/
def skipFraction : List Char → List Char
  | '.' :: c :: cs => if c.isDigit then cs.dropWhile Char.isDigit else '.' :: c :: cs
  | cs => cs

/-- What follows a time of day.  A minute may have a leap second. -/
def timeOfDay (cs : List Char) : Option (List Char) := do
  let (_, cs) ← fixedDigits 2 0 23 cs
  let cs ← expect [':'] cs
  let (_, cs) ← fixedDigits 2 0 59 cs
  let cs ← expect [':'] cs
  let (_, cs) ← fixedDigits 2 0 60 cs
  return skipFraction cs

/-- What follows an offset from universal time. -/
def offset : List Char → Option (List Char)
  | 'Z' :: cs | 'z' :: cs => some cs
  | '+' :: cs | '-' :: cs => do
    let (_, cs) ← fixedDigits 2 0 23 cs
    let cs ← expect [':'] cs
    let (_, cs) ← fixedDigits 2 0 59 cs
    return cs
  | _ => none

/-- What follows a time behind a date, if there is one, with its offset, if there
is one. -/
def skipTimeBehindDate (cs : List Char) : List Char :=
  match cs with
  | c :: rest =>
    if c == 'T' || c == 't' || c == ' ' then
      match timeOfDay rest with
      | some rest => (offset rest).getD rest
      | none => cs
    else cs
  | [] => []

/-- Reads a date, a time of day, or a date with a time. -/
def dateTime (cs : List Char) : Option (String × List Char) :=
  let rest? :=
    match date cs with
    | some rest => some (skipTimeBehindDate rest)
    | none => timeOfDay cs
  rest?.map fun rest => (String.ofList (cs.take (cs.length - rest.length)), rest)

end SyntaxPaths.Toml
