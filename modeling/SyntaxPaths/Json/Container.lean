import SyntaxPaths.Json.Scan

/-!
# Objects and arrays of JSON texts

An object is read field by field.  What is known so far is handed to the reader of
the next field, which adds to it or refuses; so the order of the fields does not
matter.

## Main definitions

* `object` — a reader for objects, given one for fields
* `array` — a reader for arrays, given one for items
* `once` — a reader for a field that must not be given twice
-/

namespace SyntaxPaths.Json

open Text

/-- How deep objects and arrays may be nested. -/
def nestingLimit : Nat := 127

/-- Reads a value behind blanks. -/
def spaced {α : Type} (read : Reader α) : Reader α :=
  fun cs => read (skipSpace cs)

/-- Reads the fields of an object up to its end, behind its first brace or a
comma.  A field changes what is known so far, or is refused. -/
def fields {σ : Type} (field : String → σ → Reader σ) : (fuel : Nat) → σ → Reader σ
  | 0, _, _ => none
  | fuel + 1, known, cs =>
    (spaced string cs).bind fun (name, cs) =>
      (expect [':'] (skipSpace cs)).bind fun cs =>
        (field name known (skipSpace cs)).bind fun (known, cs) =>
          match skipSpace cs with
          | ',' :: cs => fields field fuel known cs
          | '}' :: cs => some (known, cs)
          | _ => none

/-- Reads an object behind its brace. -/
def object {σ : Type} (field : String → σ → Reader σ) (known : σ) (cs : List Char) :
    Option (σ × List Char) :=
  match skipSpace cs with
  | '}' :: cs => some (known, cs)
  | cs => fields field (cs.length + 1) known cs

/-- Reads the items of an array up to its end, behind its bracket or a comma. -/
def items {α : Type} (item : Reader α) : (fuel : Nat) → Reader (List α)
  | 0, _ => none
  | fuel + 1, cs =>
    (item (skipSpace cs)).bind fun (first, cs) =>
      match skipSpace cs with
      | ',' :: cs => (items item fuel cs).map fun (rest, cs) => (first :: rest, cs)
      | ']' :: cs => some ([first], cs)
      | _ => none

/-- Reads an array. -/
def array {α : Type} (item : Reader α) : Reader (List α)
  | '[' :: cs =>
    match skipSpace cs with
    | ']' :: cs => some ([], cs)
    | cs => items item (cs.length + 1) cs
  | _ => none

/-- Reads a value that is to be put where nothing is known yet. -/
def once {α : Type} (known : Option α) (read : Reader α) : Reader α :=
  fun cs => if known.isSome then none else read cs

end SyntaxPaths.Json
