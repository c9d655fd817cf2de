import SyntaxPaths.Position

/-!
# Labels and their marks

A marked label is a label with the mark of a node behind it.  Two functions read a
marked label, and they differ when the label itself holds the delimiter of marks.

* `Label.unmark` cuts at the *last* delimiter.  A mark holds only one, at its
  front, so this takes away the mark and nothing else.
* `Label.stem` cuts at the *first* delimiter.  Of a label with a delimiter inside
  it keeps only the beginning.
-/

namespace SyntaxPaths.Label

/-- The characters before the last mark delimiter, if there is one. -/
def beforeLastDelimiter : List Char → Option (List Char)
  | [] => none
  | c :: cs =>
    match beforeLastDelimiter cs with
    | some front => some (c :: front)
    | none => if c = markDelimiter then some [] else none

/-- A label without its mark: the text before the last delimiter, or all of it. -/
def unmark (s : String) : String :=
  match beforeLastDelimiter s.toList with
  | some front => String.ofList front
  | none => s

/-- The text before the first delimiter, or all of it. -/
def stem (s : String) : String :=
  String.ofList (s.toList.takeWhile (· ≠ markDelimiter))

@[simp] theorem beforeLastDelimiter_nil : beforeLastDelimiter [] = none := rfl

theorem beforeLastDelimiter_cons (c : Char) (cs : List Char) :
    beforeLastDelimiter (c :: cs) =
      match beforeLastDelimiter cs with
      | some front => some (c :: front)
      | none => if c = markDelimiter then some [] else none := rfl

theorem toList_unmark (s : String) :
    (unmark s).toList = (beforeLastDelimiter s.toList).getD s.toList := by
  unfold unmark
  cases beforeLastDelimiter s.toList <;> simp

@[simp] theorem toList_stem (s : String) :
    (stem s).toList = s.toList.takeWhile (· ≠ markDelimiter) := by
  simp [stem]

end SyntaxPaths.Label
