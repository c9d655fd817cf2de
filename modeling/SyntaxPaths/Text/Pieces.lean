/-!
# Cutting a text at dividers

Several texts of this library are sequences written as one string with a divider
between the items: the sub-tokens of a value, the tokens of a path, the tokens of
a rendered tree.  Cutting such a text yields *all* its pieces, empty ones
included, so that a text with `n` dividers has `n + 1` pieces and the empty text
has one.

## Main definitions

* `cut` — the pieces of a text between the dividers
* `pieces` — the same for a string and a single divider
* `join` — strings with a divider between them
* `separator` — the divider of sub-tokens and of path tokens
-/

namespace SyntaxPaths.Text

/-- The pieces of a text between the characters that satisfy `divides`. -/
def cut (divides : Char → Bool) : List Char → List (List Char)
  | [] => [[]]
  | c :: cs =>
    if divides c then [] :: cut divides cs
    else
      match cut divides cs with
      | [] => [[c]]
      | piece :: rest => (c :: piece) :: rest

/-- The divider between the sub-tokens of a value and between the tokens of a
path. -/
def separator : Char := '|'

/-- The pieces of a string between the occurrences of a divider. -/
def pieces (divider : Char) (s : String) : List String :=
  (cut (· == divider) s.toList).map String.ofList

/-- The strings one after the other, with the separator between them. -/
def join (parts : List String) : String :=
  (String.singleton separator).intercalate parts

@[simp] theorem cut_nil (divides : Char → Bool) : cut divides [] = [[]] := rfl

theorem cut_ne_nil (divides : Char → Bool) (cs : List Char) : cut divides cs ≠ [] := by
  cases cs with
  | nil => simp
  | cons c cs =>
    unfold cut
    split
    · simp
    · split <;> simp

theorem cut_cons_of_divides {divides : Char → Bool} {c : Char} (h : divides c = true)
    (cs : List Char) : cut divides (c :: cs) = [] :: cut divides cs := by
  simp [cut, h]

/-- There is one piece more than there are dividers. -/
theorem length_cut (divides : Char → Bool) (cs : List Char) :
    (cut divides cs).length = cs.countP divides + 1 := by
  induction cs with
  | nil => rfl
  | cons c cs ih =>
    by_cases h : divides c = true
    · simp [cut_cons_of_divides h, ih, h]
    · have hne := cut_ne_nil divides cs
      cases hcut : cut divides cs with
      | nil => exact absurd hcut hne
      | cons piece rest => simp_all [cut]

end SyntaxPaths.Text
