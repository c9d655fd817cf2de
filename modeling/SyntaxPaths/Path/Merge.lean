import SyntaxPaths.Style

/-!
# Where two root paths meet

Two lists of ancestors that start at the same root run together for a while and
then part.  The last label that they share is their meeting point; from the first
terminal one climbs up to it, and from there one descends to the second.

## Main definitions

* `Merge` — the two legs and the meeting point
* `merge?` — the merge of two lists of labels, if they share a root
* `Merge.qualifies` — whether a merge is short and balanced enough
* `Merge.middle` — what is written between the two terminals
-/

namespace SyntaxPaths

/-- Two lists of labels, split at their longest common beginning. -/
structure Merge where
  /-- The labels of the first list below the meeting point, the innermost first. -/
  upward : List String
  /-- The last shared label. -/
  summit : String
  /-- The labels of the second list below the meeting point, the outermost first. -/
  downward : List String
  deriving DecidableEq, Repr

/-- **The merge of two lists of labels**, both with the root first.  Lists that
differ in their first labels have no meeting point, and neither has an empty list. -/
def merge? : List String → List String → Option Merge
  | a :: u, b :: v =>
    if a = b then
      match merge? u v with
      | some merge => some merge
      | none => some { upward := u.reverse, summit := a, downward := v }
    else none
  | _, _ => none

namespace Merge

/-- The difference between the lengths of the two legs. -/
def imbalance (merge : Merge) : Nat :=
  (merge.upward.length - merge.downward.length) + (merge.downward.length - merge.upward.length)

/-- The number of labels on the way, the meeting point included. -/
def length (merge : Merge) : Nat :=
  merge.upward.length + 1 + merge.downward.length

/-- Whether both legs have labels, their lengths differ by `width` at most, and
there are at most `length` labels on the way. -/
def qualifies (merge : Merge) (width length : Nat) : Bool :=
  1 ≤ merge.upward.length && 1 ≤ merge.downward.length && merge.imbalance ≤ width &&
    merge.length ≤ length

/-- The token for a step towards the root. -/
def up : String := "U"

/-- The token for a step away from the root. -/
def down : String := "D"

/-- What is written between the two terminals in the given style. -/
def middle (merge : Merge) : PathStyle → List String
  | .labels => merge.upward ++ merge.summit :: merge.downward
  | .moves => List.replicate merge.upward.length up ++ List.replicate merge.downward.length down
  | .labelsAndMoves =>
    (merge.upward.flatMap fun label => [label, up]) ++ merge.summit ::
      merge.downward.flatMap fun label => [down, label]

end Merge

@[simp] theorem merge?_nil_left (v : List String) : merge? [] v = none := by
  simp [merge?]

@[simp] theorem merge?_nil_right (u : List String) : merge? u [] = none := by
  cases u <;> simp [merge?]

theorem merge?_cons_cons (a b : String) (u v : List String) :
    merge? (a :: u) (b :: v) =
      if a = b then
        match merge? u v with
        | some merge => some merge
        | none => some { upward := u.reverse, summit := a, downward := v }
      else none := rfl

end SyntaxPaths
