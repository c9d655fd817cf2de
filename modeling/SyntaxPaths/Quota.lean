import SyntaxPaths.Randomness.Choice

/-!
# Filling a quota

Things that compete for a limited number of places are sorted into tiers.  The
tiers are served one after the other, each as long as there are places left; of a
tier that is too large for the places that are left, a random part is taken.

## Main definitions

* `sampleUpTo` — a random part of a list, or all of it
* `fillQuota` — the things that get a place
* `HasRoom`, `QuotaFault` — how large a table may be, and what happens otherwise
* `tryFillQuota` — the same in a table for all the places

## Design notes

**Order is kept and randomness is spared.**  A sample holds its items in the order
of the list, and a list that fits is taken whole, without a draw.  So as long as
nothing is scarce the result does not depend on the source of randomness at all.
Where it does, this is by way of a `Chooser` alone.

**A table before the places.**  What runs is `tryFillQuota`.  It sets up a table for
as many items as there are places, before it looks at any of them, and gives up if
no table is that large: a quota without end is not filled, however little there is to
fill it with.  Who gets a place in a table that could be made is said by `fillQuota`.
-/

namespace SyntaxPaths

open Randomness

/-- A table that holds `true` in the given places. -/
def maskOf (length : Nat) (chosen : List Nat) : Array Bool :=
  chosen.foldl (fun mask i => mask.setIfInBounds i true) (Array.replicate length false)

/-- The items whose places are marked. -/
def selectMarked {α : Type} : List α → List Bool → List α
  | item :: items, mark :: marks =>
    if mark then item :: selectMarked items marks else selectMarked items marks
  | _, _ => []

/-- **A sample.**  All items if there are at most `amount` of them, and otherwise
`amount` of them, chosen at random and in their order. -/
def sampleUpTo {α σ : Type} (choose : Chooser σ) (bucket : List α) (amount : Nat) (state : σ) :
    List α × σ :=
  if bucket.length ≤ amount then (bucket, state)
  else
    let (chosen, state) := choose bucket.length amount state
    (selectMarked bucket (maskOf bucket.length chosen).toList, state)

/-- **The items that get one of `margin` places**, where earlier tiers go first. -/
def fillQuota {α σ : Type} (choose : Chooser σ) : (tiers : List (List α)) → (margin : Nat) →
    σ → List α × σ
  | [], _, state => ([], state)
  | tier :: tiers, margin, state =>
    if margin = 0 then ([], state)
    else
      let (kept, state) := sampleUpTo choose tier margin state
      let (rest, state) := fillQuota choose tiers (margin - kept.length) state
      (kept ++ rest, state)

/-! ### The table -/

/-- So many bytes can be addressed, and no table is larger. -/
def tableLimit : Nat := Nat.pow 2 63 - 1

/-- A table can have so many places for items of `itemSize` bytes. -/
def HasRoom (itemSize places : Nat) : Prop :=
  itemSize * places ≤ tableLimit

instance (itemSize places : Nat) : Decidable (HasRoom itemSize places) :=
  inferInstanceAs (Decidable (_ ≤ _))

/-- The causes for which a quota is not filled. -/
inductive QuotaFault where
  /-- No table has so many places. -/
  | capacityOverflow
  deriving DecidableEq, Repr

/-- **A quota is filled in a table** for all its places, with items of `itemSize`
bytes. -/
def tryFillQuota {α σ : Type} (itemSize : Nat) (choose : Chooser σ) (tiers : List (List α))
    (quota : Nat) (state : σ) : Except QuotaFault (List α × σ) :=
  if HasRoom itemSize quota then .ok (fillQuota choose tiers quota state)
  else .error .capacityOverflow

section Lemmas

variable {α σ : Type} (choose : Chooser σ)

theorem sampleUpTo_of_length_le {bucket : List α} {amount : Nat} (h : bucket.length ≤ amount)
    (state : σ) : sampleUpTo choose bucket amount state = (bucket, state) := by
  simp [sampleUpTo, h]

@[simp] theorem fillQuota_nil (margin : Nat) (state : σ) :
    fillQuota choose ([] : List (List α)) margin state = ([], state) := rfl

@[simp] theorem fillQuota_zero (tiers : List (List α)) (state : σ) :
    fillQuota choose tiers 0 state = ([], state) := by
  cases tiers <;> rfl

theorem tryFillQuota_of_hasRoom {itemSize quota : Nat} (h : HasRoom itemSize quota)
    (tiers : List (List α)) (state : σ) :
    tryFillQuota itemSize choose tiers quota state = .ok (fillQuota choose tiers quota state) :=
  if_pos h

theorem tryFillQuota_of_not_hasRoom {itemSize quota : Nat} (h : ¬ HasRoom itemSize quota)
    (tiers : List (List α)) (state : σ) :
    tryFillQuota itemSize choose tiers quota state = .error .capacityOverflow :=
  if_neg h

end Lemmas

end SyntaxPaths
