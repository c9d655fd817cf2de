import SyntaxPaths.Proofs.Path.Merge

/-!
# Merging both ways

A merge splits two lists behind a shared beginning, where they part.  This describes it
completely: lists that begin with the same label have such a split, only one, and merging finds
it (`merge?_eq_some_iff`).  The beginning is then the longest that the lists share
(`Merge.IsSplit.prefix_shared`).

The description does not prefer one list to the other, although a merge writes down its two legs
in different directions.  So a split read from the other end is a split of the exchanged lists
(`Merge.IsSplit.mirror`), and merging these gives nothing else (`merge?_swap`).
-/

namespace SyntaxPaths

namespace Merge

/-- **A split of two lists behind a shared beginning.** -/
structure IsSplit (merge : Merge) (shared u v : List String) : Prop where
  /-- The beginning ends in the summit, so it is not empty. -/
  getLast?_shared : shared.getLast? = some merge.summit
  /-- The first list goes on with the way up, read downwards. -/
  left : u = shared ++ merge.upward.reverse
  /-- The second list goes on with the way down. -/
  right : v = shared ++ merge.downward
  /-- If both go on, they do so with different labels. -/
  apart : ∀ label ∈ merge.upward.getLast?, label ∉ merge.downward.head?

/-- The merge as it looks from the other end. -/
def mirror (merge : Merge) : Merge where
  upward := merge.downward.reverse
  summit := merge.summit
  downward := merge.upward.reverse

theorem qualifies_mirror (merge : Merge) (width length : Nat) :
    merge.mirror.qualifies width length = merge.qualifies width length := by
  have himbalance : merge.mirror.imbalance = merge.imbalance := by
    simp [imbalance, mirror, Nat.add_comm]
  have hlength : merge.mirror.length = merge.length := by
    simp only [Merge.length, mirror, List.length_reverse]
    omega
  rw [qualifies, qualifies, himbalance, hlength]
  simp only [mirror, List.length_reverse]
  rw [Bool.and_comm (decide (1 ≤ merge.downward.length))]

/-- The labels between the ends come in the opposite order. -/
theorem middle_labels_mirror (merge : Merge) :
    merge.mirror.middle .labels = (merge.middle .labels).reverse := by
  simp [middle, mirror]

end Merge

namespace Merge.IsSplit

variable {merge : Merge} {shared u v : List String}

/-- The two lists take the same part in a split. -/
theorem mirror (h : merge.IsSplit shared u v) : merge.mirror.IsSplit shared v u where
  getLast?_shared := h.getLast?_shared
  left := by
    rw [h.right, Merge.mirror, List.reverse_reverse]
  right := h.left
  apart := by
    intro label hdown hup
    rw [Merge.mirror, List.getLast?_reverse] at hdown
    rw [Merge.mirror, List.head?_reverse] at hup
    exact h.apart label hup hdown

/-- **A split is found** by merging. -/
theorem merge?_eq (h : merge.IsSplit shared u v) : merge? u v = some merge := by
  obtain ⟨front, rfl⟩ := List.getLast?_eq_some_iff.mp h.getLast?_shared
  have hpart : ∀ label ∈ merge.upward.reverse.head?, label ∉ merge.downward.head? := by
    intro label hlabel
    rw [List.head?_reverse] at hlabel
    exact h.apart label hlabel
  have hmerge := merge?_append front merge.summit hpart
  rw [List.reverse_reverse] at hmerge
  rw [h.left, h.right, List.append_assoc, List.append_assoc, List.singleton_append,
    List.singleton_append, hmerge]

/-- **No longer beginning is shared.** -/
theorem prefix_shared (h : merge.IsSplit shared u v) {front : List String} (hu : front <+: u)
    (hv : front <+: v) : front <+: shared := by
  have hshared : shared <+: u := h.left ▸ List.prefix_append shared _
  rcases List.prefix_or_prefix_of_prefix hu hshared with hle | ⟨more, rfl⟩
  · exact hle
  · cases more with
    | nil => exact ⟨[], by simp⟩
    | cons label more =>
        -- The label behind the beginning would be the next one of both lists.
        rw [h.left, List.prefix_append_right_inj] at hu
        rw [h.right, List.prefix_append_right_inj] at hv
        obtain ⟨back, hup⟩ := hu
        obtain ⟨back', hdown⟩ := hv
        refine absurd ?_ (h.apart label ?_)
        · rw [← hdown]
          rfl
        · rw [← List.head?_reverse, ← hup]
          rfl

end Merge.IsSplit

section Lists

variable {u v : List String}

/-- **Lists that begin with the same label** have a split. -/
theorem exists_isSplit (label : String) (u v : List String) :
    ∃ merge shared, Merge.IsSplit merge shared (label :: u) (label :: v) := by
  induction u generalizing label v with
  | nil =>
      exact ⟨{ upward := [], summit := label, downward := v }, [label],
        ⟨rfl, rfl, rfl, fun _ hlabel => nomatch hlabel⟩⟩
  | cons a u ih =>
      by_cases hhead : v.head? = some a
      · obtain ⟨rest, rfl⟩ := List.head?_eq_some_iff.mp hhead
        obtain ⟨merge, shared, hsplit⟩ := ih a rest
        refine ⟨merge, label :: shared, ?_⟩
        exact
          { getLast?_shared := by
              rw [List.getLast?_cons, hsplit.getLast?_shared]
              rfl
            left := congrArg (label :: ·) hsplit.left
            right := congrArg (label :: ·) hsplit.right
            apart := hsplit.apart }
      · refine ⟨{ upward := (a :: u).reverse, summit := label, downward := v }, [label], ?_⟩
        exact
          { getLast?_shared := rfl
            left := by simp
            right := rfl
            apart := by
              intro b hb hv
              rw [List.getLast?_reverse] at hb
              obtain rfl : a = b := Option.some.inj hb
              exact hhead hv }

/-- **Lists do not merge** if one of them is empty, or if their first labels differ. -/
theorem merge?_eq_none_iff : merge? u v = none ↔ u = [] ∨ v = [] ∨ u.head? ≠ v.head? := by
  cases u with
  | nil => simp
  | cons a u =>
      cases v with
      | nil => simp
      | cons b v =>
          by_cases hlabel : a = b
          · subst hlabel
            obtain ⟨merge, shared, hsplit⟩ := exists_isSplit a u v
            simp [hsplit.merge?_eq]
          · simp [merge?_cons_cons, hlabel]

/-- **Merging finds the only split.** -/
theorem merge?_eq_some_iff {merge : Merge} :
    merge? u v = some merge ↔ ∃ shared, merge.IsSplit shared u v := by
  constructor
  · intro hmerge
    have hsome : merge? u v ≠ none := hmerge ▸ Option.some_ne_none merge
    rw [ne_eq, merge?_eq_none_iff, not_or, not_or, not_not] at hsome
    obtain ⟨hu, hv, hhead⟩ := hsome
    obtain ⟨label, u, rfl⟩ := List.exists_cons_of_ne_nil hu
    obtain ⟨label', v, rfl⟩ := List.exists_cons_of_ne_nil hv
    obtain rfl : label = label' := Option.some.inj hhead
    obtain ⟨found, shared, hsplit⟩ := exists_isSplit label u v
    rw [hsplit.merge?_eq, Option.some.injEq] at hmerge
    exact ⟨shared, hmerge ▸ hsplit⟩
  · rintro ⟨shared, hsplit⟩
    exact hsplit.merge?_eq

/-- **Exchanged lists** have the same merge, seen from the other end. -/
theorem merge?_swap (u v : List String) : merge? v u = (merge? u v).map Merge.mirror := by
  cases hmerge : merge? u v with
  | none =>
      rw [Option.map_none, merge?_eq_none_iff]
      rcases merge?_eq_none_iff.mp hmerge with hu | hv | hhead
      · exact Or.inr (Or.inl hu)
      · exact Or.inl hv
      · exact Or.inr (Or.inr hhead.symm)
  | some merge =>
      obtain ⟨shared, hsplit⟩ := merge?_eq_some_iff.mp hmerge
      exact hsplit.mirror.merge?_eq

end Lists

/-- **Two merges of the same lists**, taken in the one and in the other order. -/
structure Merge.IsMirrorOf (merge' merge : Merge) : Prop where
  /-- They have the same summit. -/
  summit_eq : merge'.summit = merge.summit
  /-- What the one climbs the other descends, -/
  upward_eq : merge'.upward = merge.downward.reverse
  /-- and conversely. -/
  downward_eq : merge'.downward = merge.upward.reverse
  /-- They are within the same bounds. -/
  qualifies_eq (width length : Nat) :
    merge'.qualifies width length = merge.qualifies width length
  /-- The labels between the ends come in the opposite order. -/
  middle_eq : merge'.middle .labels = (merge.middle .labels).reverse

/-- **What merging two lists does**, in both orders. -/
structure MergesBothWays (u v : List String) : Prop where
  /-- Lists do not merge if one is empty, or if they begin with different labels. -/
  eq_none_iff : merge? u v = none ↔ u = [] ∨ v = [] ∨ u.head? ≠ v.head?
  /-- A merge is a split behind a shared beginning, and no other split is. -/
  eq_some_iff (merge : Merge) : merge? u v = some merge ↔ ∃ shared, merge.IsSplit shared u v
  /-- The lists share no longer beginning. -/
  longest {merge : Merge} {shared front : List String} : merge.IsSplit shared u v →
    front <+: u → front <+: v → front <+: shared
  /-- The exchanged lists do not merge in the same cases, -/
  swap_eq_none_iff : merge? v u = none ↔ merge? u v = none
  /-- and have the mirror image as their merge in all others. -/
  exists_mirror {merge : Merge} : merge? u v = some merge →
    ∃ merge', merge? v u = some merge' ∧ merge'.IsMirrorOf merge

/-- **Any two lists merge both ways.** -/
theorem mergesBothWays (u v : List String) : MergesBothWays u v where
  eq_none_iff := merge?_eq_none_iff
  eq_some_iff _ := merge?_eq_some_iff
  longest hsplit hu hv := hsplit.prefix_shared hu hv
  swap_eq_none_iff := by
    rw [merge?_swap u v, Option.map_eq_none_iff]
  exists_mirror := by
    intro merge hmerge
    refine ⟨merge.mirror, by rw [merge?_swap u v, hmerge]; rfl, ?_⟩
    exact
      { summit_eq := rfl
        upward_eq := rfl
        downward_eq := rfl
        qualifies_eq := merge.qualifies_mirror
        middle_eq := merge.middle_labels_mirror }

end SyntaxPaths
