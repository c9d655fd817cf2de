import SyntaxPaths.Proofs.Randomness.Choice
import SyntaxPaths.Quota

/-!
# How much of a quota is filled

A sample has exactly as many items as it may have.  The number is the same whatever is
chosen, although the items are not; they are items of the list in any case, and stand in
its order (`sampleUpTo_sublist`).  The number is all for which a chooser is needed that keeps
its promise (`Chooses`).

Which items these are depends on their number alone.  So sampling commutes with any function
of the items, and the same can be said of the things that items stand for
(`fillQuota_map`).

As long as everything fits, everything is kept, and nothing is left to chance
(`fillQuota_of_length_le`).  Filling stops where the places run out.  So the tiers behind
a front that is large enough are not looked at: neither their items nor their number
matter, and nothing is drawn for them (`fillQuota_append_congr`).
-/

namespace SyntaxPaths

open Randomness

variable {α σ : Type} {choose : Chooser σ}

/-! ### Samples -/

theorem foldl_setIfInBounds_size (chosen : List Nat) (mask : Array Bool) :
    (chosen.foldl (fun mask i => mask.setIfInBounds i true) mask).size = mask.size := by
  induction chosen generalizing mask with
  | nil => rfl
  | cons i chosen ih => rw [List.foldl_cons, ih, Array.size_setIfInBounds]

/-- Setting the chosen entries marks these, and keeps the others. -/
theorem foldl_setIfInBounds_getElem? (chosen : List Nat) (mask : Array Bool) {j : Nat}
    (h : j < mask.size) :
    (chosen.foldl (fun mask i => mask.setIfInBounds i true) mask)[j]? =
      if j ∈ chosen then some true else mask[j]? := by
  induction chosen generalizing mask with
  | nil => simp
  | cons i chosen ih =>
      rw [List.foldl_cons, ih _ (by rwa [Array.size_setIfInBounds])]
      by_cases hj : j ∈ chosen
      · rw [if_pos hj, if_pos (List.mem_cons_of_mem i hj)]
      · rw [if_neg hj]
        by_cases hij : i = j
        · subst hij
          rw [if_pos List.mem_cons_self, Array.getElem?_setIfInBounds_self_of_lt h]
        · rw [Array.getElem?_setIfInBounds_ne hij,
            if_neg (by simp [hj, Ne.symm hij])]

/-- A mask marks the chosen places and no other. -/
theorem toList_maskOf (length : Nat) (chosen : List Nat) :
    (maskOf length chosen).toList = (List.range length).map fun i => decide (i ∈ chosen) := by
  refine List.ext_getElem? fun j => ?_
  rw [Array.getElem?_toList, maskOf]
  by_cases hj : j < length
  · rw [foldl_setIfInBounds_getElem? chosen _ (by simpa using hj)]
    by_cases hmem : j ∈ chosen <;> simp [hj, hmem]
  · have hsize := foldl_setIfInBounds_size chosen (Array.replicate length false)
    rw [Array.size_replicate] at hsize
    rw [Array.getElem?_eq_none (by omega), List.getElem?_eq_none (by simp; omega)]

/-- As many items are selected as there are marks. -/
theorem length_selectMarked (items : List α) (marks : List Bool)
    (h : items.length = marks.length) :
    (selectMarked items marks).length = marks.count true := by
  induction items generalizing marks with
  | nil =>
      cases marks with
      | nil => rfl
      | cons mark marks => simp at h
  | cons item items ih =>
      cases marks with
      | nil => simp at h
      | cons mark marks =>
          have hlen := ih marks (by simpa using h)
          cases mark <;> simp [selectMarked, hlen]

/-- Marked items stay in their order. -/
theorem selectMarked_sublist (items : List α) (marks : List Bool) :
    (selectMarked items marks).Sublist items := by
  induction items generalizing marks with
  | nil => exact List.Sublist.refl []
  | cons item items ih =>
      cases marks with
      | nil => exact List.nil_sublist _
      | cons mark marks =>
          cases mark with
          | false => exact (ih marks).cons item
          | true => exact (ih marks).cons_cons item

/-- The mask of a choice has one mark for each index that was chosen. -/
theorem count_maskOf {length amount : Nat} {chosen : List Nat}
    (h : IsChoice length amount chosen) :
    (maskOf length chosen).toList.count true = amount := by
  -- The marked places are the chosen ones, in another order.
  have hperm : ((List.range length).filter (· ∈ chosen)).Perm chosen := by
    refine (List.perm_ext_iff_of_nodup (List.nodup_range.filter _) h.nodup).mpr fun i => ?_
    simp only [List.mem_filter, List.mem_range, decide_eq_true_eq, and_iff_right_iff_imp]
    exact h.lt i
  rw [toList_maskOf, List.count, List.countP_map, ← h.length_eq, ← hperm.length_eq,
    List.countP_eq_length_filter]
  congr 1
  refine List.filter_congr fun i _ => ?_
  simp

/-- **A sample is as large as it may be.** -/
theorem length_sampleUpTo (hchoose : Chooses choose) (bucket : List α) (amount : Nat)
    (state : σ) : (sampleUpTo choose bucket amount state).1.length = min bucket.length amount := by
  unfold sampleUpTo
  split
  · next h => simp [h]
  · next h =>
      have hchoice := hchoose bucket.length amount state (Nat.le_of_not_le h)
      -- The mask has one entry per item, so no mark is lost.
      have hsize : bucket.length =
          (maskOf bucket.length (choose bucket.length amount state).1).toList.length := by
        simp [toList_maskOf]
      simp only [length_selectMarked _ _ hsize, count_maskOf hchoice]
      omega

/-- **A sample is a part of its list**, in the same order. -/
theorem sampleUpTo_sublist (choose : Chooser σ) (bucket : List α) (amount : Nat) (state : σ) :
    (sampleUpTo choose bucket amount state).1.Sublist bucket := by
  unfold sampleUpTo
  split
  · exact List.Sublist.refl bucket
  · exact selectMarked_sublist bucket _

theorem selectMarked_map {β : Type} (f : α → β) (items : List α) (marks : List Bool) :
    selectMarked (items.map f) marks = (selectMarked items marks).map f := by
  induction items generalizing marks with
  | nil => rfl
  | cons item items ih =>
      cases marks with
      | nil => rfl
      | cons mark marks => cases mark <;> simp [selectMarked, ih]

/-- **Which items are sampled depends on their number alone**: a function of the items can be
applied before or after. -/
theorem sampleUpTo_map {β : Type} (choose : Chooser σ) (f : α → β) (bucket : List α)
    (amount : Nat) (state : σ) :
    sampleUpTo choose (bucket.map f) amount state =
      ((sampleUpTo choose bucket amount state).1.map f,
        (sampleUpTo choose bucket amount state).2) := by
  unfold sampleUpTo
  rw [List.length_map]
  split
  · rfl
  · simp only [selectMarked_map]

/-! ### Filling -/

theorem fillQuota_cons_of_pos (choose : Chooser σ) (tier : List α) (tiers : List (List α))
    {margin : Nat} (state : σ) (h : 0 < margin) :
    fillQuota choose (tier :: tiers) margin state =
      let kept := sampleUpTo choose tier margin state
      let rest := fillQuota choose tiers (margin - kept.1.length) kept.2
      (kept.1 ++ rest.1, rest.2) := by
  rw [fillQuota, if_neg (by omega)]

/-- **Nothing gets a place that is not in a tier**, and nothing gets two. -/
theorem fillQuota_sublist (choose : Chooser σ) (tiers : List (List α)) (margin : Nat)
    (state : σ) : (fillQuota choose tiers margin state).1.Sublist tiers.flatten := by
  induction tiers generalizing margin state with
  | nil => exact List.Sublist.refl []
  | cons tier tiers ih =>
      rcases Nat.eq_zero_or_pos margin with rfl | hpos
      · rw [fillQuota_zero]
        exact List.nil_sublist _
      · rw [fillQuota_cons_of_pos choose tier tiers state hpos, List.flatten_cons]
        exact (sampleUpTo_sublist choose tier margin state).append (ih _ _)

/-- **Tiers that fit into the quota together** are kept whole, one behind the other, and
nothing is drawn. -/
theorem fillQuota_of_length_le (choose : Chooser σ) (tiers : List (List α)) {margin : Nat}
    (state : σ) (h : tiers.flatten.length ≤ margin) :
    fillQuota choose tiers margin state = (tiers.flatten, state) := by
  induction tiers generalizing margin with
  | nil => rfl
  | cons tier tiers ih =>
      rw [List.flatten_cons, List.length_append] at h
      rcases Nat.eq_zero_or_pos margin with rfl | hpos
      · -- Without places there is nothing that could want one.
        have hnone : (tier :: tiers).flatten = [] := by
          rw [List.flatten_cons, ← List.length_eq_zero_iff, List.length_append]
          omega
        rw [fillQuota_zero, hnone]
      · have hkept : sampleUpTo choose tier margin state = (tier, state) :=
          sampleUpTo_of_length_le choose (by omega) state
        have hrest : fillQuota choose tiers (margin - tier.length) state =
            (tiers.flatten, state) := ih (by omega)
        simp only [fillQuota_cons_of_pos choose tier tiers state hpos, hkept, hrest,
          List.flatten_cons]

/-- **Who gets a place depends on the sizes of the tiers alone.** -/
theorem fillQuota_map {β : Type} (choose : Chooser σ) (f : α → β) (tiers : List (List α))
    (margin : Nat) (state : σ) :
    fillQuota choose (tiers.map (List.map f)) margin state =
      ((fillQuota choose tiers margin state).1.map f,
        (fillQuota choose tiers margin state).2) := by
  induction tiers generalizing margin state with
  | nil => rfl
  | cons tier tiers ih =>
      rcases Nat.eq_zero_or_pos margin with rfl | hpos
      · simp
      · simp only [List.map_cons, fillQuota_cons_of_pos _ _ _ state hpos, sampleUpTo_map,
          List.length_map, ih, List.map_append]

/-- **Tiers behind a front that fills the quota do not matter**, neither for what is
chosen nor for the state behind it. -/
theorem fillQuota_append_congr (hchoose : Chooses choose) (front back back' : List (List α))
    {margin : Nat} (state : σ) (h : margin ≤ front.flatten.length) :
    fillQuota choose (front ++ back) margin state =
      fillQuota choose (front ++ back') margin state := by
  induction front generalizing margin state with
  | nil =>
      have hzero : margin = 0 := by simpa using h
      subst hzero
      simp
  | cons tier front ih =>
      rcases Nat.eq_zero_or_pos margin with rfl | hpos
      · simp
      · -- The first tier leaves a margin that the rest of the front still fills.
        have hkept := length_sampleUpTo hchoose tier margin state
        rw [List.flatten_cons, List.length_append] at h
        simp only [List.cons_append, fillQuota_cons_of_pos _ _ _ state hpos]
        rw [ih _ (by omega)]

end SyntaxPaths
