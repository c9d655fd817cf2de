import Mathlib.Algebra.Order.Field.Basic
import Mathlib.Algebra.Order.Field.Rat
import Mathlib.Data.Finset.Card
import Mathlib.Data.Rat.Cast.Order
import SyntaxPaths.Coverage

/-!
# Counting different labels

The coverage of a session compares numbers of different items.  Such a number depends only
on which items occur (`distinctCount_congr`), grows with them (`distinctCount_mono`), and
shrinks under a function that maps different items to one (`distinctCount_map_eq_iff`).
A ratio of two such numbers is then at most one as soon as every item that is counted above
the line is counted below it (`Session.linkRatio_le_one`, `Session.labelRatio_le_one`).
-/

namespace SyntaxPaths

/-! ### Different items -/

section Distinct

variable {α β : Type} [DecidableEq α] [DecidableEq β]

/-- Of repeated items the last one is kept. -/
theorem distinct_eq_dedup (items : List α) : distinct items = items.dedup := by
  induction items with
  | nil => rfl
  | cons item items ih =>
      rw [distinct, ih]
      split
      · next hmem => exact (List.dedup_cons_of_mem' hmem).symm
      · next hmem => exact (List.dedup_cons_of_notMem' hmem).symm

theorem distinctCount_eq_card (items : List α) : distinctCount items = items.toFinset.card := by
  rw [distinctCount, distinct_eq_dedup, List.card_toFinset]

theorem toFinset_subset_toFinset {items items' : List α} (h : items ⊆ items') :
    items.toFinset ⊆ items'.toFinset := by
  intro item hitem
  rw [List.mem_toFinset] at hitem ⊢
  exact h hitem

/-- A list with more items has no fewer different ones. -/
theorem distinctCount_mono {items items' : List α} (h : items ⊆ items') :
    distinctCount items ≤ distinctCount items' := by
  rw [distinctCount_eq_card, distinctCount_eq_card]
  exact Finset.card_le_card (toFinset_subset_toFinset h)

/-- How often an item occurs and where does not matter. -/
theorem distinctCount_congr {items items' : List α} (h : ∀ item, item ∈ items ↔ item ∈ items') :
    distinctCount items = distinctCount items' :=
  Nat.le_antisymm (distinctCount_mono fun item => (h item).mp)
    (distinctCount_mono fun item => (h item).mpr)

theorem distinctCount_le_length (items : List α) : distinctCount items ≤ items.length := by
  rw [distinctCount_eq_card]
  exact List.toFinset_card_le items

theorem distinctCount_append_le (front back : List α) :
    distinctCount (front ++ back) ≤ distinctCount front + distinctCount back := by
  rw [distinctCount_eq_card, distinctCount_eq_card, distinctCount_eq_card, List.toFinset_append]
  exact Finset.card_union_le _ _

theorem distinctCount_pos {items : List α} (h : items ≠ []) : 0 < distinctCount items := by
  obtain ⟨item, hitem⟩ := List.exists_mem_of_ne_nil items h
  rw [distinctCount_eq_card, Finset.card_pos]
  exact ⟨item, List.mem_toFinset.mpr hitem⟩

theorem distinctCount_eq_zero_iff {items : List α} : distinctCount items = 0 ↔ items = [] := by
  rw [distinctCount_eq_card, Finset.card_eq_zero, List.toFinset_eq_empty_iff]

/-- There is one different item at most if all items are the same. -/
theorem distinctCount_le_one_iff {items : List α} :
    distinctCount items ≤ 1 ↔ ∀ x ∈ items, ∀ y ∈ items, x = y := by
  rw [distinctCount_eq_card, Finset.card_le_one]
  simp only [List.mem_toFinset]

theorem distinctCount_of_nodup {items : List α} (h : items.Nodup) :
    distinctCount items = items.length := by
  rw [distinctCount_eq_card, List.toFinset_card_of_nodup h]

theorem distinctCount_append_of_disjoint {front back : List α} (h : front.Disjoint back) :
    distinctCount (front ++ back) = distinctCount front + distinctCount back := by
  rw [distinctCount_eq_card, distinctCount_eq_card, distinctCount_eq_card, List.toFinset_append,
    Finset.card_union_of_disjoint (List.disjoint_toFinset_iff_disjoint.mpr h)]

/-- Without an item that occurs there is one different item less. -/
theorem distinctCount_filter_ne {items : List α} {item : α} (h : item ∈ items) :
    distinctCount (items.filter (· ≠ item)) + 1 = distinctCount items := by
  have herase : (items.filter (· ≠ item)).toFinset = items.toFinset.erase item := by
    ext other
    simp [and_comm]
  rw [distinctCount_eq_card, distinctCount_eq_card, herase,
    Finset.card_erase_add_one (List.mem_toFinset.mpr h)]

theorem toFinset_map_eq_image (f : α → β) (items : List α) :
    (items.map f).toFinset = items.toFinset.image f := by
  ext item
  simp

theorem distinctCount_map_le (f : α → β) (items : List α) :
    distinctCount (items.map f) ≤ distinctCount items := by
  rw [distinctCount_eq_card, distinctCount_eq_card, toFinset_map_eq_image]
  exact Finset.card_image_le

/-- Further items add at most as many different ones as there are. -/
theorem distinctCount_map_le_add {α : Type} (f : α → β) {items known further : List α}
    (h : items ⊆ known ++ further) :
    distinctCount (items.map f) ≤ distinctCount (known.map f) + distinctCount (further.map f) := by
  have hmap := List.map_subset f h
  rw [List.map_append] at hmap
  exact Nat.le_trans (distinctCount_mono hmap) (distinctCount_append_le _ _)

/-- Further items add nothing if they look like items that are known. -/
theorem distinctCount_map_le_of_known {α : Type} (f : α → β) {items known further : List α}
    (h : items ⊆ known ++ further) (hknown : ∀ item ∈ further, f item ∈ known.map f) :
    distinctCount (items.map f) ≤ distinctCount (known.map f) := by
  refine distinctCount_mono fun image himage => ?_
  obtain ⟨item, hitem, rfl⟩ := List.mem_map.mp himage
  rcases List.mem_append.mp (h hitem) with hmem | hmem
  · exact List.mem_map_of_mem hmem
  · exact hknown item hmem

/-- **No item is lost under a function** exactly if it keeps different items apart. -/
theorem distinctCount_map_eq_iff (f : α → β) (items : List α) :
    distinctCount (items.map f) = distinctCount items ↔
      ∀ x ∈ items, ∀ y ∈ items, f x = f y → x = y := by
  rw [distinctCount_eq_card, distinctCount_eq_card, toFinset_map_eq_image, Finset.card_image_iff]
  constructor
  · intro hinj x hx y hy heq
    exact hinj (List.mem_toFinset.mpr hx) (List.mem_toFinset.mpr hy) heq
  · intro hapart x hx y hy heq
    exact hapart x (List.mem_toFinset.mp hx) y (List.mem_toFinset.mp hy) heq

/-- **There are as many images as items that are the first with theirs.** -/
theorem distinctCount_map_eq_length {f : Nat → β} {items firsts : List Nat}
    (hnodup : firsts.Nodup)
    (hfirsts : ∀ i, i ∈ firsts ↔ i ∈ items ∧ ∀ j ∈ items, f j = f i → i ≤ j) :
    distinctCount (items.map f) = firsts.length := by
  have himages : ∀ image, image ∈ items.map f ↔ image ∈ firsts.map f := by
    intro image
    rw [List.mem_map, List.mem_map]
    constructor
    · rintro ⟨i, hi, rfl⟩
      have hexists : ∃ j, j ∈ items ∧ f j = f i := ⟨i, hi, rfl⟩
      obtain ⟨hmem, heq⟩ := Nat.find_spec hexists
      refine ⟨Nat.find hexists, (hfirsts _).mpr ⟨hmem, fun j hj hji => ?_⟩, heq⟩
      exact Nat.find_min' hexists ⟨hj, hji.trans heq⟩
    · rintro ⟨i, hi, rfl⟩
      exact ⟨i, ((hfirsts i).mp hi).1, rfl⟩
  have hinj : ∀ i ∈ firsts, ∀ j ∈ firsts, f i = f j → i = j := by
    intro i hi j hj heq
    obtain ⟨hmem, hle⟩ := (hfirsts i).mp hi
    obtain ⟨hmem', hle'⟩ := (hfirsts j).mp hj
    exact Nat.le_antisymm (hle j hmem' heq.symm) (hle' i hmem heq)
  rw [distinctCount_congr himages, (distinctCount_map_eq_iff f firsts).mpr hinj,
    distinctCount_of_nodup hnodup]

end Distinct

/-! ### Labels -/

section Labels

variable {terminals terminals' nonterminals nonterminals' : List String}

theorem linkCount_eq_card (terminals nonterminals : List String) :
    linkCount terminals nonterminals = terminals.toFinset.card + nonterminals.toFinset.card := by
  rw [linkCount, distinctCount_eq_card, distinctCount_eq_card]

theorem linkCount_mono (hterminals : terminals ⊆ terminals')
    (hnonterminals : nonterminals ⊆ nonterminals') :
    linkCount terminals nonterminals ≤ linkCount terminals' nonterminals' :=
  Nat.add_le_add (distinctCount_mono hterminals) (distinctCount_mono hnonterminals)

theorem linkCount_congr (hterminals : ∀ label, label ∈ terminals ↔ label ∈ terminals')
    (hnonterminals : ∀ label, label ∈ nonterminals ↔ label ∈ nonterminals') :
    linkCount terminals nonterminals = linkCount terminals' nonterminals' := by
  rw [linkCount, linkCount, distinctCount_congr hterminals, distinctCount_congr hnonterminals]

/-- **Fewer than two labels** are one anchor, if there is an anchor at all. -/
theorem linkCount_lt_two_iff (hne : terminals ≠ []) :
    linkCount terminals nonterminals < 2 ↔
      (∀ x ∈ terminals, ∀ y ∈ terminals, x = y) ∧ nonterminals = [] := by
  have hpos := distinctCount_pos hne
  rw [← distinctCount_le_one_iff, ← distinctCount_eq_zero_iff, linkCount]
  omega

theorem labelCount_mono (hterminals : terminals ⊆ terminals')
    (hnonterminals : nonterminals ⊆ nonterminals') :
    labelCount terminals nonterminals ≤ labelCount terminals' nonterminals' :=
  Nat.add_le_add (distinctCount_mono (List.map_subset Label.stem hterminals))
    (distinctCount_mono (List.map_subset Label.stem hnonterminals))

theorem labelCount_congr (hterminals : ∀ label, label ∈ terminals ↔ label ∈ terminals')
    (hnonterminals : ∀ label, label ∈ nonterminals ↔ label ∈ nonterminals') :
    labelCount terminals nonterminals = labelCount terminals' nonterminals' :=
  Nat.le_antisymm
    (labelCount_mono (fun label => (hterminals label).mp) fun label => (hnonterminals label).mp)
    (labelCount_mono (fun label => (hterminals label).mpr) fun label => (hnonterminals label).mpr)

/-- Where labels occur, labels without marks do. -/
theorem labelCount_pos (h : 0 < linkCount terminals nonterminals) :
    0 < labelCount terminals nonterminals := by
  by_cases hterminals : terminals = []
  · by_cases hnonterminals : nonterminals = []
    · rw [hterminals, hnonterminals] at h
      cases h
    · exact Nat.add_pos_right _ (distinctCount_pos (by simpa using hnonterminals))
  · exact Nat.add_pos_left (distinctCount_pos (by simpa using hterminals)) _

end Labels

/-! ### Ratios -/

namespace Ratio

theorem toRat_nonneg {ratio : Ratio} (h : 0 ≤ ratio.numerator) : 0 ≤ ratio.toRat :=
  div_nonneg (Int.cast_nonneg h) (Nat.cast_nonneg ratio.denominator)

/-- What is at most its divisor gives a quotient of one at most. -/
theorem toRat_le_one_iff {ratio : Ratio} (hpos : 0 < ratio.denominator) :
    ratio.toRat ≤ 1 ↔ ratio.numerator ≤ ratio.denominator := by
  rw [toRat, div_le_one (Nat.cast_pos.mpr hpos)]
  norm_cast

end Ratio

namespace Session

variable {session : Session} {eldestCount : Nat} {coverage : Coverage Ratio}

/-- There is a coverage only if there are two different labels, and then its ratios are
those of the session. -/
theorem coverage_eq_ok (h : session.coverage eldestCount = .ok coverage) :
    2 ≤ linkCount session.terminals session.nonterminals ∧
      coverage =
        { rootLinks := session.linkRatio session.rootTerminals session.rootNonterminals
          leafLinks := session.linkRatio session.leafTerminals session.leafNonterminals
          binaryLinks := { numerator := eldestCount, denominator := session.allLinks }
          rootNodes := session.labelRatio session.rootTerminals session.rootNonterminals
          leafNodes := session.labelRatio session.leafTerminals session.leafNonterminals } := by
  rw [Session.coverage] at h
  split at h
  · cases h
  · next hcount =>
      cases h
      exact ⟨Nat.not_lt.mp hcount, rfl⟩

/-- With two different labels there is a coverage. -/
theorem coverage_of_two_le (h : 2 ≤ linkCount session.terminals session.nonterminals)
    (eldestCount : Nat) :
    session.coverage eldestCount =
      .ok
        { rootLinks := session.linkRatio session.rootTerminals session.rootNonterminals
          leafLinks := session.linkRatio session.leafTerminals session.leafNonterminals
          binaryLinks := { numerator := eldestCount, denominator := session.allLinks }
          rootNodes := session.labelRatio session.rootTerminals session.rootNonterminals
          leafNodes := session.labelRatio session.leafTerminals session.leafNonterminals } :=
  if_neg (Nat.not_lt.mpr h)

/-- With two different labels there are links to cover. -/
theorem allLinks_pos (h : 2 ≤ linkCount session.terminals session.nonterminals) :
    0 < session.allLinks :=
  Nat.sub_pos_of_lt h

theorem allLabels_pos (h : 2 ≤ linkCount session.terminals session.nonterminals) :
    0 < session.allLabels :=
  labelCount_pos (Nat.lt_of_lt_of_le Nat.zero_lt_two h)

section Ratios

variable {terminals nonterminals : List String}

/-- **Links among those of the tree** are at most all of them. -/
theorem linkRatio_le_one (h : 2 ≤ linkCount session.terminals session.nonterminals)
    (hterminals : terminals ⊆ session.terminals)
    (hnonterminals : nonterminals ⊆ session.nonterminals) :
    (session.linkRatio terminals nonterminals).toRat ≤ 1 := by
  have hcount := linkCount_mono hterminals hnonterminals
  refine (Ratio.toRat_le_one_iff (allLinks_pos h)).mpr ?_
  show (linkCount terminals nonterminals : Int) - 1 ≤ session.allLinks
  rw [allLinks]
  omega

theorem labelRatio_nonneg : 0 ≤ (session.labelRatio terminals nonterminals).toRat :=
  Ratio.toRat_nonneg (Int.natCast_nonneg _)

/-- A ratio of labels is one at most, exactly if no more are counted than there are. -/
theorem labelRatio_le_one_iff (h : 2 ≤ linkCount session.terminals session.nonterminals) :
    (session.labelRatio terminals nonterminals).toRat ≤ 1 ↔
      labelCount terminals nonterminals ≤ session.allLabels := by
  rw [Ratio.toRat_le_one_iff (allLabels_pos h), labelRatio]
  exact Int.ofNat_le

/-- **Labels among those of the tree** are at most all of them. -/
theorem labelRatio_le_one (h : 2 ≤ linkCount session.terminals session.nonterminals)
    (hterminals : terminals ⊆ session.terminals)
    (hnonterminals : nonterminals ⊆ session.nonterminals) :
    (session.labelRatio terminals nonterminals).toRat ≤ 1 :=
  (labelRatio_le_one_iff h).mpr (labelCount_mono hterminals hnonterminals)

end Ratios

end Session

end SyntaxPaths
