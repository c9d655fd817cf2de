import SyntaxPaths.Proofs.Extraction.Tiers

/-!
# Which pairs are sampled

A sample of leaf paths does not say from which pairs of root paths its paths come.  That is
said here, for root paths that are given by items of any kind (places of root paths in a
list, terminals of a tree): the same quota is filled, from the same stream, with the pairs
themselves (`samplePairs`), and the sampled leaf paths are those of the sampled pairs
(`map_some_sampleLeafPathsFrom`).

What is sampled then depends on two things only: between which pairs a leaf path leads, and
which anchors have several sub-tokens (`samplePairs_congr`).  The labels in the paths are not
among them.
-/

namespace SyntaxPaths

open Randomness

variable {ι : Type}

theorem pairsByPlace_map {κ : Type} (f : ι → κ) (items : List ι) :
    pairsByPlace (items.map f) = (pairsByPlace items).map (Prod.map f f) := by
  rw [← pairs_eq_pairsByPlace, ← pairs_eq_pairsByPlace]
  induction items with
  | nil => rfl
  | cons item items ih =>
      rw [List.map_cons, pairs, pairs, ih, List.map_append, List.map_map, List.map_map]
      rfl

theorem mem_of_mem_pairsByPlace {items : List ι} {pair : ι × ι} (h : pair ∈ pairsByPlace items) :
    pair.1 ∈ items ∧ pair.2 ∈ items :=
  mem_of_mem_pairs (pairs_eq_pairsByPlace items ▸ h)

/-! ### Pairs of items -/

/-- The leaf path between the root paths of two items, if there is one. -/
def pathBetween? (shape : LeafPathShape) (path : ι → RootPath) (pair : ι × ι) :
    Option LeafPath :=
  leafPath? shape (path pair.1) (path pair.2)

/-- How many anchors in the root paths of two items have several sub-tokens. -/
def pairRank (path : ι → RootPath) (pair : ι × ι) : Nat :=
  multiTokenCount (path pair.1, path pair.2)

/-- The pairs of an item and a later one between which a leaf path leads, in three tiers, the
best first. -/
def pairTiers (shape : LeafPathShape) (path : ι → RootPath) (items : List ι) :
    List (List (ι × ι)) :=
  [2, 1, 0].map fun rank =>
    (pairsByPlace items).filter fun pair =>
      (pathBetween? shape path pair).isSome && pairRank path pair = rank

/-- **The sampled pairs** of items, with what is left of the stream: the quota is filled with
pairs instead of paths. -/
def samplePairs (settings : Settings) (path : ι → RootPath) (items : List ι)
    (stream : WordStream) : List (ι × ι) × WordStream :=
  fillQuota chooseIndices (pairTiers settings.leafPathShape path items)
    settings.leafPathQuotaOrDefault stream

/-! ### Paths of pairs -/

theorem map_some_filterMap {α β : Type} {f : α → Option β} {items : List α}
    (h : ∀ item ∈ items, (f item).isSome = true) :
    (items.filterMap f).map some = items.map f := by
  induction items with
  | nil => rfl
  | cons item items ih =>
      obtain ⟨hitem, hitems⟩ := List.forall_mem_cons.mp h
      obtain ⟨image, himage⟩ := Option.isSome_iff_exists.mp hitem
      rw [List.filterMap_cons_some himage, List.map_cons, List.map_cons, ih hitems, himage]

/-- A complete tier holds the leaf paths of the pairs in the tier. -/
theorem map_some_tierOf (shape : LeafPathShape) (path : ι → RootPath) (rank : Nat)
    (pairs : List (ι × ι)) :
    (tierOf rank ((pairs.map (Prod.map path path)).filterMap (rankedPath? shape))).map some =
      (pairs.filter fun pair =>
        (pathBetween? shape path pair).isSome && pairRank path pair = rank).map
          (pathBetween? shape path) := by
  rw [tierOf_filterMap_rankedPath?, map_some_filterMap, List.filter_map, List.filter_map,
    List.map_map, List.filter_filter]
  · apply congrArg (List.map _)
    apply List.filter_congr
    intro pair _
    rw [Bool.and_comm]
    rfl
  · intro pair hpair
    exact (List.mem_filter.mp (List.mem_filter.mp hpair).1).2

theorem map_some_completeTiers (shape : LeafPathShape) (path : ι → RootPath) (items : List ι) :
    (completeTiers shape (items.map path)).map (List.map some) =
      (pairTiers shape path items).map (List.map (pathBetween? shape path)) := by
  simp only [completeTiers, pairTiers, pairsByPlace_map, List.map_cons, List.map_nil,
    map_some_tierOf]

/-- **The sampled leaf paths are those of the sampled pairs**, and the same words of the
stream are drawn for both. -/
theorem map_some_sampleLeafPathsFrom (settings : Settings) (path : ι → RootPath)
    (items : List ι) (session : Session) (stream : WordStream) :
    let sample := sampleLeafPathsFrom settings (items.map path) session stream
    let chosen := samplePairs settings path items stream
    sample.paths.map some = chosen.1.map (pathBetween? settings.leafPathShape path) ∧
      sample.stream = chosen.2 := by
  intro sample chosen
  have hfill := fillQuota_gatherTiers settings.leafPathShape settings.leafPathQuotaOrDefault
    (items.map path) stream
  -- Paths and pairs have one image: each path is the one of its pair.
  have hpaths := fillQuota_map chooseIndices some
    (completeTiers settings.leafPathShape (items.map path)) settings.leafPathQuotaOrDefault stream
  have hpairs := fillQuota_map chooseIndices (pathBetween? settings.leafPathShape path)
    (pairTiers settings.leafPathShape path items) settings.leafPathQuotaOrDefault stream
  rw [map_some_completeTiers, hpairs, ← hfill] at hpaths
  obtain ⟨hpaths, hstream⟩ := Prod.mk.inj hpaths
  exact ⟨hpaths.symm, hstream.symm⟩

/-- **What decides about the sampled pairs**: between which of them leaf paths lead, which
anchors have several sub-tokens, and the quota. -/
theorem samplePairs_congr {settings settings' : Settings} {path path' : ι → RootPath}
    {items : List ι}
    (hquota : settings.leafPathQuotaOrDefault = settings'.leafPathQuotaOrDefault)
    (hsome : ∀ pair ∈ pairsByPlace items,
      (pathBetween? settings.leafPathShape path pair).isSome =
        (pathBetween? settings'.leafPathShape path' pair).isSome)
    (hmulti : ∀ item ∈ items, (path item).isMultiToken = (path' item).isMultiToken)
    (stream : WordStream) :
    samplePairs settings path items stream = samplePairs settings' path' items stream := by
  have htiers : pairTiers settings.leafPathShape path items =
      pairTiers settings'.leafPathShape path' items := by
    apply List.map_congr_left
    intro rank _
    apply List.filter_congr
    intro pair hpair
    obtain ⟨hleft, hright⟩ := mem_of_mem_pairsByPlace hpair
    have hrank : pairRank path pair = pairRank path' pair := by
      simp only [pairRank, multiTokenCount, List.countP_cons, List.countP_nil,
        hmulti _ hleft, hmulti _ hright]
    rw [hsome pair hpair, hrank]
  unfold samplePairs
  rw [htiers, hquota]

end SyntaxPaths
