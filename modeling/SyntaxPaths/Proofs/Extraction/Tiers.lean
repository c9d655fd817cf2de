import SyntaxPaths.Extraction
import SyntaxPaths.Proofs.Quota

/-!
# Passing over pairs loses nothing

While leaf paths are gathered, pairs are passed over that come too late for their
tier (`Tiers.isClosedTo`).  The tiers that result are not those of all pairs: a
closed tier may miss paths.  This file shows that nobody notices.

* `sampleAllLeafPathsFrom` is the procedure without any passing over: every pair
  is merged, each qualifying path goes to the tier of its anchors, and the quota is
  filled from the three complete tiers.
* `Tiers.Covers` says how the gathered tiers relate to the complete ones: a tier is
  complete, or the tiers in front of it fill the quota.

What is load-bearing is the number of paths, not which they are.  A tier misses
something only when the tiers in front of it are complete and large enough, and
then filling ends before it: no item of it is taken, and no random word is drawn
for it (`fillQuota_append_congr`).
-/

namespace SyntaxPaths

open Randomness

/-! ### The procedure without passing over -/

/-- All pairs of an item and a later one, by their places: the first item with all
behind it, then the second with all behind it, and so on. -/
def pairsByPlace {α : Type} (items : List α) : List (α × α) :=
  items.zipIdx.flatMap fun (item, i) => (items.drop (i + 1)).map (item, ·)

/-- How many anchors of two root paths have several sub-tokens. -/
def multiTokenCount (pair : RootPath × RootPath) : Nat :=
  [pair.1, pair.2].countP RootPath.isMultiToken

/-- The leaf path of a pair, if it qualifies, with the rank of its anchors. -/
def rankedPath? (shape : LeafPathShape) (pair : RootPath × RootPath) :
    Option (Nat × LeafPath) :=
  (leafPath? shape pair.1 pair.2).map (multiTokenCount pair, ·)

/-- The paths of one rank, in their order. -/
def tierOf (rank : Nat) (ranked : List (Nat × LeafPath)) : List LeafPath :=
  (ranked.filter (·.1 = rank)).map Prod.snd

/-- The three complete tiers of the qualifying paths between the given root paths,
the best first. -/
def completeTiers (shape : LeafPathShape) (roots : List RootPath) : List (List LeafPath) :=
  let ranked := (pairsByPlace roots).filterMap (rankedPath? shape)
  [tierOf 2 ranked, tierOf 1 ranked, tierOf 0 ranked]

/-- **Sampled leaf paths, with no pair passed over**: the quota is filled from the
complete tiers. -/
def sampleAllLeafPathsFrom (settings : Settings) (roots : List RootPath) (session : Session)
    (stream : WordStream) : Sampled LeafPath :=
  let (paths, stream) := fillQuota chooseIndices (completeTiers settings.leafPathShape roots)
    settings.leafPathQuotaOrDefault stream
  { paths, session := session.recordLeafPaths paths, stream }

theorem pairs_eq_pairsByPlace {α : Type} (items : List α) : pairs items = pairsByPlace items := by
  induction items with
  | nil => rfl
  | cons item items ih =>
      rw [pairs, ih, pairsByPlace, pairsByPlace, List.zipIdx_cons, List.zipIdx_succ,
        List.flatMap_cons, List.flatMap_map]
      rfl

@[simp] theorem tierOf_nil (rank : Nat) : tierOf rank [] = [] := rfl

theorem mem_of_mem_pairs {α : Type} {items : List α} {pair : α × α} (h : pair ∈ pairs items) :
    pair.1 ∈ items ∧ pair.2 ∈ items := by
  induction items with
  | nil => cases h
  | cons item items ih =>
      rcases List.mem_append.mp h with hfirst | hlater
      · obtain ⟨item', hitem', rfl⟩ := List.mem_map.mp hfirst
        exact ⟨List.mem_cons_self, List.mem_cons_of_mem _ hitem'⟩
      · obtain ⟨hleft, hright⟩ := ih hlater
        exact ⟨List.mem_cons_of_mem _ hleft, List.mem_cons_of_mem _ hright⟩

theorem mem_of_mem_tierOf {rank : Nat} {ranked : List (Nat × LeafPath)} {path : LeafPath}
    (h : path ∈ tierOf rank ranked) : (rank, path) ∈ ranked := by
  obtain ⟨⟨rank', path'⟩, hmem, rfl⟩ := List.mem_map.mp h
  obtain ⟨hranked, hrank⟩ := List.mem_filter.mp hmem
  obtain rfl : rank' = rank := of_decide_eq_true hrank
  exact hranked

theorem tierOf_append (rank : Nat) (front back : List (Nat × LeafPath)) :
    tierOf rank (front ++ back) = tierOf rank front ++ tierOf rank back := by
  simp [tierOf]

theorem tierOf_singleton (rank rank' : Nat) (path : LeafPath) :
    tierOf rank [(rank', path)] = if rank' = rank then [path] else [] := by
  by_cases h : rank' = rank <;> simp [tierOf, h]

/-- A tier holds the leaf paths of the qualifying pairs of its rank. -/
theorem tierOf_filterMap_rankedPath? (shape : LeafPathShape) (rank : Nat)
    (pairs : List (RootPath × RootPath)) :
    tierOf rank (pairs.filterMap (rankedPath? shape)) =
      ((pairs.filter fun pair => (leafPath? shape pair.1 pair.2).isSome).filter
        (multiTokenCount · = rank)).filterMap fun pair => leafPath? shape pair.1 pair.2 := by
  induction pairs with
  | nil => rfl
  | cons pair pairs ih =>
      cases hpath : leafPath? shape pair.1 pair.2 with
      | none => simpa [rankedPath?, hpath] using ih
      | some path =>
          by_cases hrank : multiTokenCount pair = rank
          · simpa [tierOf, rankedPath?, hpath, hrank] using ih
          · simpa [tierOf, rankedPath?, hpath, hrank] using ih

/-! ### One pair -/

namespace Tiers

/-- The gathered tiers of the ranked paths so far: each of them is complete, or the
tiers in front of it fill the quota. -/
structure Covers (quota : Nat) (ranked : List (Nat × LeafPath)) (tiers : Tiers) : Prop where
  /-- The best tier is complete. -/
  both : tiers.both.toList = tierOf 2 ranked
  /-- So is the second, unless the best fills the quota. -/
  one : quota ≤ tiers.both.size ∨ tiers.one.toList = tierOf 1 ranked
  /-- So is the last, unless the other two fill the quota. -/
  neither : quota ≤ tiers.both.size + tiers.one.size ∨ tiers.neither.toList = tierOf 0 ranked

theorem covers_empty (quota : Nat) : Covers quota [] empty where
  both := rfl
  one := Or.inr rfl
  neither := Or.inr rfl

/-- An added path goes to the tier of its rank, behind those that are there. -/
theorem toList_add (tiers : Tiers) (u v : RootPath) (path : LeafPath) :
    (tiers.add u v path).both.toList =
        tiers.both.toList ++ tierOf 2 [(multiTokenCount (u, v), path)] ∧
      (tiers.add u v path).one.toList =
        tiers.one.toList ++ tierOf 1 [(multiTokenCount (u, v), path)] ∧
      (tiers.add u v path).neither.toList =
        tiers.neither.toList ++ tierOf 0 [(multiTokenCount (u, v), path)] := by
  cases hu : u.isMultiToken <;> cases hv : v.isMultiToken <;>
    simp [add, multiTokenCount, tierOf_singleton, hu, hv]

/-- A path that is added keeps the tiers complete. -/
theorem Covers.add {quota : Nat} {ranked : List (Nat × LeafPath)} {tiers : Tiers}
    (h : Covers quota ranked tiers) (u v : RootPath) (path : LeafPath) :
    Covers quota (ranked ++ [(multiTokenCount (u, v), path)]) (tiers.add u v path) := by
  obtain ⟨hboth, hone, hneither⟩ := toList_add tiers u v path
  have hsizeBoth : tiers.both.size ≤ (tiers.add u v path).both.size := by
    rw [← Array.length_toList, ← Array.length_toList, hboth, List.length_append]
    exact Nat.le_add_right _ _
  have hsizeOne : tiers.one.size ≤ (tiers.add u v path).one.size := by
    rw [← Array.length_toList, ← Array.length_toList, hone, List.length_append]
    exact Nat.le_add_right _ _
  -- A tier that was full stays full, and a complete one gets what it lacks.
  refine ⟨?_, ?_, ?_⟩
  · rw [hboth, h.both, tierOf_append]
  · rcases h.one with hfull | hcomplete
    · exact Or.inl (Nat.le_trans hfull hsizeBoth)
    · exact Or.inr (by rw [hone, hcomplete, tierOf_append])
  · rcases h.neither with hfull | hcomplete
    · exact Or.inl (Nat.le_trans hfull (Nat.add_le_add hsizeBoth hsizeOne))
    · exact Or.inr (by rw [hneither, hcomplete, tierOf_append])

/-- A path that is passed over belongs to a tier that cannot be reached. -/
theorem Covers.skip {quota : Nat} {ranked : List (Nat × LeafPath)} {tiers : Tiers}
    (h : Covers quota ranked tiers) {u v : RootPath} (path : LeafPath)
    (hclosed : tiers.isClosedTo quota u v = true) :
    Covers quota (ranked ++ [(multiTokenCount (u, v), path)]) tiers := by
  obtain ⟨hboth, hone, hneither⟩ := h
  unfold isClosedTo at hclosed
  split at hclosed
  · next hfull =>
      -- The best tier fills the quota, and the path would not have gone there.
      refine ⟨?_, Or.inl hfull, Or.inl (by omega)⟩
      rw [tierOf_append, tierOf_singleton, if_neg, List.append_nil, hboth]
      cases hu : u.isMultiToken <;> cases hv : v.isMultiToken <;>
        simp_all [multiTokenCount]
  · simp only [Bool.and_eq_true, decide_eq_true_eq, Bool.not_eq_true'] at hclosed
    obtain ⟨⟨hfull, hu⟩, hv⟩ := hclosed
    -- The path would have gone to the last tier, behind two that fill the quota.
    have hrank : multiTokenCount (u, v) = 0 := by simp [multiTokenCount, hu, hv]
    simp only [hrank]
    refine ⟨?_, ?_, Or.inl hfull⟩
    · rw [tierOf_append, tierOf_singleton, if_neg (by decide), List.append_nil, hboth]
    · rwa [tierOf_append, tierOf_singleton, if_neg (by decide), List.append_nil]

/-- **One pair keeps the tiers in step** with the ranked paths of all pairs. -/
theorem Covers.offer {quota : Nat} {ranked : List (Nat × LeafPath)} {tiers : Tiers}
    (h : Covers quota ranked tiers) (shape : LeafPathShape) (pair : RootPath × RootPath) :
    Covers quota (ranked ++ (rankedPath? shape pair).toList) (tiers.offer shape quota pair) := by
  unfold rankedPath? Tiers.offer
  cases hpath : leafPath? shape pair.1 pair.2 with
  | none =>
      rw [Option.map_none, Option.toList_none, List.append_nil]
      split <;> exact h
  | some path =>
      rw [Option.map_some, Option.toList_some]
      split
      · next hclosed => exact h.skip path hclosed
      · exact h.add pair.1 pair.2 path

theorem Covers.foldl_offer {quota : Nat} {ranked : List (Nat × LeafPath)} {tiers : Tiers}
    (h : Covers quota ranked tiers) (shape : LeafPathShape)
    (pairs : List (RootPath × RootPath)) :
    Covers quota (ranked ++ pairs.filterMap (rankedPath? shape))
      (pairs.foldl (Tiers.offer shape quota) tiers) := by
  induction pairs generalizing ranked tiers with
  | nil => simpa using h
  | cons pair pairs ih =>
      have hstep := ih (h.offer shape pair)
      rw [List.append_assoc] at hstep
      rw [List.foldl_cons, List.filterMap_cons]
      cases hpath : rankedPath? shape pair with
      | none => simpa [hpath] using hstep
      | some ranked => simpa [hpath] using hstep

/-- Tiers in step with the ranked paths fill the quota in the same way as the
complete tiers. -/
theorem Covers.fillQuota_eq {quota : Nat} {ranked : List (Nat × LeafPath)} {tiers : Tiers}
    (h : Covers quota ranked tiers) (stream : WordStream) :
    fillQuota chooseIndices tiers.toLists quota stream =
      fillQuota chooseIndices [tierOf 2 ranked, tierOf 1 ranked, tierOf 0 ranked] quota stream := by
  obtain ⟨hboth, hone, hneither⟩ := h
  have hsizeBoth : tiers.both.size = (tierOf 2 ranked).length := by
    rw [← hboth, Array.length_toList]
  rw [toLists, hboth]
  rcases hone with hfull | hone
  · exact fillQuota_append_congr chooses_chooseIndices [tierOf 2 ranked] _ _ stream
      (by simpa [hsizeBoth] using hfull)
  · have hsizeOne : tiers.one.size = (tierOf 1 ranked).length := by
      rw [← hone, Array.length_toList]
    rw [hone]
    rcases hneither with hfull | hneither
    · exact fillQuota_append_congr chooses_chooseIndices [tierOf 2 ranked, tierOf 1 ranked] _ _
        stream (by simpa [hsizeBoth, hsizeOne] using hfull)
    · rw [hneither]

end Tiers

/-! ### All pairs -/

theorem gatherTiers_covers (shape : LeafPathShape) (quota : Nat) (roots : List RootPath) :
    Tiers.Covers quota ((pairsByPlace roots).filterMap (rankedPath? shape))
      (gatherTiers shape quota roots) := by
  rw [← pairs_eq_pairsByPlace]
  exact (Tiers.covers_empty quota).foldl_offer shape (pairs roots)

/-- The quota is filled from complete tiers. -/
theorem fillQuota_gatherTiers (shape : LeafPathShape) (quota : Nat) (roots : List RootPath)
    (stream : WordStream) :
    fillQuota chooseIndices (gatherTiers shape quota roots).toLists quota stream =
      fillQuota chooseIndices (completeTiers shape roots) quota stream :=
  (gatherTiers_covers shape quota roots).fillQuota_eq stream

theorem paths_sampleLeafPathsFrom (settings : Settings) (roots : List RootPath)
    (session : Session) (stream : WordStream) :
    (sampleLeafPathsFrom settings roots session stream).paths =
      (fillQuota chooseIndices
        (gatherTiers settings.leafPathShape settings.leafPathQuotaOrDefault roots).toLists
        settings.leafPathQuotaOrDefault stream).1 := rfl

/-- **A sampled leaf path** leads between the terminals of two of the given root paths. -/
theorem exists_leafPath?_of_mem {settings : Settings} {roots : List RootPath} {session : Session}
    {stream : WordStream} {path : LeafPath}
    (h : path ∈ (sampleLeafPathsFrom settings roots session stream).paths) :
    ∃ u ∈ roots, ∃ v ∈ roots, leafPath? settings.leafPathShape u v = some path := by
  have hcovers := gatherTiers_covers settings.leafPathShape settings.leafPathQuotaOrDefault roots
  rw [paths_sampleLeafPathsFrom, hcovers.fillQuota_eq stream] at h
  obtain ⟨tier, htier, hpath⟩ := List.mem_flatten.mp ((fillQuota_sublist _ _ _ _).subset h)
  -- Whatever the tier, its paths are ranked paths of pairs.
  have hranked : ∃ rank, (rank, path) ∈
      (pairsByPlace roots).filterMap (rankedPath? settings.leafPathShape) := by
    simp only [List.mem_cons, List.not_mem_nil, or_false] at htier
    rcases htier with rfl | rfl | rfl <;> exact ⟨_, mem_of_mem_tierOf hpath⟩
  obtain ⟨rank, hmem⟩ := hranked
  obtain ⟨pair, hpair, hrank⟩ := List.mem_filterMap.mp hmem
  obtain ⟨path', hleaf, heq⟩ := Option.map_eq_some_iff.mp hrank
  cases heq
  rw [← pairs_eq_pairsByPlace] at hpair
  exact ⟨pair.1, (mem_of_mem_pairs hpair).1, pair.2, (mem_of_mem_pairs hpair).2, hleaf⟩

/-- **Passing over pairs changes nothing**: the same paths in the same order, the
same session, and the same stream behind them, for every quota. -/
theorem sampleLeafPathsFrom_eq_sampleAll (settings : Settings) (roots : List RootPath)
    (session : Session) (stream : WordStream) :
    sampleLeafPathsFrom settings roots session stream =
      sampleAllLeafPathsFrom settings roots session stream := by
  have hfill := (gatherTiers_covers settings.leafPathShape settings.leafPathQuotaOrDefault
    roots).fillQuota_eq stream
  simp only [sampleLeafPathsFrom, sampleAllLeafPathsFrom, completeTiers, hfill,
    Sampled.ofLeaves]

end SyntaxPaths
