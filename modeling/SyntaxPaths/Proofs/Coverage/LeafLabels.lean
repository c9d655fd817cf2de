import SyntaxPaths.CodeUnit
import SyntaxPaths.Proofs.Extraction.Runs
import SyntaxPaths.Proofs.Extraction.Tiers
import SyntaxPaths.Proofs.Path.Leaf
import SyntaxPaths.Proofs.SyntaxTree.Links

/-!
# Labels in sampled leaf paths

What a session records of its leaf paths need not be among the labels of the tree: tokens
for moves are recorded, and so are spilled pieces.  Node coverage by leaf paths can
therefore exceed one (`leafNodes_twoCalls`).  It cannot do so for another reason.

* **Where the labels are from.**  Every recorded label is one of the tree, a token for a
  move, or spilled (`leafLabelsWithin_sampleLeafPaths`).
* **How many there are.**  So at most the tokens for moves and, twice, the spilled pieces
  come on top of the labels of the tree (`Session.LeafLabelsWithin.labelCount_le`), and
  nothing does if these are labels of the tree themselves.
-/

namespace SyntaxPaths

open Randomness Text

/-! ### Sampled paths -/

/-- The pieces that are spilled by the given leaf paths. -/
def spilledPieces (paths : List LeafPath) : List String :=
  paths.flatMap LeafPath.spilled

theorem spilledPieces_eq_nil {paths : List LeafPath}
    (h : ∀ path ∈ paths, ∀ part ∈ path.parts, separator ∉ part.toList) :
    spilledPieces paths = [] :=
  List.flatMap_eq_nil_iff.mpr fun path hpath => LeafPath.spilled_eq_nil (h path hpath)

/-- What is read off paths, if it is made of given labels or spilled, path by path. -/
theorem flatMap_subset_append_spilledPieces {paths : List LeafPath} {labels : List String}
    {readOff madeOf : LeafPath → List String}
    (hread : ∀ path, readOff path ⊆ madeOf path ++ path.spilled)
    (hmade : ∀ path ∈ paths, madeOf path ⊆ labels) :
    paths.flatMap readOff ⊆ labels ++ spilledPieces paths := by
  intro label hlabel
  obtain ⟨path, hpath, hmem⟩ := List.mem_flatMap.mp hlabel
  rcases List.mem_append.mp (hread path hmem) with hmadeOf | hspilled
  · exact List.mem_append_left _ (hmade path hpath hmadeOf)
  · exact List.mem_append_right _ (List.mem_flatMap.mpr ⟨path, hpath, hspilled⟩)

section Sample

variable {settings : Settings} {tree : SyntaxTree} {stream : WordStream} {path : LeafPath}

/-- A leaf path that is sampled in a tree has two anchors of the tree, and between them
what the merge of two root paths of the tree gives. -/
theorem exists_merge_of_mem_sample
    (h : path ∈ (sampleLeafPaths settings tree .empty stream).paths) :
    ∃ u ∈ treePaths settings tree, ∃ v ∈ treePaths settings tree, ∃ merge,
      merge? u.ancestors v.ancestors = some merge ∧ path.source = u.anchor ∧
        path.middle = merge.middle settings.pathStyleOrDefault ∧ path.target = v.anchor := by
  obtain ⟨u, hu, v, hv, hpath⟩ := exists_leafPath?_of_mem h
  have hsubset := sampleRootPaths_subset settings tree .empty stream
  exact ⟨u, hsubset hu, v, hsubset hv, exists_merge_of_leafPath? hpath⟩

theorem sampled_anchors_subset (h : path ∈ (sampleLeafPaths settings tree .empty stream).paths) :
    [path.source, path.target] ⊆ (treePaths settings tree).map RootPath.anchor := by
  obtain ⟨u, hu, v, hv, merge, -, hsource, -, htarget⟩ := exists_merge_of_mem_sample h
  rw [hsource, htarget]
  refine List.cons_subset.mpr ⟨?_, List.cons_subset.mpr ⟨?_, List.nil_subset _⟩⟩
  · exact List.mem_map_of_mem hu
  · exact List.mem_map_of_mem hv

theorem sampled_middle_subset (h : path ∈ (sampleLeafPaths settings tree .empty stream).paths) :
    path.middle ⊆ (treePaths settings tree).flatMap RootPath.ancestors ++
      settings.pathStyleOrDefault.markers := by
  obtain ⟨u, hu, v, hv, merge, hmerge, -, hmiddle, -⟩ := exists_merge_of_mem_sample h
  rw [hmiddle]
  intro label hlabel
  rcases List.mem_append.mp (merge.middle_subset _ hlabel) with hlabels | hmarkers
  · refine List.mem_append_left _ ?_
    rcases List.mem_append.mp (Merge.middle_labels_subset hmerge hlabels) with hleft | hright
    · exact List.mem_flatMap.mpr ⟨u, hu, hleft⟩
    · exact List.mem_flatMap.mpr ⟨v, hv, hright⟩
  · exact List.mem_append_right _ hmarkers

theorem sampled_middle_subset_of_moves (hstyle : settings.pathStyleOrDefault = .moves)
    (h : path ∈ (sampleLeafPaths settings tree .empty stream).paths) :
    path.middle ⊆ settings.pathStyleOrDefault.markers := by
  obtain ⟨-, -, -, -, merge, -, -, hmiddle, -⟩ := exists_merge_of_mem_sample h
  rw [hmiddle, hstyle]
  exact merge.middle_moves_subset

end Sample

/-! ### Recorded labels -/

/-- The leaf labels of a session are labels of the tree, given tokens for moves, or given
spilled pieces. -/
structure Session.LeafLabelsWithin (session : Session) (markers spilled : List String) :
    Prop where
  /-- Ends are anchors or spilled. -/
  terminals_subset : session.leafTerminals ⊆ session.terminals ++ spilled
  /-- What stands between them is a label, a token for a move, or spilled. -/
  nonterminals_subset :
    session.leafNonterminals ⊆ session.nonterminals ++ (markers ++ spilled)

/-- **What is recorded of leaf paths** stays within the tree, the tokens for moves, and the
spilled pieces. -/
theorem leafLabelsWithin_sampleLeafPaths (settings : Settings) (tree : SyntaxTree)
    (stream : WordStream) :
    (sampleLeafPaths settings tree .empty stream).session.LeafLabelsWithin
      settings.pathStyleOrDefault.markers
      (spilledPieces (sampleLeafPaths settings tree .empty stream).paths) where
  terminals_subset :=
    flatMap_subset_append_spilledPieces LeafPath.endpoints_subset
      fun _ hpath => sampled_anchors_subset hpath
  nonterminals_subset := by
    rw [← List.append_assoc]
    exact flatMap_subset_append_spilledPieces LeafPath.interior_subset
      fun _ hpath => sampled_middle_subset hpath

/-- Where only moves are written, no label is recorded. -/
theorem leafNonterminals_subset_of_moves {settings : Settings}
    (hstyle : settings.pathStyleOrDefault = .moves) (tree : SyntaxTree) (stream : WordStream) :
    (sampleLeafPaths settings tree .empty stream).session.leafNonterminals ⊆
      settings.pathStyleOrDefault.markers ++
        spilledPieces (sampleLeafPaths settings tree .empty stream).paths :=
  flatMap_subset_append_spilledPieces LeafPath.interior_subset
    fun _ hpath => sampled_middle_subset_of_moves hstyle hpath

namespace Session.LeafLabelsWithin

variable {session : Session} {markers spilled : List String}

/-- **What comes on top** of the labels of the tree are the tokens for moves, and the
spilled pieces, which can be ends and stand between them. -/
theorem labelCount_le (h : session.LeafLabelsWithin markers spilled) :
    labelCount session.leafTerminals session.leafNonterminals ≤
      session.allLabels + (markers.length + 2 * distinctCount (spilled.map Label.stem)) := by
  have hends := distinctCount_map_le_add Label.stem h.terminals_subset
  have hinner := distinctCount_map_le_add Label.stem h.nonterminals_subset
  have hfurther := distinctCount_map_le_add Label.stem (List.Subset.refl (markers ++ spilled))
  have hmarkers := distinctCount_le_length (markers.map Label.stem)
  rw [List.length_map] at hmarkers
  rw [labelCount, allLabels, labelCount]
  omega

/-- **Nothing comes on top** if the labels from outside are, without marks, labels of the
tree. -/
theorem labelCount_le_of_known (h : session.LeafLabelsWithin markers spilled)
    (hends : ∀ piece ∈ spilled, Label.stem piece ∈ session.terminals.map Label.stem)
    (hinner : ∀ label ∈ markers ++ spilled,
      Label.stem label ∈ session.nonterminals.map Label.stem) :
    labelCount session.leafTerminals session.leafNonterminals ≤ session.allLabels :=
  Nat.add_le_add (distinctCount_map_le_of_known Label.stem h.terminals_subset hends)
    (distinctCount_map_le_of_known Label.stem h.nonterminals_subset hinner)

/-- **Moves in place of labels** do not come on top, if there are at least as many labels
as tokens for moves. -/
theorem labelCount_le_of_markers (h : session.LeafLabelsWithin markers [])
    (hinner : session.leafNonterminals ⊆ markers)
    (hle : markers.length ≤ distinctCount (session.nonterminals.map Label.stem)) :
    labelCount session.leafTerminals session.leafNonterminals ≤ session.allLabels := by
  have hends : session.leafTerminals ⊆ session.terminals := by
    simpa only [List.append_nil] using h.terminals_subset
  have hmarkers : distinctCount (session.leafNonterminals.map Label.stem) ≤ markers.length := by
    rw [← markers.length_map Label.stem]
    exact Nat.le_trans (distinctCount_mono (List.map_subset _ hinner)) (distinctCount_le_length _)
  exact Nat.add_le_add (distinctCount_mono (List.map_subset _ hends))
    (Nat.le_trans hmarkers hle)

end Session.LeafLabelsWithin

/-! ### Node coverage -/

namespace CodeUnit

/-- The leaf paths by which the coverage of a unit is measured. -/
def leafSample (unit : CodeUnit) (stream : WordStream) : Sampled LeafPath :=
  unit.sampleLeafPaths .empty stream

/-- The pieces that these paths spill. -/
def spilled (unit : CodeUnit) (stream : WordStream) : List String :=
  spilledPieces (unit.leafSample stream).paths

/-- The tokens for moves in these paths. -/
def markers (unit : CodeUnit) : List String :=
  unit.settings.pathStyleOrDefault.markers

/-- No part of these paths holds a separator. -/
def IsUnspilled (unit : CodeUnit) (stream : WordStream) : Prop :=
  ∀ path ∈ (unit.leafSample stream).paths, ∀ part ∈ path.parts, separator ∉ part.toList

/-- **Node coverage by leaf paths**: how far it can be from a fraction. -/
structure BoundsLeafNodes (unit : CodeUnit) (stream : WordStream) (coverage : Coverage Ratio) :
    Prop where
  /-- It compares the labels in the sampled paths with those of the tree. -/
  leafNodes_eq : coverage.leafNodes =
    (unit.leafSample stream).session.labelRatio (unit.leafSample stream).session.leafTerminals
      (unit.leafSample stream).session.leafNonterminals
  /-- It is not negative. -/
  nonneg : 0 ≤ coverage.leafNodes.toRat
  /-- The tokens for moves and, twice, the spilled pieces are counted on top of the labels of
  the tree at most. -/
  labelCount_le :
    labelCount (unit.leafSample stream).session.leafTerminals
        (unit.leafSample stream).session.leafNonterminals ≤
      (unit.leafSample stream).session.allLabels +
        (unit.markers.length + 2 * distinctCount ((unit.spilled stream).map Label.stem))
  /-- If these have the stems of labels of the tree, it is a fraction. -/
  le_one_of_known :
    (∀ piece ∈ unit.spilled stream,
      Label.stem piece ∈ (unit.leafSample stream).session.terminals.map Label.stem) →
    (∀ label ∈ unit.markers ++ unit.spilled stream,
      Label.stem label ∈ (unit.leafSample stream).session.nonterminals.map Label.stem) →
    coverage.leafNodes.toRat ≤ 1
  /-- If only labels are written, and nothing is spilled, it is a fraction. -/
  le_one_of_labels : unit.settings.pathStyleOrDefault = .labels → unit.IsUnspilled stream →
    coverage.leafNodes.toRat ≤ 1
  /-- If only moves are written, and nothing is spilled, it is a fraction unless all inner
  nodes have one and the same label. -/
  le_one_of_moves : unit.settings.pathStyleOrDefault = .moves → unit.IsUnspilled stream →
    2 ≤ distinctCount ((unit.leafSample stream).session.nonterminals.map Label.stem) →
      coverage.leafNodes.toRat ≤ 1

/-- **Whenever a unit has a coverage**, its node coverage by leaf paths is bounded. -/
theorem boundsLeafNodes_of_coverage {unit : CodeUnit} {stream : WordStream}
    {coverage : Coverage Ratio} (h : (unit.coverage stream).1 = .ok coverage) :
    unit.BoundsLeafNodes stream coverage := by
  obtain ⟨hcount, rfl⟩ := Session.coverage_eq_ok h
  have hwithin : (unit.leafSample stream).session.LeafLabelsWithin unit.markers
      (unit.spilled stream) := leafLabelsWithin_sampleLeafPaths unit.settings unit.tree stream
  refine ⟨rfl, Session.labelRatio_nonneg, hwithin.labelCount_le, ?_, ?_, ?_⟩
  · intro hends hinner
    exact (Session.labelRatio_le_one_iff hcount).mpr (hwithin.labelCount_le_of_known hends hinner)
  · intro hstyle hunspilled
    rw [spilled, spilledPieces_eq_nil hunspilled, markers, hstyle] at hwithin
    refine (Session.labelRatio_le_one_iff hcount).mpr (hwithin.labelCount_le_of_known ?_ ?_)
    · exact fun _ hmem => absurd hmem List.not_mem_nil
    · exact fun _ hmem => absurd hmem List.not_mem_nil
  · intro hstyle hunspilled htwo
    have hinner : (unit.leafSample stream).session.leafNonterminals ⊆
        unit.markers ++ unit.spilled stream :=
      leafNonterminals_subset_of_moves hstyle unit.tree stream
    have hmoves : unit.markers.length = 2 := by rw [markers, hstyle]; rfl
    rw [spilled, spilledPieces_eq_nil hunspilled] at hwithin hinner
    rw [List.append_nil] at hinner
    rw [← hmoves] at htwo
    exact (Session.labelRatio_le_one_iff hcount).mpr (hwithin.labelCount_le_of_markers hinner htwo)

end CodeUnit

/-! ### Two calls of a name -/

/-- The parse tree of a line with two words of the given width, each a name in a call. -/
def ParseTree.twoCalls (width : Nat) : ParseTree :=
  .node "call" (.columns 0 (2 * width + 1))
    [.node "call" (.columns 0 width) [.node "identifier" (.columns 0 width) []],
      .node "call" (.columns (width + 1) (2 * width + 1))
        [.node "identifier" (.columns (width + 1) (2 * width + 1)) []]]

namespace CodeUnit

/-- The unit of the line `a b`, with two calls of a name. -/
def twoCalls : CodeUnit where
  tree := .layout
    [⟨"call", "a b", .columns 0 3⟩, ⟨"call", "a", .columns 0 1⟩, ⟨"call", "b", .columns 2 3⟩,
      ⟨"identifier", "a", .columns 0 1⟩, ⟨"identifier", "b", .columns 2 3⟩]
    [2, 1, 1, 0, 0]
  settings := .unset

/-- The unit of the line `aB aB`, with two calls of a name, and with leaf paths that have both
labels and moves. -/
def twoWideCalls : CodeUnit where
  tree := .layout
    [⟨"call", "aB aB", .columns 0 5⟩, ⟨"call", "aB", .columns 0 2⟩, ⟨"call", "aB", .columns 3 5⟩,
      ⟨"identifier", "a|b", .columns 0 2⟩, ⟨"identifier", "a|b", .columns 3 5⟩]
    [2, 1, 1, 0, 0]
  settings := { Settings.unset with pathStyle := some .labelsAndMoves }

/-- Both names spill two pieces, and two moves are written: eight labels in the leaf path, against
three of the tree and the six that the bound allows on top of them. -/
theorem boundsLeafNodes_twoWideCalls :
    ofSource .verbatim twoWideCalls.settings (.twoCalls 2) "aB aB" = .ok twoWideCalls ∧
      twoWideCalls.markers.length +
        2 * distinctCount ((twoWideCalls.spilled (.ofSeed 0)).map Label.stem) = 6 ∧
      ∃ coverage, (twoWideCalls.coverage (.ofSeed 0)).1 = .ok coverage ∧
        coverage.leafNodes = ⟨8, 3⟩ ∧ twoWideCalls.BoundsLeafNodes (.ofSeed 0) coverage := by
  have hbuilt : ofSource .verbatim twoWideCalls.settings (.twoCalls 2) "aB aB" =
      .ok twoWideCalls := by
    decide +kernel
  have hcoverage : (twoWideCalls.coverage (.ofSeed 0)).1 =
      .ok
        { rootLinks := ⟨4, 4⟩, leafLinks := ⟨8, 4⟩, binaryLinks := ⟨3, 4⟩
          rootNodes := ⟨3, 3⟩, leafNodes := ⟨8, 3⟩ } := by
    decide +kernel
  exact ⟨hbuilt, by decide +kernel, _, hcoverage, rfl, boundsLeafNodes_of_coverage hcoverage⟩

/-- The node coverage by leaf paths, as it was counted. -/
def leafNodes? (unit : CodeUnit) (stream : WordStream) : Option Ratio :=
  match (unit.coverage stream).1 with
  | .ok coverage => some coverage.leafNodes
  | .error _ => none

/-- **Node coverage by leaf paths can exceed one**, in every style: by spilled pieces where
only labels are written, and by tokens for moves in the other two. -/
theorem leafNodes_twoCalls :
    (ofSource .verbatim .unset (.twoCalls 2) "aB aB").map (·.leafNodes? (.ofSeed 0)) =
        .ok (some ⟨6, 3⟩) ∧
      (ofSource .verbatim
          { Settings.unset with treeStyle := some .ast, pathStyle := some .moves }
          (.twoCalls 1) "a b").map (·.leafNodes? (.ofSeed 0)) = .ok (some ⟨4, 3⟩) ∧
      (ofSource .verbatim { Settings.unset with pathStyle := some .labelsAndMoves }
          (.twoCalls 1) "a b").map (·.leafNodes? (.ofSeed 0)) = .ok (some ⟨7, 5⟩) ∧
      1 < Ratio.toRat ⟨6, 3⟩ ∧ 1 < Ratio.toRat ⟨4, 3⟩ ∧ 1 < Ratio.toRat ⟨7, 5⟩ := by
  decide +kernel

end CodeUnit

end SyntaxPaths
