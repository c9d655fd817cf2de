import SyntaxPaths.Proofs.Extraction.Runs
import SyntaxPaths.Proofs.Label
import SyntaxPaths.Proofs.Path.Root
import SyntaxPaths.SyntaxTree.Build

/-!
# What node coverage is measured against

A session of root paths holds the anchor values of all terminals and the labels of all
ancestors that the style keeps, each with a mark behind it.  Node coverage is measured
against the number of these labels without marks.  What is counted are their *stems*, and
a stem ends at the first delimiter, be it that of the mark or one inside the label.

So the number is that of the different labels exactly if no two of them agree up to a
delimiter (`measuresStems_sampleRootPaths`).  Values are made of source text, and there
nothing forbids a delimiter: of two addresses with the same name in front, only one is
counted (`allLabels_twoAddresses`).
-/

namespace SyntaxPaths

open Randomness

namespace Label

/-- Different labels have different stems. -/
def StemsApart (labels : List String) : Prop :=
  ∀ x ∈ labels, ∀ y ∈ labels, stem x = stem y → x = y

theorem stemsApart_of_not_mem {labels : List String}
    (h : ∀ label ∈ labels, markDelimiter ∉ label.toList) : StemsApart labels := by
  intro x hx y hy heq
  rwa [stem_eq_self (h x hx), stem_eq_self (h y hy)] at heq

end Label

namespace SyntaxTree

/-- The anchor values of all terminals, without marks. -/
def anchorValues (tree : SyntaxTree) (style : TreeStyle) : List String :=
  tree.terminals.map (tree.anchorValue style)

/-- The labels of all ancestors that the style keeps, without marks. -/
def ancestorLabels (tree : SyntaxTree) (style : TreeStyle) : List String :=
  tree.terminals.flatMap fun i =>
    (tree.keptAncestors style i).reverse.map fun a => (tree.node a).label style

/-- The number of different labels in a style, anchors and ancestors counted apart. -/
def wholeLabelCount (tree : SyntaxTree) (style : TreeStyle) : Nat :=
  distinctCount (tree.anchorValues style) + distinctCount (tree.ancestorLabels style)

end SyntaxTree

/-! ### Stems of the labels of a tree -/

section Stems

variable (settings : Settings) (tree : SyntaxTree)

theorem map_stem_anchors :
    ((treePaths settings tree).map RootPath.anchor).map Label.stem =
      (tree.anchorValues settings.treeStyleOrDefault).map Label.stem := by
  rw [treePaths, terminalPaths, SyntaxTree.anchorValues]
  simp only [List.map_map]
  refine List.map_congr_left fun i _ => ?_
  simp only [Function.comp_apply, SyntaxTree.anchor_rootPath]
  exact Label.stem_append_mark _ _

theorem map_stem_ancestors :
    ((treePaths settings tree).flatMap RootPath.ancestors).map Label.stem =
      (tree.ancestorLabels settings.treeStyleOrDefault).map Label.stem := by
  rw [treePaths, terminalPaths, SyntaxTree.ancestorLabels, List.map_map, List.flatMap_map,
    List.map_flatMap, List.map_flatMap]
  refine List.flatMap_congr fun i _ => ?_
  simp only [Function.comp_apply, SyntaxTree.ancestors_rootPath, ← List.map_reverse, List.map_map]
  refine List.map_congr_left fun a _ => ?_
  exact Label.stem_append_mark _ _

/-- **Behind root paths** the session counts the stems of the labels of the tree. -/
theorem allLabels_sampleRootPaths (stream : WordStream) :
    (sampleRootPaths settings tree .empty stream).session.allLabels =
      distinctCount ((tree.anchorValues settings.treeStyleOrDefault).map Label.stem) +
        distinctCount ((tree.ancestorLabels settings.treeStyleOrDefault).map Label.stem) := by
  rw [← map_stem_anchors, ← map_stem_ancestors]
  rfl

end Stems

/-! ### Stems and labels -/

/-- A session counts stems where it could count the labels of a tree. -/
structure Session.MeasuresStems (session : Session) (tree : SyntaxTree) (style : TreeStyle) :
    Prop where
  /-- No more is counted than there are labels. -/
  le : session.allLabels ≤ tree.wholeLabelCount style
  /-- All labels are counted exactly if they can be told by their stems. -/
  eq_iff : session.allLabels = tree.wholeLabelCount style ↔
    Label.StemsApart (tree.anchorValues style) ∧ Label.StemsApart (tree.ancestorLabels style)
  /-- So it is if no label holds a delimiter. -/
  eq_of_not_mem :
    (∀ label ∈ tree.anchorValues style ++ tree.ancestorLabels style,
      markDelimiter ∉ label.toList) → session.allLabels = tree.wholeLabelCount style

/-- **The session of the root paths of a tree** counts stems: all labels of the tree if
these can be told by their stems, and fewer otherwise. -/
theorem measuresStems_sampleRootPaths (settings : Settings) (tree : SyntaxTree)
    (stream : WordStream) :
    (sampleRootPaths settings tree .empty stream).session.MeasuresStems tree
      settings.treeStyleOrDefault := by
  have hcount := allLabels_sampleRootPaths settings tree stream
  have hvalues := distinctCount_map_le Label.stem (tree.anchorValues settings.treeStyleOrDefault)
  have hlabels := distinctCount_map_le Label.stem (tree.ancestorLabels settings.treeStyleOrDefault)
  -- Two sums with smaller summands on one side are equal if the summands are.
  have hiff : (sampleRootPaths settings tree .empty stream).session.allLabels =
        tree.wholeLabelCount settings.treeStyleOrDefault ↔
      Label.StemsApart (tree.anchorValues settings.treeStyleOrDefault) ∧
        Label.StemsApart (tree.ancestorLabels settings.treeStyleOrDefault) := by
    rw [Label.StemsApart, Label.StemsApart, ← distinctCount_map_eq_iff,
      ← distinctCount_map_eq_iff, hcount, SyntaxTree.wholeLabelCount]
    omega
  refine ⟨?_, hiff, fun hnot => hiff.mpr ?_⟩
  · rw [hcount]
    exact Nat.add_le_add hvalues hlabels
  · obtain ⟨hnotValues, hnotLabels⟩ := List.forall_mem_append.mp hnot
    exact ⟨Label.stemsApart_of_not_mem hnotValues, Label.stemsApart_of_not_mem hnotLabels⟩

/-- The parse tree of the line `f a@b a@c`, a call with two strings. -/
def ParseTree.twoAddresses : ParseTree :=
  .node "call" (.columns 0 9)
    [.node "identifier" (.columns 0 1) [], .node "string" (.columns 2 5) [],
      .node "string" (.columns 6 9) []]

/-- **Two addresses are counted as one.**  The labels of the tree are `f`, `a@b`, `a@c`,
and that of the call. -/
theorem allLabels_twoAddresses :
    (SyntaxTree.build .verbatim .twoAddresses ["f a@b a@c"]).map (fun tree =>
      ((sampleRootPaths .unset tree .empty (.ofSeed 0)).session.allLabels,
        tree.wholeLabelCount .spt)) = .ok (3, 4) := by
  decide +kernel

end SyntaxPaths
