import SyntaxPaths.Proofs.Coverage.Links

/-!
# Links of the binary view against entries

Links to left children are counted by nodes: each inner node has one.  What they are
measured against is counted by entries, which are the different marked labels of terminals
and of ancestors, less one.  So an inner node counts above the line even if there is no
entry for it below.

A node is *hidden* if no root path keeps it, or if an earlier node has the same marked label
(`SyntaxTree.hiddenNodes`).  The ratio is at most one exactly if fewer nodes are hidden than
terminals have entries (`boundsBinaryLinks_of_coverage`).  Hiding takes little: two wrappers
around one name are enough (`binaryLinks_wrappedName`).
-/

namespace SyntaxPaths

open Randomness

namespace SyntaxTree

section Entries

variable (tree : SyntaxTree) (style : TreeStyle)

/-- The number of entries of terminals. -/
def anchorCount : Nat :=
  distinctCount (tree.terminals.map fun i => tree.anchorValue style i ++ (tree.node i).mark)

/-- A node has an entry of its own: root paths keep it, and among the nodes that they keep
it is the first one with its marked label. -/
def HasOwnEntry (i : Nat) : Prop :=
  i ∈ tree.keptNodes style tree.terminals ∧
    ∀ j ∈ tree.keptNodes style tree.terminals, tree.labelAt style j = tree.labelAt style i → i ≤ j

instance : DecidablePred (tree.HasOwnEntry style) :=
  fun _ => inferInstanceAs (Decidable (_ ∧ _))

/-- The inner nodes without an entry of their own. -/
def hiddenNodes : List Nat :=
  tree.innerNodes.filter fun i => !decide (tree.HasOwnEntry style i)

end Entries

variable {tree : SyntaxTree} {style : TreeStyle} {counts : List Nat}

/-- **An inner node has an entry of its own, or is hidden.** -/
theorem IsLinked.distinctCount_keptNodes_add (h : tree.IsLinked) (style : TreeStyle) :
    distinctCount ((tree.keptNodes style tree.terminals).map (tree.labelAt style)) +
        (tree.hiddenNodes style).length =
      tree.innerNodes.length := by
  have hfirsts : ∀ i, i ∈ tree.innerNodes.filter (fun i => decide (tree.HasOwnEntry style i)) ↔
      tree.HasOwnEntry style i := by
    intro i
    rw [List.mem_filter, decide_eq_true_iff]
    exact and_iff_right_of_imp fun hown => h.keptNodes_subset_innerNodes style _ hown.1
  rw [distinctCount_map_eq_length ((nodup_innerNodes tree).filter _) hfirsts, hiddenNodes]
  exact (List.length_eq_length_filter_add _).symm

theorem length_hiddenNodes_le (tree : SyntaxTree) (style : TreeStyle) :
    (tree.hiddenNodes style).length ≤ tree.innerNodes.length :=
  List.length_filter_le _ _

namespace HasLayout

theorem anchorCount_pos (h : tree.HasLayout counts) (style : TreeStyle) :
    0 < tree.anchorCount style := by
  refine distinctCount_pos fun hnil => h.terminals_ne_nil ?_
  exact List.map_eq_nil_iff.mp hnil

/-- **No node is hidden** in a plain style that tells inner nodes apart. -/
theorem hiddenNodes_eq_nil (h : tree.HasLayout counts) (hplain : style.isHierarchical = false)
    (hapart : tree.Apart (fun i => (tree.node i).label style) tree.innerNodes) :
    tree.hiddenNodes style = [] := by
  refine List.filter_eq_nil_iff.mpr fun i hi => ?_
  have hkept : i ∈ tree.keptNodes style tree.terminals := by
    rw [keptNodes_of_plain hplain]
    exact h.mem_flatMap_ancestors.mpr hi
  have hown : tree.HasOwnEntry style i := by
    refine ⟨hkept, fun j hj heq => ?_⟩
    have hinner := h.isLinked.keptNodes_subset_innerNodes style _ hj
    exact Nat.le_of_eq (hapart.append_mark_inj hinner hi heq).symm
  simp [hown]

/-- **Terminals alone have enough entries** where no inner node has a single child and
anchors tell terminals apart. -/
theorem length_hiddenNodes_lt (h : tree.HasLayout counts)
    (hbranch : ∀ i ∈ tree.innerNodes, (tree.node i).children.length ≠ 1)
    (hapart : tree.Apart (tree.anchorValue style) tree.terminals) :
    (tree.hiddenNodes style).length < tree.anchorCount style := by
  have hcount : tree.anchorCount style = tree.terminals.length := by
    rw [anchorCount, hapart.distinctCount_map (List.Subset.refl _),
      distinctCount_of_nodup h.nodup_terminals]
  rw [hcount]
  exact Nat.lt_of_le_of_lt (length_hiddenNodes_le tree style) (h.length_innerNodes_lt hbranch)

end HasLayout

end SyntaxTree

/-- The parse tree of the line `a b`, a statement with two names. -/
def ParseTree.twoNames : ParseTree :=
  .node "module" (.columns 0 3)
    [.node "expression_statement" (.columns 0 3)
      [.node "identifier" (.columns 0 1) [], .node "identifier" (.columns 2 3) []]]

/-- The parse tree of the line `x`, a name with two wrappers around it. -/
def ParseTree.wrappedName : ParseTree :=
  .node "wrapper" (.columns 0 1)
    [.node "wrapper" (.columns 0 1) [.node "identifier" (.columns 0 1) []]]

namespace CodeUnit

/-! ### The ratio -/

/-- **Links of the binary view**: how far their coverage can be from a fraction. -/
structure BoundsBinaryLinks (unit : CodeUnit) (style : TreeStyle) (coverage : Coverage Ratio) :
    Prop where
  /-- Inner nodes are compared with entries, of which one is taken away. -/
  binaryLinks_eq : coverage.binaryLinks =
    { numerator := unit.tree.eldestCount
      denominator := unit.tree.anchorCount style +
        distinctCount ((unit.tree.keptNodes style unit.tree.terminals).map
          (unit.tree.labelAt style)) - 1 }
  /-- An inner node has an entry of its own, or is hidden. -/
  eldestCount_eq : unit.tree.eldestCount =
    distinctCount ((unit.tree.keptNodes style unit.tree.terminals).map (unit.tree.labelAt style)) +
      (unit.tree.hiddenNodes style).length
  /-- It is a fraction exactly if fewer nodes are hidden than terminals have entries. -/
  le_one_iff : coverage.binaryLinks.toRat ≤ 1 ↔
    (unit.tree.hiddenNodes style).length < unit.tree.anchorCount style
  /-- So it is in a plain style that tells inner nodes apart. -/
  le_one_of_plain : style.isHierarchical = false →
    unit.tree.Apart (fun i => (unit.tree.node i).label style) unit.tree.innerNodes →
      coverage.binaryLinks.toRat ≤ 1
  /-- And in every style where no inner node has a single child and anchors tell terminals
  apart. -/
  le_one_of_branching : (∀ i ∈ unit.tree.innerNodes, (unit.tree.node i).children.length ≠ 1) →
    unit.tree.Apart (unit.tree.anchorValue style) unit.tree.terminals →
      coverage.binaryLinks.toRat ≤ 1

/-- A unit holds the tree that was built and the settings that were given. -/
theorem ofSource_eq_ok {normalizer : Normalizer} {settings : Settings} {raw : ParseTree}
    {source : String} {unit : CodeUnit} (h : ofSource normalizer settings raw source = .ok unit) :
    SyntaxTree.build normalizer raw (sourceLines source) = .ok unit.tree ∧
      unit.settings = settings := by
  unfold ofSource at h
  cases hbuild : SyntaxTree.build normalizer raw (sourceLines source) with
  | error cause => rw [hbuild] at h; cases h
  | ok tree =>
      rw [hbuild] at h
      cases h
      exact ⟨rfl, rfl⟩

/-- The entries against which the coverage of a unit is measured. -/
theorem allLinks_leafSample (unit : CodeUnit) (stream : WordStream) :
    (unit.leafSample stream).session.allLinks =
      unit.tree.anchorCount unit.settings.treeStyleOrDefault +
        distinctCount ((unit.tree.keptNodes unit.settings.treeStyleOrDefault
          unit.tree.terminals).map (unit.tree.labelAt unit.settings.treeStyleOrDefault)) - 1 := by
  show linkCount ((treePaths unit.settings unit.tree).map RootPath.anchor)
    ((treePaths unit.settings unit.tree).flatMap RootPath.ancestors) - 1 = _
  rw [treePaths_eq_map, SyntaxTree.linkCount_rootPaths, SyntaxTree.anchorCount]

/-- **Whenever a unit has a coverage**, its links of the binary view are bounded. -/
theorem boundsBinaryLinks_of_coverage {normalizer : Normalizer} {settings : Settings}
    {raw : ParseTree} {source : String} {unit : CodeUnit} {stream : WordStream}
    {coverage : Coverage Ratio} (hbuilt : ofSource normalizer settings raw source = .ok unit)
    (hcoverage : (unit.coverage stream).1 = .ok coverage) :
    unit.BoundsBinaryLinks settings.treeStyleOrDefault coverage := by
  obtain ⟨hbuild, rfl⟩ := ofSource_eq_ok hbuilt
  obtain ⟨htwo, rfl⟩ := Session.coverage_eq_ok hcoverage
  have hlayout := SyntaxTree.hasLayout_of_build hbuild
  have hlinks := unit.allLinks_leafSample stream
  have hpos : 0 < (unit.leafSample stream).session.allLinks := Session.allLinks_pos htwo
  have hanchors := hlayout.anchorCount_pos unit.settings.treeStyleOrDefault
  have hcount := hlayout.isLinked.distinctCount_keptNodes_add unit.settings.treeStyleOrDefault
  rw [hlayout.length_innerNodes] at hcount
  have hiff : Ratio.toRat ⟨unit.tree.eldestCount, (unit.leafSample stream).session.allLinks⟩ ≤ 1 ↔
      (unit.tree.hiddenNodes unit.settings.treeStyleOrDefault).length <
        unit.tree.anchorCount unit.settings.treeStyleOrDefault := by
    refine (Ratio.toRat_le_one_iff hpos).trans ?_
    show (unit.tree.eldestCount : Int) ≤ (unit.leafSample stream).session.allLinks ↔ _
    rw [hlinks]
    omega
  refine ⟨congrArg (Ratio.mk _) hlinks, hcount.symm, hiff, ?_, ?_⟩
  · intro hplain hapart
    refine hiff.mpr ?_
    rw [hlayout.hiddenNodes_eq_nil hplain hapart]
    exact hanchors
  · intro hbranch hapart
    exact hiff.mpr (hlayout.length_hiddenNodes_lt hbranch hapart)

/-- The unit of the line `a b`, a statement with two names, in a style that cuts at
statements. -/
def twoNames : CodeUnit where
  tree := .layout
    [⟨"module", "a b", .columns 0 3⟩, ⟨"expression_statement", "a b", .columns 0 3⟩,
      ⟨"identifier", "a", .columns 0 1⟩, ⟨"identifier", "b", .columns 2 3⟩]
    [1, 2, 0, 0]
  settings := { Settings.unset with treeStyle := some .hst }

/-- One node is hidden and there are two names, so the ratio is just one. -/
theorem boundsBinaryLinks_twoNames :
    ofSource .verbatim twoNames.settings .twoNames "a b" = .ok twoNames ∧
      twoNames.tree.hiddenNodes .hst = [1] ∧
      ∃ coverage, (twoNames.coverage (.ofSeed 0)).1 = .ok coverage ∧
        coverage.binaryLinks = ⟨2, 2⟩ ∧ twoNames.BoundsBinaryLinks .hst coverage := by
  have hbuilt : ofSource .verbatim twoNames.settings .twoNames "a b" = .ok twoNames := by
    decide +kernel
  have hhidden : twoNames.tree.hiddenNodes .hst = [1] := by decide +kernel
  have hcoverage : (twoNames.coverage (.ofSeed 0)).1 =
      .ok
        { rootLinks := ⟨2, 2⟩, leafLinks := ⟨-1, 2⟩, binaryLinks := ⟨2, 2⟩
          rootNodes := ⟨2, 2⟩, leafNodes := ⟨0, 2⟩ } := by
    decide +kernel
  exact ⟨hbuilt, hhidden, _, hcoverage, rfl, boundsBinaryLinks_of_coverage hbuilt hcoverage⟩

/-- The links of the binary view, as they were counted. -/
def binaryLinks? (unit : CodeUnit) (stream : WordStream) : Option Ratio :=
  match (unit.coverage stream).1 with
  | .ok coverage => some coverage.binaryLinks
  | .error _ => none

/-- **Links of the binary view can be more than all**, in every style: each of two wrappers
around one name has a link to a left child, and they have one entry. -/
theorem binaryLinks_wrappedName :
    TreeStyle.all.map (fun style =>
        (ofSource .verbatim { Settings.unset with treeStyle := some style } .wrappedName "x").map
          (·.binaryLinks? (.ofSeed 0))) =
        List.replicate 4 (.ok (some ⟨2, 1⟩)) ∧
      1 < Ratio.toRat ⟨2, 1⟩ := by
  decide +kernel

end CodeUnit

end SyntaxPaths
