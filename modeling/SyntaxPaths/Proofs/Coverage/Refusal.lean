import SyntaxPaths.Proofs.Coverage.Links
import SyntaxPaths.Proofs.Path.Lineage
import SyntaxPaths.Proofs.Room

/-!
# Where coverage is refused

A session has no coverage if it has fewer than two labels, and with two of them no ratio has
a divisor of zero (`Session.refusesFewLabels`).  For the session of a tree this is decided by the
shape of the tree, and not by what is sampled.  Where there is no room to sample anything, the
coverage is neither found nor refused.

* **From labels to root paths.**  A tree has a terminal, so one label is there.  A second one is
  missing exactly if no root path keeps an ancestor and all end in the same anchor
  (`SyntaxTree.IsUnlinked`).
* **From root paths to nodes.**  No ancestor is above the root, and in hierarchical styles none is
  kept right below a root that is an expression statement.  If a terminal is the root, it is alone
  (`HasLayout.isUnlinked_iff_of_plain`).  If all lie below the statement, the anchors have its
  text and can differ in their marks only (`HasLayout.isUnlinked_iff_of_hierarchical`).
-/

namespace SyntaxPaths

open Randomness

/-! ### Sessions -/

/-- **There is a coverage unless labels are too few for one**, and what it divides by is not
zero. -/
structure Session.RefusesFewLabels (session : Session) (eldestCount : Nat) : Prop where
  /-- The cause names both numbers of different labels. -/
  eq_error_iff (cause : CoverageError) :
    session.coverage eldestCount = .error cause ↔
      session.terminals.toFinset.card + session.nonterminals.toFinset.card < 2 ∧
        cause = .degenerateTree session.terminals.toFinset.card session.nonterminals.toFinset.card
  /-- With two labels there are links and labels to divide by. -/
  exists_eq_ok : 2 ≤ session.terminals.toFinset.card + session.nonterminals.toFinset.card →
    ∃ coverage, session.coverage eldestCount = .ok coverage ∧
      0 < coverage.rootLinks.denominator ∧ 0 < coverage.leafLinks.denominator ∧
      0 < coverage.binaryLinks.denominator ∧ 0 < coverage.rootNodes.denominator ∧
      0 < coverage.leafNodes.denominator

/-- **Every session** with too few labels is refused, and no other one. -/
theorem Session.refusesFewLabels (session : Session) (eldestCount : Nat) :
    session.RefusesFewLabels eldestCount where
  eq_error_iff cause := by
    rw [← distinctCount_eq_card, ← distinctCount_eq_card, ← linkCount, coverage]
    split
    · next hfew => simp [hfew, eq_comm]
    · next hmany => simp [hmany]
  exists_eq_ok := by
    intro htwo
    rw [← linkCount_eq_card] at htwo
    have hlinks := allLinks_pos htwo
    have hlabels := allLabels_pos htwo
    exact ⟨_, coverage_of_two_le htwo eldestCount, hlinks, hlinks, hlinks, hlabels, hlabels⟩

namespace SyntaxTree

variable {tree : SyntaxTree} {counts : List Nat} {style : TreeStyle}

/-! ### Trees without links -/

/-- **Root paths without links**: they keep no ancestor, and all end in the same anchor. -/
structure IsUnlinked (tree : SyntaxTree) (style : TreeStyle) : Prop where
  /-- No ancestor is kept. -/
  ancestors_eq_nil : ∀ t ∈ tree.terminals, (tree.rootPath style t).ancestors = []
  /-- There is one anchor. -/
  anchor_eq : ∀ t ∈ tree.terminals, ∀ u ∈ tree.terminals,
    (tree.rootPath style t).anchor = (tree.rootPath style u).anchor

/-- **A tree that is one statement** with all terminals in one place. -/
structure IsOneStatement (tree : SyntaxTree) : Prop where
  /-- The root is the nearest statement of all terminals. -/
  isNearest : ∀ t ∈ tree.terminals, tree.IsNearestStatement root t
  /-- All terminals have the same coordinates. -/
  span_eq : ∀ t ∈ tree.terminals, ∀ u ∈ tree.terminals, (tree.node t).span = (tree.node u).span

/-- Only the root has no ancestors. -/
theorem IsLinked.ancestors_eq_nil_iff (h : tree.IsLinked) {i : Nat} (hi : i < tree.size) :
    tree.ancestors i = [] ↔ i = root := by
  constructor
  · intro hnil
    have hchain := h.root_mem_chain hi
    rw [hnil] at hchain
    exact (List.mem_singleton.mp hchain).symm
  · rintro rfl
    exact ancestors_of_parent_eq_none h.parent_root

theorem IsLinked.keptAncestors_root (h : tree.IsLinked) (style : TreeStyle) :
    tree.keptAncestors style root = [] := by
  have hnil := ancestors_of_parent_eq_none h.parent_root
  have hnone : tree.describedBy? style root = none := by
    rw [describedBy?, statementAbove?, hnil, firstStatement?, ite_self]
  rw [keptAncestors, hnone]
  exact hnil

theorem anchorValue_of_nearest (h : tree.IsLinked) (hstyle : style.isHierarchical = true)
    {s t : Nat} (hs : tree.IsNearestStatement s t) :
    tree.anchorValue style t = tree.identifiersBelow s := by
  rw [anchorValue, h.describedBy?_eq_some hstyle hs]

namespace HasLayout

/-- **The root is a terminal** only if it is alone. -/
theorem size_eq_one_iff (h : tree.HasLayout counts) : tree.size = 1 ↔ root ∈ tree.terminals := by
  constructor
  · intro hone
    obtain ⟨t, ht, -⟩ := h.exists_terminal h.isLinked.size_pos
    have hlt := (h.mem_terminals.mp ht).1
    rw [hone, Nat.lt_one_iff] at hlt
    rwa [hlt] at ht
  · intro hroot
    by_contra hne
    have htwo : 1 < tree.size := Nat.lt_of_le_of_ne h.isLinked.size_pos (Ne.symm hne)
    have hchain := h.isLinked.root_mem_chain htwo
    rcases List.mem_cons.mp hchain with heq | hmem
    · exact absurd heq (by decide)
    · exact h.disjoint_terminals hroot (h.isLinked.ancestors_subset_innerNodes 1 hmem)

/-- A node alone has no links, whatever the style. -/
theorem isUnlinked_of_size_eq_one (h : tree.HasLayout counts) (hone : tree.size = 1) :
    tree.IsUnlinked style := by
  have hroot : ∀ t ∈ tree.terminals, t = root := by
    intro t ht
    have hlt := (h.mem_terminals.mp ht).1
    rwa [hone, Nat.lt_one_iff] at hlt
  constructor
  · intro t ht
    rw [hroot t ht, ancestors_rootPath_eq_nil_iff]
    exact h.isLinked.keptAncestors_root style
  · intro t ht u hu
    rw [hroot t ht, hroot u hu]

/-- A terminal without ancestors is alone. -/
theorem size_eq_one_of_ancestors_eq_nil (h : tree.HasLayout counts) {t : Nat}
    (ht : t ∈ tree.terminals) (hnil : tree.ancestors t = []) : tree.size = 1 := by
  rw [h.size_eq_one_iff, ← (h.isLinked.ancestors_eq_nil_iff (h.mem_terminals.mp ht).1).mp hnil]
  exact ht

/-- **In plain styles** only a node alone has no links. -/
theorem isUnlinked_iff_of_plain (h : tree.HasLayout counts)
    (hstyle : style.isHierarchical = false) :
    tree.IsUnlinked style ↔ tree.size = 1 := by
  refine ⟨fun hunlinked => ?_, h.isUnlinked_of_size_eq_one⟩
  obtain ⟨t, ht⟩ := List.exists_mem_of_ne_nil _ h.terminals_ne_nil
  refine h.size_eq_one_of_ancestors_eq_nil ht ?_
  rw [← keptAncestors_of_plain tree hstyle, ← ancestors_rootPath_eq_nil_iff]
  exact hunlinked.ancestors_eq_nil t ht

/-- A terminal of a larger tree that keeps no ancestor lies below a root that is a statement. -/
theorem isNearestStatement_root (h : tree.HasLayout counts) (hstyle : style.isHierarchical = true)
    (hsize : tree.size ≠ 1) {t : Nat} (ht : t ∈ tree.terminals)
    (hnil : (tree.rootPath style t).ancestors = []) : tree.IsNearestStatement root t := by
  by_cases hexists : ∃ a, tree.IsAbove a t ∧ (tree.node a).kind = statementKind
  · obtain ⟨s, hs⟩ := h.isLinked.exists_nearestStatement hexists
    have hs_lt : s < tree.size := lt_size_of_not_isTerminal
      (h.isLinked.not_isTerminal_of_mem_ancestors (h.isLinked.isAbove_iff.mp hs.isAbove))
    rw [h.isLinked.ancestors_rootPath_of_nearest hstyle hs, List.map_eq_nil_iff,
      List.reverse_eq_nil_iff, h.isLinked.ancestors_eq_nil_iff hs_lt] at hnil
    exact hnil ▸ hs
  · -- Without a statement nothing is cut, so that the terminal has no ancestors at all.
    have hnone : ∀ a, tree.IsAbove a t → (tree.node a).kind ≠ statementKind :=
      fun a habove hkind => hexists ⟨a, habove, hkind⟩
    rw [h.isLinked.rootPath_eq_uncut hstyle hnone, ancestors_rootPath_eq_nil_iff,
      keptAncestors_of_plain tree style.isHierarchical_uncut] at hnil
    exact absurd (h.size_eq_one_of_ancestors_eq_nil ht hnil) hsize

/-- **In hierarchical styles** a tree that is one statement has no links either. -/
theorem isUnlinked_iff_of_hierarchical (h : tree.HasLayout counts)
    (hstyle : style.isHierarchical = true) :
    tree.IsUnlinked style ↔ tree.size = 1 ∨ tree.IsOneStatement := by
  constructor
  · intro hunlinked
    by_cases hone : tree.size = 1
    · exact Or.inl hone
    · refine Or.inr ⟨?_, ?_⟩
      · intro t ht
        exact h.isNearestStatement_root hstyle hone ht (hunlinked.ancestors_eq_nil t ht)
      · intro t ht u hu
        have hanchor := hunlinked.anchor_eq t ht u hu
        rw [anchor_rootPath, anchor_rootPath] at hanchor
        exact (Label.append_mark_inj hanchor).2
  · rintro (hone | hstatement)
    · exact h.isUnlinked_of_size_eq_one hone
    · constructor
      · intro t ht
        rw [h.isLinked.ancestors_rootPath_of_nearest hstyle (hstatement.isNearest t ht),
          IsLinked.ancestors_of_parent_eq_none h.isLinked.parent_root]
        rfl
      · intro t ht u hu
        rw [anchor_rootPath, anchor_rootPath,
          anchorValue_of_nearest h.isLinked hstyle (hstatement.isNearest t ht),
          anchorValue_of_nearest h.isLinked hstyle (hstatement.isNearest u hu), Node.mark,
          Node.mark, hstatement.span_eq t ht u hu]

end HasLayout

end SyntaxTree

/-! ### Units -/

section Units

variable {settings : Settings} {tree : SyntaxTree} {counts : List Nat}

/-- **Labels are too few** exactly for root paths without links. -/
theorem linkCount_treePaths_lt_two_iff (h : tree.HasLayout counts) :
    linkCount ((treePaths settings tree).map RootPath.anchor)
        ((treePaths settings tree).flatMap RootPath.ancestors) < 2 ↔
      tree.IsUnlinked settings.treeStyleOrDefault := by
  rw [treePaths_eq_map, List.map_map, List.flatMap_map,
    linkCount_lt_two_iff (mt List.map_eq_nil_iff.mp h.terminals_ne_nil)]
  simp only [List.forall_mem_map, List.flatMap_eq_nil_iff]
  constructor
  · rintro ⟨hanchors, hancestors⟩
    exact ⟨hancestors, hanchors⟩
  · intro hunlinked
    exact ⟨hunlinked.anchor_eq, hunlinked.ancestors_eq_nil⟩

/-- **The coverage of a unit is refused** exactly if its root paths have no links. -/
theorem exists_coverage_eq_error_iff (h : tree.HasLayout counts) (stream : WordStream) :
    (∃ cause, (CodeUnit.coverage ⟨tree, settings⟩ stream).1 = .error cause) ↔
      tree.IsUnlinked settings.treeStyleOrDefault := by
  rw [← linkCount_treePaths_lt_two_iff h]
  constructor
  · rintro ⟨cause, hcause⟩
    have hfew := (((Session.refusesFewLabels _ _).eq_error_iff cause).mp hcause).1
    rw [← linkCount_eq_card] at hfew
    exact hfew
  · intro hfew
    refine ⟨_, ((Session.refusesFewLabels _ _).eq_error_iff _).mpr ⟨?_, rfl⟩⟩
    rw [← linkCount_eq_card]
    exact hfew

end Units

/-- **Coverage of a tree is refused** only where there are no links to cover. -/
structure SyntaxTree.RefusesLinkless (tree : SyntaxTree) (settings : Settings)
    (stream : WordStream) : Prop where
  /-- With room for both tables, a coverage is found or refused. -/
  exists_outcome : settings.HasRoom → ∃ outcome after,
    CodeUnit.tryCoverage ⟨tree, settings⟩ stream = .ok (outcome, after)
  /-- In plain styles it is then refused if the tree has one node. -/
  plain_iff : settings.HasRoom → settings.treeStyleOrDefault.isHierarchical = false →
    ((∃ cause after, CodeUnit.tryCoverage ⟨tree, settings⟩ stream = .ok (.error cause, after)) ↔
      tree.size = 1)
  /-- In hierarchical styles, if it has one node, or is one statement with all terminals in one
  place. -/
  hierarchical_iff : settings.HasRoom → settings.treeStyleOrDefault.isHierarchical = true →
    ((∃ cause after, CodeUnit.tryCoverage ⟨tree, settings⟩ stream = .ok (.error cause, after)) ↔
      tree.size = 1 ∨ tree.IsOneStatement)
  /-- Without room there is no outcome, whatever the tree. -/
  eq_error : ¬ settings.HasRoom →
    CodeUnit.tryCoverage ⟨tree, settings⟩ stream = .error .capacityOverflow

/-- **Coverage is refused exactly on trees without links**, whatever is sampled, as long as
there is room for the samples. -/
theorem refusesLinkless_of_build {normalizer : Normalizer} {raw : ParseTree}
    {lines : List String} {tree : SyntaxTree}
    (h : SyntaxTree.build normalizer raw lines = .ok tree) :
    (∀ (session : Session) (eldestCount : Nat), session.RefusesFewLabels eldestCount) ∧
      ∀ (settings : Settings) (stream : WordStream), tree.RefusesLinkless settings stream := by
  have hlayout := SyntaxTree.hasLayout_of_build h
  refine ⟨Session.refusesFewLabels, fun settings stream => ?_⟩
  -- With room, what is refused is the coverage of the pure sample.
  have hrefused (hroom : settings.HasRoom) :
      (∃ cause after, CodeUnit.tryCoverage ⟨tree, settings⟩ stream = .ok (.error cause, after)) ↔
        tree.IsUnlinked settings.treeStyleOrDefault := by
    rw [← exists_coverage_eq_error_iff hlayout stream, CodeUnit.tryCoverage_eq, if_pos hroom]
    simp only [Except.ok.injEq, Prod.ext_iff, exists_and_left, exists_eq', and_true]
  exact
    { exists_outcome := by
        intro hroom
        rw [CodeUnit.tryCoverage_eq, if_pos hroom]
        exact ⟨_, _, rfl⟩
      plain_iff := by
        intro hroom hstyle
        rw [hrefused hroom, hlayout.isUnlinked_iff_of_plain hstyle]
      hierarchical_iff := by
        intro hroom hstyle
        rw [hrefused hroom, hlayout.isUnlinked_iff_of_hierarchical hstyle]
      eq_error := by
        intro hroom
        rw [CodeUnit.tryCoverage_eq, if_neg hroom] }

/-- The parse tree of a line with a name of one letter, a statement of its own. -/
def ParseTree.bareName : ParseTree :=
  .node "expression_statement" (.columns 0 1) [.node "identifier" (.columns 0 1) []]

/-- The tree of the line `a`. -/
def SyntaxTree.bareName : SyntaxTree :=
  .layout
    [⟨"expression_statement", "a", .columns 0 1⟩, ⟨"identifier", "a", .columns 0 1⟩] [1, 0]

/-- A name in a statement has a link, which hierarchical styles do not keep. -/
theorem refusesLinkless_bareName :
    let settings := { Settings.unset with treeStyle := some .hst }
    SyntaxTree.build .verbatim .bareName ["a"] = .ok .bareName ∧
      settings.HasRoom ∧
      CodeUnit.tryCoverage ⟨.bareName, settings⟩ (.ofSeed 0) =
        .ok (.error (.degenerateTree 1 0), .ofSeed 0) ∧
      CodeUnit.tryCoverage ⟨.bareName, .unset⟩ (.ofSeed 0) =
        .ok
          (.ok
            { rootLinks := ⟨1, 1⟩, leafLinks := ⟨-1, 1⟩, binaryLinks := ⟨1, 1⟩
              rootNodes := ⟨2, 2⟩, leafNodes := ⟨0, 2⟩ }, .ofSeed 0) ∧
      (∀ (session : Session) (eldestCount : Nat), session.RefusesFewLabels eldestCount) ∧
      ∀ (settings : Settings) (stream : WordStream),
        SyntaxTree.bareName.RefusesLinkless settings stream := by
  intro settings
  have hbuilt : SyntaxTree.build .verbatim .bareName ["a"] = .ok .bareName := by
    decide +kernel
  have hrefused : CodeUnit.tryCoverage ⟨.bareName, settings⟩ (.ofSeed 0) =
      .ok (.error (.degenerateTree 1 0), .ofSeed 0) := by
    decide +kernel
  have hplain : CodeUnit.tryCoverage ⟨.bareName, .unset⟩ (.ofSeed 0) =
      .ok
        (.ok
          { rootLinks := ⟨1, 1⟩, leafLinks := ⟨-1, 1⟩, binaryLinks := ⟨1, 1⟩
            rootNodes := ⟨2, 2⟩, leafNodes := ⟨0, 2⟩ }, .ofSeed 0) := by
    decide +kernel
  exact ⟨hbuilt, by decide, hrefused, hplain, refusesLinkless_of_build hbuilt⟩

/-- With 2⁶³ - 1 places for root paths the coverage of the same name is not refused, in a plain
style, and not found either. -/
theorem tryCoverage_bareName :
    let settings := { Settings.unset with rootPathQuota := some (Nat.pow 2 63 - 1) }
    SyntaxTree.build .verbatim .bareName ["a"] = .ok .bareName ∧
      settings.treeStyleOrDefault.isHierarchical = false ∧ SyntaxTree.bareName.size ≠ 1 ∧
      CodeUnit.tryCoverage ⟨.bareName, settings⟩ (.ofSeed 0) = .error .capacityOverflow := by
  intro settings
  have hbuilt : SyntaxTree.build .verbatim .bareName ["a"] = .ok .bareName := by
    decide +kernel
  have hroom : ¬ settings.HasRoom := by decide
  exact ⟨hbuilt, rfl, by decide, by rw [CodeUnit.tryCoverage_eq, if_neg hroom]⟩

end SyntaxPaths
