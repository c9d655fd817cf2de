import Mathlib.Data.List.Nodup
import Mathlib.Logic.Relation
import SyntaxPaths.Proofs.Path.Root

/-!
# Lineages

The lineage of a node is the way to it from the root: all its proper ancestors, each once,
and each the parent of the next one.  A root path is read off a lineage.

* **The plain styles** write it down as it is, by kinds or by values.
* **The hierarchical styles** break off at the nearest expression statement.  What they keep
  is the lineage of that statement, so the statement itself is left out, and a statement
  farther up is an ancestor like any other.  Without a statement in the lineage they write the
  same root path as the plain style with their labels (`TreeStyle.uncut`).

Ancestors are taken here as the nodes from which links to *children* lead down to a node
(`SyntaxTree.IsAbove`), and the nearest statement as the one that no other statement separates
from the node (`SyntaxTree.IsNearestStatement`).  Neither speaks of a walk upwards; that the
walk finds just these is `IsLinked.isAbove_iff` and `IsLinked.statementAbove?_eq_some_iff`.
-/

namespace SyntaxPaths

/-- The plain style with the same labels. -/
def TreeStyle.uncut : TreeStyle → TreeStyle
  | .ast | .hst => .ast
  | .spt | .hpt => .spt

theorem TreeStyle.isHierarchical_uncut (style : TreeStyle) :
    style.uncut.isHierarchical = false := by
  cases style <;> rfl

theorem Node.markedLabel_uncut (style : TreeStyle) (node : Node) :
    node.markedLabel style.uncut = node.markedLabel style := by
  cases style <;> rfl

namespace SyntaxTree

/-- **A node is above another one** if links to children lead from it down to the other. -/
def IsAbove (tree : SyntaxTree) : Nat → Nat → Prop :=
  Relation.TransGen fun p c => c ∈ (tree.node p).children

/-- **The lineage of a node**: its proper ancestors, from the root down. -/
structure IsLineage (tree : SyntaxTree) (line : List Nat) (i : Nat) : Prop where
  /-- Listed are the nodes above the node. -/
  mem_iff (a : Nat) : a ∈ line ↔ tree.IsAbove a i
  /-- Each is listed once. -/
  nodup : line.Nodup
  /-- The root comes first. -/
  head?_eq : line ≠ [] → line.head? = some root
  /-- Each is the parent of the next one, and the last one is the parent of the node. -/
  isChain : (line ++ [i]).IsChain fun p c => (tree.node c).parent = some p

/-- **The nearest expression statement** above a node. -/
structure IsNearestStatement (tree : SyntaxTree) (s i : Nat) : Prop where
  /-- It is above the node. -/
  isAbove : tree.IsAbove s i
  /-- It is an expression statement. -/
  kind_eq : (tree.node s).kind = statementKind
  /-- Between the two there is no other one. -/
  nearest {b : Nat} : tree.IsAbove s b → tree.IsAbove b i → (tree.node b).kind ≠ statementKind

namespace IsLinked

variable {tree : SyntaxTree} {style : TreeStyle} {i s : Nat}

/-! ### Ancestors -/

/-- **The walk upwards finds the nodes above** the one from which it starts. -/
theorem isAbove_iff (h : tree.IsLinked) {a : Nat} : tree.IsAbove a i ↔ a ∈ tree.ancestors i := by
  constructor
  · intro habove
    induction habove with
    | single hchild =>
        rw [h.ancestors_of_parent (h.mem_children.mp hchild)]
        exact List.mem_cons_self
    | tail _ hchild ih =>
        rw [h.ancestors_of_parent (h.mem_children.mp hchild)]
        exact List.mem_cons_of_mem _ ih
  · intro hmem
    induction i using h.parent_induction with
    | top i hparent =>
        rw [ancestors_of_parent_eq_none hparent] at hmem
        cases hmem
    | step i p hparent ih =>
        have hchild : i ∈ (tree.node p).children := h.mem_children.mpr hparent
        rw [h.ancestors_of_parent hparent] at hmem
        rcases List.mem_cons.mp hmem with rfl | hmem
        · exact Relation.TransGen.single hchild
        · exact (ih hmem).tail hchild

theorem nodup_ancestors (h : tree.IsLinked) (i : Nat) : (tree.ancestors i).Nodup := by
  induction i using h.parent_induction with
  | top i hparent =>
      rw [ancestors_of_parent_eq_none hparent]
      exact List.nodup_nil
  | step i p hparent ih =>
      rw [h.ancestors_of_parent hparent]
      exact List.nodup_cons.mpr ⟨h.not_mem_ancestors_self p, ih⟩

/-- A chain that is not empty ends at the root. -/
theorem getLast?_ancestors (h : tree.IsLinked) (hne : tree.ancestors i ≠ []) :
    (tree.ancestors i).getLast? = some root := by
  obtain ⟨below, hchain⟩ := h.exists_append_of_mem (h.root_mem_ancestors hne)
  have hroot : tree.ancestors root = [] :=
    ancestors_of_parent_eq_none (congrArg Place.parent h.place_root)
  rw [hchain, hroot, List.getLast?_concat]

/-- **The walk upwards, read from its end**, is the lineage. -/
theorem isLineage_reverse (h : tree.IsLinked) (i : Nat) :
    tree.IsLineage (tree.ancestors i).reverse i where
  mem_iff a := by rw [List.mem_reverse, h.isAbove_iff]
  nodup := List.nodup_reverse.mpr (h.nodup_ancestors i)
  head?_eq := by
    intro hne
    rw [List.head?_reverse]
    exact h.getLast?_ancestors fun hnil => hne (by rw [hnil, List.reverse_nil])
  isChain := by
    rw [← List.reverse_cons, List.isChain_reverse]
    exact h.isChain_ancestors i

/-! ### The nearest statement -/

/-- **The walk upwards finds the nearest statement**, and what is left of it are the ancestors
of that statement. -/
theorem statementAbove?_eq_some_iff (h : tree.IsLinked) {above : List Nat} :
    tree.statementAbove? i = some (s, above) ↔
      tree.IsNearestStatement s i ∧ above = tree.ancestors s := by
  rw [statementAbove?]
  constructor
  · intro hfirst
    obtain ⟨below, hchain, hkind, hbelow⟩ := firstStatement?_eq_some hfirst
    obtain rfl := h.eq_ancestors_of_append hchain
    refine ⟨⟨?_, hkind, ?_⟩, rfl⟩
    · rw [h.isAbove_iff, hchain]
      exact List.mem_append_right _ List.mem_cons_self
    · intro b hs hb
      rw [h.isAbove_iff] at hs hb
      -- A node between the two stands in front of the statement in the chain.
      refine hbelow b ?_
      rw [← h.filter_ancestors hchain, List.mem_filter]
      exact ⟨hb, decide_eq_true hs⟩
  · rintro ⟨hnearest, rfl⟩
    obtain ⟨below, hchain⟩ := h.exists_append_of_mem (h.isAbove_iff.mp hnearest.isAbove)
    have hbelow : ∀ b ∈ below, (tree.node b).kind ≠ statementKind := by
      intro b hb
      refine hnearest.nearest (h.isAbove_iff.mpr (h.mem_ancestors_of_append hchain hb)) ?_
      rw [h.isAbove_iff, hchain]
      exact List.mem_append_left _ hb
    rw [hchain]
    exact firstStatement?_append hnearest.kind_eq hbelow

/-- A node has one nearest statement at most. -/
theorem nearestStatement_unique (h : tree.IsLinked) {t : Nat} (hs : tree.IsNearestStatement s i)
    (ht : tree.IsNearestStatement t i) : s = t := by
  have hsome := h.statementAbove?_eq_some_iff.mpr ⟨hs, rfl⟩
  rw [h.statementAbove?_eq_some_iff.mpr ⟨ht, rfl⟩, Option.some.injEq, Prod.mk.injEq] at hsome
  exact hsome.1.symm

/-- If there is a statement above a node, one of them is the nearest. -/
theorem exists_nearestStatement (h : tree.IsLinked)
    (hexists : ∃ a, tree.IsAbove a i ∧ (tree.node a).kind = statementKind) :
    ∃ s, tree.IsNearestStatement s i := by
  obtain ⟨a, habove, hkind⟩ := hexists
  cases hfirst : tree.statementAbove? i with
  | none =>
      exact absurd hkind (firstStatement?_eq_none_iff.mp hfirst a (h.isAbove_iff.mp habove))
  | some found => exact ⟨found.1, (h.statementAbove?_eq_some_iff.mp hfirst).1⟩

/-! ### Root paths -/

section Hierarchical

variable (hstyle : style.isHierarchical = true)
include hstyle

theorem describedBy?_eq_some (h : tree.IsLinked) (hs : tree.IsNearestStatement s i) :
    tree.describedBy? style i = some (s, tree.ancestors s) := by
  rw [describedBy?, if_pos hstyle]
  exact h.statementAbove?_eq_some_iff.mpr ⟨hs, rfl⟩

/-- **Below a statement** the ancestors of that statement are kept. -/
theorem ancestors_rootPath_of_nearest (h : tree.IsLinked) (hs : tree.IsNearestStatement s i) :
    (tree.rootPath style i).ancestors = (tree.ancestors s).reverse.map (tree.labelAt style) := by
  rw [ancestors_rootPath, keptAncestors, h.describedBy?_eq_some hstyle hs, List.map_reverse]

/-- **Outside of statements** nothing is cut. -/
theorem rootPath_eq_uncut (h : tree.IsLinked)
    (hnone : ∀ a, tree.IsAbove a i → (tree.node a).kind ≠ statementKind) :
    tree.rootPath style i = tree.rootPath style.uncut i := by
  have hfirst : tree.statementAbove? i = none :=
    firstStatement?_eq_none_iff.mpr fun a ha => hnone a (h.isAbove_iff.mpr ha)
  rw [rootPath, rootPath, describedBy?, describedBy?, if_pos hstyle, hfirst,
    if_neg (by simp [style.isHierarchical_uncut])]
  simp only [Node.markedLabel_uncut]

end Hierarchical

end IsLinked

/-- **What the root path of a node holds in the four styles**, where `line` is the lineage of
the node. -/
structure ReadsLineage (tree : SyntaxTree) (line : List Nat) (i : Nat) : Prop where
  /-- The line holds the proper ancestors of the node, the root first. -/
  isLineage : tree.IsLineage line i
  /-- One plain style writes the kinds of all ancestors, each with its own mark. -/
  ancestors_ast : (tree.rootPath .ast i).ancestors =
    line.map fun a => (tree.node a).kind ++ (tree.node a).mark
  /-- The other plain style writes their values. -/
  ancestors_spt : (tree.rootPath .spt i).ancestors =
    line.map fun a => (tree.node a).value ++ (tree.node a).mark
  /-- Both end in the value of the node and its own mark. -/
  anchor_eq {style : TreeStyle} : style.isHierarchical = false →
    (tree.rootPath style i).anchor = (tree.node i).value ++ (tree.node i).mark
  /-- If an ancestor is an expression statement, one of them is the nearest. -/
  existsUnique_nearest : (∃ a ∈ line, (tree.node a).kind = statementKind) →
    ∃! s, tree.IsNearestStatement s i
  /-- A hierarchical style then keeps the labels of all that is above that statement, which is
  a beginning of what the plain style with its labels writes. -/
  cut {style : TreeStyle} {s : Nat} : style.isHierarchical = true →
    tree.IsNearestStatement s i → ∃ above below, line = above ++ s :: below ∧
      tree.IsLineage above s ∧
      (tree.rootPath style i).ancestors = above.map (tree.labelAt style) ∧
      (tree.rootPath style i).ancestors =
        (tree.rootPath style.uncut i).ancestors.take above.length
  /-- Without such an ancestor it writes the same root path, the anchor included. -/
  uncut {style : TreeStyle} : style.isHierarchical = true →
    (∀ a ∈ line, (tree.node a).kind ≠ statementKind) →
      tree.rootPath style i = tree.rootPath style.uncut i

/-- **Every root path of a built tree is read off the lineage** of its node. -/
theorem exists_readsLineage_of_build {normalizer : Normalizer} {raw : ParseTree}
    {lines : List String} {tree : SyntaxTree} (h : build normalizer raw lines = .ok tree)
    (i : Nat) : ∃ line, tree.ReadsLineage line i := by
  have hlinked := isLinked_of_build h
  have hlineage := hlinked.isLineage_reverse i
  have hplain {style : TreeStyle} (hstyle : style.isHierarchical = false) :
      (tree.rootPath style i).ancestors =
        (tree.ancestors i).reverse.map (tree.labelAt style) := by
    rw [ancestors_rootPath, keptAncestors_of_plain tree hstyle, List.map_reverse]
  refine ⟨(tree.ancestors i).reverse, ?_⟩
  exact
    { isLineage := hlineage
      ancestors_ast := hplain rfl
      ancestors_spt := hplain rfl
      anchor_eq := by
        intro style hstyle
        rw [anchor_rootPath, anchorValue_of_plain tree hstyle]
      existsUnique_nearest := by
        rintro ⟨a, ha, hkind⟩
        obtain ⟨s, hs⟩ := hlinked.exists_nearestStatement ⟨a, (hlineage.mem_iff a).mp ha, hkind⟩
        exact ⟨s, hs, fun t ht => hlinked.nearestStatement_unique ht hs⟩
      cut := by
        intro style s hstyle hs
        obtain ⟨below, hchain⟩ :=
          hlinked.exists_append_of_mem (hlinked.isAbove_iff.mp hs.isAbove)
        have hline : (tree.ancestors i).reverse =
            (tree.ancestors s).reverse ++ s :: below.reverse := by
          rw [hchain]
          simp
        refine ⟨(tree.ancestors s).reverse, below.reverse, hline, hlinked.isLineage_reverse s,
          hlinked.ancestors_rootPath_of_nearest hstyle hs, ?_⟩
        rw [hlinked.ancestors_rootPath_of_nearest hstyle hs,
          hplain style.isHierarchical_uncut, ← List.map_take, hline, List.take_left]
        exact List.map_congr_left fun a _ => (Node.markedLabel_uncut style (tree.node a)).symm
      uncut := by
        intro style hstyle hnone
        refine hlinked.rootPath_eq_uncut hstyle fun a ha => ?_
        exact hnone a ((hlineage.mem_iff a).mpr ha) }

end SyntaxTree

/-- The parse tree of the line `a b c`, a statement with another one inside it. -/
def ParseTree.nestedStatements : ParseTree :=
  .node "module" (.columns 0 5)
    [.node "expression_statement" (.columns 0 5)
      [.node "call" (.columns 0 3)
        [.node "identifier" (.columns 0 1) [],
          .node "expression_statement" (.columns 2 3) [.node "identifier" (.columns 2 3) []]],
        .node "identifier" (.columns 4 5) []]]

namespace SyntaxTree

/-- The tree of the line `a b c`.  In level order the last name comes before the other two. -/
def nestedStatements : SyntaxTree :=
  .layout
    [⟨"module", "a b c", .columns 0 5⟩, ⟨"expression_statement", "a b c", .columns 0 5⟩,
      ⟨"call", "a b", .columns 0 3⟩, ⟨"identifier", "c", .columns 4 5⟩,
      ⟨"identifier", "a", .columns 0 1⟩, ⟨"expression_statement", "b", .columns 2 3⟩,
      ⟨"identifier", "b", .columns 2 3⟩]
    [1, 2, 2, 0, 0, 1, 0]

theorem build_nestedStatements :
    build .verbatim .nestedStatements ["a b c"] = .ok .nestedStatements := by
  decide +kernel

/-- The name in the inner statement keeps the outer one among its ancestors. -/
theorem readsLineage_nestedStatements :
    build .verbatim .nestedStatements ["a b c"] = .ok .nestedStatements ∧
      (nestedStatements.rootPath .hst 6).ancestors =
        ["module@0~0~0~5", "expression_statement@0~0~0~5", "call@0~0~0~3"] ∧
      ∃ line, nestedStatements.ReadsLineage line 6 :=
  have hkept : (nestedStatements.rootPath .hst 6).ancestors =
      ["module@0~0~0~5", "expression_statement@0~0~0~5", "call@0~0~0~3"] := by
    decide +kernel
  ⟨build_nestedStatements, hkept, exists_readsLineage_of_build build_nestedStatements 6⟩

end SyntaxTree

end SyntaxPaths
