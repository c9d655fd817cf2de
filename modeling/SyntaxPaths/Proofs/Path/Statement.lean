import SyntaxPaths.Path.Leaf
import SyntaxPaths.Proofs.Path.Anchor
import SyntaxPaths.Proofs.Path.Lineage
import SyntaxPaths.Proofs.Path.Merge

/-!
# How a statement is described

In a hierarchical style every terminal of an expression statement describes the whole
statement: its anchor joins the values of all identifiers in the subtree of the statement.

* **The order is that of the table.**  The identifiers are met in a walk that starts at the
  statement and proceeds level by level, while the places in the table come from a walk that
  starts at the root.  The two agree, for children stand in the order of their parents
  (`HasLayout.lt_of_mem_children`), so the places grow within a level and from each level to
  the next (`HasLayout.pairwise_levelsBelow`).
* **Values are joined whole.**  A value is cut at its separators before all are joined, which
  gives the same text (`Text.join_flatMap_pieces`).

Two terminals with the same nearest statement are then described alike, up to the marks of
their anchors.  Their lists of ancestors run together to the end, so merging leaves nothing
below the meeting point (`merge?_self`), and no leaf path leads from one to the other.
-/

namespace SyntaxPaths

open Text

/-! ### Equal lists of labels -/

/-- **A list runs together with itself** to its end. -/
theorem merge?_self (labels : List String) :
    merge? labels labels =
      labels.getLast?.map fun summit => { upward := [], summit, downward := [] } := by
  rcases List.eq_nil_or_concat labels with rfl | ⟨shared, summit, rfl⟩
  · rfl
  · rw [List.concat_eq_append, merge?_append shared summit (by simp), List.getLast?_concat]
    rfl

/-- Without legs a merge does not qualify, whatever the bounds. -/
theorem not_qualifies_of_merge?_self {labels : List String} {merge : Merge}
    (h : merge? labels labels = some merge) (width length : Nat) :
    merge.qualifies width length = false := by
  rw [merge?_self, Option.map_eq_some_iff] at h
  obtain ⟨summit, -, rfl⟩ := h
  rfl

theorem leafPath?_eq_none_of_ancestors_eq {u v : RootPath} (h : u.ancestors = v.ancestors)
    (shape : LeafPathShape) : leafPath? shape u v = none := by
  rw [leafPath?, h, Option.bind_eq_none_iff]
  intro merge hmerge
  rw [not_qualifies_of_merge?_self hmerge]
  rfl

namespace SyntaxTree

variable {tree : SyntaxTree} {style : TreeStyle} {counts : List Nat}

/-! ### Level order -/

/-- What is met below a level stands in the table behind some node of it, or in its place. -/
theorem IsLinked.exists_le_of_mem_levelsBelow (h : tree.IsLinked) {depth j : Nat}
    {level : List Nat} (hj : j ∈ tree.levelsBelow depth level) : ∃ s ∈ level, s ≤ j := by
  induction depth generalizing level with
  | zero => cases hj
  | succ depth ih =>
      rw [levelsBelow_succ, List.mem_append] at hj
      rcases hj with hj | hj
      · exact ⟨j, hj, Nat.le_refl j⟩
      · obtain ⟨c, hc, hle⟩ := ih hj
        obtain ⟨s, hs, hchild⟩ := List.mem_flatMap.mp hc
        have hlt := (h.lt_of_parent (h.mem_children.mp hchild)).1
        exact ⟨s, hs, by omega⟩

/-- **Level order follows the table**, if it starts from a level in the order of the table
whose nodes all stand before all of their children. -/
theorem HasLayout.pairwise_levelsBelow (h : tree.HasLayout counts) {depth : Nat}
    {level : List Nat} (hlevel : level.Pairwise (· < ·))
    (hnext : ∀ s ∈ level, ∀ p ∈ level, ∀ c ∈ (tree.node p).children, s < c) :
    (tree.levelsBelow depth level).Pairwise (· < ·) := by
  induction depth generalizing level with
  | zero => exact List.Pairwise.nil
  | succ depth ih =>
      rw [levelsBelow_succ, List.pairwise_append]
      refine ⟨hlevel, ih ?_ ?_, ?_⟩
      · -- The next level is in order: within a family, and from one family to the next.
        refine List.pairwise_flatMap.mpr ⟨fun p _ => h.isLinked.children_lt p, ?_⟩
        exact hlevel.imp fun hlt c hc d hd => h.lt_of_mem_children hlt hc hd
      · -- A node of the next level stands before every child of that level, as its parent
        -- stands before the parent of the child.
        intro s hs p hp c hc
        obtain ⟨r, hr, hs⟩ := List.mem_flatMap.mp hs
        obtain ⟨q, hq, hp⟩ := List.mem_flatMap.mp hp
        exact h.lt_of_mem_children (hnext r hr q hq p hp) hs hc
      · intro s hs j hj
        obtain ⟨c, hc, hle⟩ := h.isLinked.exists_le_of_mem_levelsBelow hj
        obtain ⟨p, hp, hchild⟩ := List.mem_flatMap.mp hc
        exact Nat.lt_of_lt_of_le (hnext s hs p hp c hchild) hle

/-- **The nodes of a subtree** are met in the order of the table. -/
theorem HasLayout.pairwise_subtree (h : tree.HasLayout counts) (s : Nat) :
    (tree.subtree s).Pairwise (· < ·) := by
  refine h.pairwise_levelsBelow (List.pairwise_singleton _ s) ?_
  intro r hr p hp c hchild
  obtain rfl := List.mem_singleton.mp hr
  obtain rfl := List.mem_singleton.mp hp
  exact (h.isLinked.lt_of_parent (h.isLinked.mem_children.mp hchild)).1

/-! ### Anchors -/

/-- A statement has a place in the table. -/
theorem lt_size_of_kind_eq {s : Nat} (h : (tree.node s).kind = statementKind) :
    s < tree.size := by
  by_contra hs
  rw [node_eq_default (Nat.not_lt.mp hs)] at h
  exact absurd h (by decide)

/-- **The value in an anchor of a statement** joins the values of its identifiers. -/
theorem identifiersBelow_eq_join (tree : SyntaxTree) (s : Nat) :
    tree.identifiersBelow s = join ((tree.identifiersIn s).map fun j => (tree.node j).value) := by
  rw [← join_flatMap_pieces, List.flatMap_map]
  rfl

/-- **Two nodes are described alike**: their root paths differ in the marks of the anchors at
most. -/
structure AreDescribedAlike (tree : SyntaxTree) (style : TreeStyle) (i j : Nat) : Prop where
  /-- The ancestors are the same. -/
  ancestors_eq : (tree.rootPath style i).ancestors = (tree.rootPath style j).ancestors
  /-- The anchors are one text with different marks. -/
  exists_value : ∃ value, (tree.rootPath style i).anchor = value ++ (tree.node i).mark ∧
    (tree.rootPath style j).anchor = value ++ (tree.node j).mark
  /-- If the ancestors meet, their merge does not qualify for any bounds. -/
  not_qualifies {merge : Merge} :
    merge? (tree.rootPath style i).ancestors (tree.rootPath style j).ancestors = some merge →
      ∀ width length, merge.qualifies width length = false
  /-- No leaf path leads from one node to the other. -/
  leafPath?_eq_none (shape : LeafPathShape) :
    leafPath? shape (tree.rootPath style i) (tree.rootPath style j) = none

/-- **What the root paths below an expression statement say of it**, where `names` are its
identifiers. -/
structure DescribesStatement (tree : SyntaxTree) (style : TreeStyle) (s : Nat)
    (names : List Nat) : Prop where
  /-- Named are the identifiers of the subtree, whether they are terminals or not. -/
  mem_iff (j : Nat) : j ∈ names ↔
    (tree.node j).kind = identifierKind ∧ (j = s ∨ tree.IsAbove s j)
  /-- Each is named once, in the order of their places in the table. -/
  pairwise : names.Pairwise (· < ·)
  /-- The anchor of a node below joins their values, and ends in the mark of the node. -/
  anchor_eq {i : Nat} : tree.IsNearestStatement s i →
    (tree.rootPath style i).anchor =
      join (names.map fun j => (tree.node j).value) ++ (tree.node i).mark
  /-- Any two nodes below are described alike. -/
  areDescribedAlike {i j : Nat} : tree.IsNearestStatement s i → tree.IsNearestStatement s j →
    tree.AreDescribedAlike style i j

/-- **Hierarchical styles describe whole statements**, in every built tree. -/
theorem exists_describesStatement_of_build {normalizer : Normalizer} {raw : ParseTree}
    {lines : List String} {tree : SyntaxTree} (h : build normalizer raw lines = .ok tree)
    {style : TreeStyle} (hstyle : style.isHierarchical = true) {s : Nat}
    (hkind : (tree.node s).kind = statementKind) :
    ∃ names, tree.DescribesStatement style s names := by
  have hlayout := hasLayout_of_build h
  have hlinked := hlayout.isLinked
  have hanchor {i : Nat} (hs : tree.IsNearestStatement s i) :
      (tree.rootPath style i).anchor =
        join ((tree.identifiersIn s).map fun j => (tree.node j).value) ++ (tree.node i).mark := by
    rw [anchor_rootPath, anchorValue, hlinked.describedBy?_eq_some hstyle hs,
      ← identifiersBelow_eq_join]
  refine ⟨tree.identifiersIn s, ?_⟩
  exact
    { mem_iff := by
        intro j
        rw [identifiersIn, List.mem_filter, hlinked.mem_subtree (lt_size_of_kind_eq hkind),
          decide_eq_true_eq, hlinked.isAbove_iff, and_comm]
      pairwise := (hlayout.pairwise_subtree s).filter _
      anchor_eq := hanchor
      areDescribedAlike := by
        intro i j hi hj
        have hancestors : (tree.rootPath style i).ancestors =
            (tree.rootPath style j).ancestors := by
          rw [hlinked.ancestors_rootPath_of_nearest hstyle hi,
            hlinked.ancestors_rootPath_of_nearest hstyle hj]
        exact
          { ancestors_eq := hancestors
            exists_value := ⟨_, hanchor hi, hanchor hj⟩
            not_qualifies := by
              intro merge hmerge
              rw [hancestors] at hmerge
              exact not_qualifies_of_merge?_self hmerge
            leafPath?_eq_none := leafPath?_eq_none_of_ancestors_eq hancestors } }

/-- Two names of the outer statement, one of them deeper than the other, describe it alike, and
the name in the inner statement takes part in the description. -/
theorem describesStatement_nestedStatements :
    build .verbatim .nestedStatements ["a b c"] = .ok .nestedStatements ∧
      (nestedStatements.node 1).kind = statementKind ∧
      nestedStatements.IsNearestStatement 1 3 ∧ nestedStatements.IsNearestStatement 1 4 ∧
      nestedStatements.rootPath .hpt 3 = ⟨["a b c@0~0~0~5"], "c|a|b@0~4~0~5"⟩ ∧
      nestedStatements.rootPath .hpt 4 = ⟨["a b c@0~0~0~5"], "c|a|b@0~0~0~1"⟩ ∧
      ∃ names, nestedStatements.DescribesStatement .hpt 1 names := by
  have hkind : (nestedStatements.node 1).kind = statementKind := by decide +kernel
  have hlinked := isLinked_of_build build_nestedStatements
  have hlast : nestedStatements.statementAbove? 3 = some (1, nestedStatements.ancestors 1) := by
    decide +kernel
  have hfirst : nestedStatements.statementAbove? 4 = some (1, nestedStatements.ancestors 1) := by
    decide +kernel
  refine ⟨build_nestedStatements, hkind, (hlinked.statementAbove?_eq_some_iff.mp hlast).1,
    (hlinked.statementAbove?_eq_some_iff.mp hfirst).1, by decide +kernel, by decide +kernel, ?_⟩
  exact exists_describesStatement_of_build build_nestedStatements rfl hkind

end SyntaxTree

end SyntaxPaths
