import Mathlib.Data.List.Basic
import SyntaxPaths.Proofs.SyntaxTree.Postorder

/-!
# Terminals, inner nodes and links

The nodes of a built tree are its terminals and its inner nodes, and **every inner node is
an ancestor of a terminal** (`HasLayout.exists_terminal`).  The rest is counting.

* **Links.**  Every node but the root has a link to its parent
  (`IsLinked.length_parentLinks`), and every inner node one to its left child
  (`HasLayout.length_leftLinks`).
* **Inner nodes against terminals.**  Where no inner node has a single child, there are
  fewer inner nodes than terminals (`HasLayout.length_innerNodes_lt`).
-/

namespace SyntaxPaths.SyntaxTree

/-- The nodes with children, in the order of their places. -/
def innerNodes (tree : SyntaxTree) : List Nat :=
  (List.range tree.size).filter fun i => !(tree.node i).isTerminal

/-- The link from a node to its parent, as the two nodes that it joins. -/
def parentLink? (tree : SyntaxTree) (i : Nat) : Option (Nat × Nat) :=
  (tree.node i).parent.map (i, ·)

/-- All links from nodes to their parents. -/
def parentLinks (tree : SyntaxTree) : List (Nat × Nat) :=
  (List.range tree.size).filterMap tree.parentLink?

/-- The links on the way from a node to the root. -/
def linksAbove (tree : SyntaxTree) (i : Nat) : List (Nat × Nat) :=
  (i :: tree.ancestors i).filterMap tree.parentLink?

/-- All links from nodes to their left children. -/
def leftLinks (tree : SyntaxTree) : List (Nat × Nat) :=
  (List.range tree.size).filterMap fun i => (tree.node i).leftChild.map (i, ·)

variable {tree : SyntaxTree}

/-- Outside the table there are no children, so an inner node has a place in it. -/
theorem lt_size_of_not_isTerminal {i : Nat} (h : (tree.node i).isTerminal = false) :
    i < tree.size := by
  by_contra hi
  rw [node_eq_default (Nat.not_lt.mp hi)] at h
  cases h

theorem mem_innerNodes {i : Nat} : i ∈ tree.innerNodes ↔ (tree.node i).isTerminal = false := by
  rw [innerNodes, List.mem_filter, List.mem_range, Bool.not_eq_true']
  exact and_iff_right_of_imp lt_size_of_not_isTerminal

theorem nodup_innerNodes (tree : SyntaxTree) : tree.innerNodes.Nodup :=
  List.nodup_range.filter _

theorem parentLink?_eq_some {i : Nat} {link : Nat × Nat} :
    tree.parentLink? i = some link ↔ (tree.node i).parent = some link.2 ∧ link.1 = i := by
  rw [parentLink?, Option.map_eq_some_iff]
  constructor
  · rintro ⟨p, hparent, rfl⟩
    exact ⟨hparent, rfl⟩
  · rintro ⟨hparent, rfl⟩
    exact ⟨link.2, hparent, rfl⟩

theorem mem_linksAbove {i : Nat} {link : Nat × Nat} :
    link ∈ tree.linksAbove i ↔
      link.1 ∈ i :: tree.ancestors i ∧ (tree.node link.1).parent = some link.2 := by
  rw [linksAbove, List.mem_filterMap]
  constructor
  · rintro ⟨c, hc, hlink⟩
    obtain ⟨hparent, rfl⟩ := parentLink?_eq_some.mp hlink
    exact ⟨hc, hparent⟩
  · rintro ⟨hc, hparent⟩
    exact ⟨link.1, hc, parentLink?_eq_some.mpr ⟨hparent, rfl⟩⟩

namespace IsLinked

theorem parent_root (h : tree.IsLinked) : (tree.node root).parent = none :=
  congrArg Place.parent h.place_root

/-- Every node but the root has a parent. -/
theorem isSome_parent_iff (h : tree.IsLinked) {i : Nat} (hi : i < tree.size) :
    (tree.node i).parent.isSome = true ↔ i ≠ root := by
  constructor
  · rintro hsome rfl
    rw [h.parent_root] at hsome
    cases hsome
  · intro hne
    obtain ⟨p, k, hchild⟩ := h.exists_parent (Nat.pos_of_ne_zero hne) hi
    rw [h.parent_child hchild]
    rfl

/-- A node or one of its ancestors is the root. -/
theorem root_mem_chain (h : tree.IsLinked) {i : Nat} (hi : i < tree.size) :
    root ∈ i :: tree.ancestors i := by
  by_cases hroot : i = root
  · exact hroot ▸ List.mem_cons_self
  · refine List.mem_cons_of_mem i (h.root_mem_ancestors ?_)
    obtain ⟨p, hparent⟩ := Option.isSome_iff_exists.mp ((h.isSome_parent_iff hi).mpr hroot)
    rw [h.ancestors_of_parent hparent]
    exact List.cons_ne_nil p _

/-- **There is one link less than nodes.** -/
theorem length_parentLinks (h : tree.IsLinked) : tree.parentLinks.length = tree.size - 1 := by
  obtain ⟨further, hsize⟩ := Nat.exists_eq_add_of_lt h.size_pos
  have hlinked : ∀ i ∈ List.range tree.size,
      (tree.parentLink? i).isSome = true ↔ decide (i ≠ root) = true := by
    intro i hi
    rw [parentLink?, Option.isSome_map, h.isSome_parent_iff (List.mem_range.mp hi),
      decide_eq_true_iff]
  rw [parentLinks, List.length_filterMap_eq_countP, List.countP_congr hlinked, hsize,
    Nat.zero_add, List.range_succ_eq_map, List.countP_cons, List.countP_map]
  simp [root, Function.comp_def]

theorem ancestors_subset_innerNodes (h : tree.IsLinked) (i : Nat) :
    tree.ancestors i ⊆ tree.innerNodes :=
  fun _ hmem => mem_innerNodes.mpr (h.not_isTerminal_of_mem_ancestors hmem)

end IsLinked

/-- Numbers other than one are at least two, or zero. -/
theorem two_mul_countP_le_sum {counts : List Nat} (h : ∀ count ∈ counts, count ≠ 1) :
    2 * counts.countP (· ≠ 0) ≤ counts.sum := by
  induction counts with
  | nil => exact Nat.le_refl 0
  | cons count counts ih =>
      obtain ⟨hcount, hrest⟩ := List.forall_mem_cons.mp h
      have hle := ih hrest
      rw [List.countP_cons, List.sum_cons]
      by_cases hzero : count = 0
      · simpa only [hzero, ne_eq, not_true_eq_false, decide_false, Bool.false_eq_true, if_false,
          Nat.add_zero, Nat.zero_add] using hle
      · rw [if_pos (decide_eq_true hzero)]
        omega

namespace HasLayout

variable {counts : List Nat}

theorem mem_terminals (h : tree.HasLayout counts) {i : Nat} :
    i ∈ tree.terminals ↔ i < tree.size ∧ (tree.node i).isTerminal = true := by
  rw [h.terminals_eq_filter, List.mem_filter, List.mem_range]
  rfl

theorem nodup_terminals (h : tree.HasLayout counts) : tree.terminals.Nodup := by
  rw [h.terminals_eq_filter]
  exact List.nodup_range.filter _

/-- No terminal is an ancestor. -/
theorem disjoint_terminals (h : tree.HasLayout counts) :
    tree.terminals.Disjoint tree.innerNodes := by
  intro i hterminal hinner
  rw [mem_innerNodes, (h.mem_terminals.mp hterminal).2] at hinner
  cases hinner

/-- **Every node is a terminal or an ancestor of one.** -/
theorem exists_terminal (h : tree.HasLayout counts) {i : Nat} (hi : i < tree.size) :
    ∃ t ∈ tree.terminals, i ∈ t :: tree.ancestors t := by
  induction i using h.isLinked.child_induction with
  | step i ih =>
      cases hterminal : (tree.node i).isTerminal with
      | true => exact ⟨i, h.mem_terminals.mpr ⟨hi, hterminal⟩, List.mem_cons_self⟩
      | false =>
          obtain ⟨c, hc⟩ := List.exists_mem_of_ne_nil _ (List.isEmpty_eq_false_iff.mp hterminal)
          have hlt := h.isLinked.lt_of_parent (h.isLinked.mem_children.mp hc)
          obtain ⟨t, ht, hmem⟩ := ih c hc hlt.2
          refine ⟨t, ht, List.mem_cons_of_mem t (h.isLinked.mem_ancestors_iff.mpr ⟨c, hc, ?_⟩)⟩
          rcases List.mem_cons.mp hmem with rfl | hmem
          · exact Or.inl rfl
          · exact Or.inr hmem

/-- The nodes above terminals are the inner nodes. -/
theorem mem_flatMap_ancestors (h : tree.HasLayout counts) {i : Nat} :
    i ∈ tree.terminals.flatMap tree.ancestors ↔ i ∈ tree.innerNodes := by
  rw [List.mem_flatMap]
  constructor
  · rintro ⟨t, -, hmem⟩
    exact h.isLinked.ancestors_subset_innerNodes t hmem
  · intro hinner
    obtain ⟨t, ht, hmem⟩ := h.exists_terminal (lt_size_of_not_isTerminal (mem_innerNodes.mp hinner))
    rcases List.mem_cons.mp hmem with rfl | hmem
    · exact absurd hinner (h.disjoint_terminals ht)
    · exact ⟨t, ht, hmem⟩

theorem terminals_ne_nil (h : tree.HasLayout counts) : tree.terminals ≠ [] := by
  obtain ⟨t, ht, -⟩ := h.exists_terminal h.isLinked.size_pos
  exact List.ne_nil_of_mem ht

theorem length_innerNodes (h : tree.HasLayout counts) :
    tree.innerNodes.length = tree.eldestCount := by
  rw [h.eldestCount_eq_countP, List.countP_eq_length_filter]
  rfl

theorem length_terminals_add (h : tree.HasLayout counts) :
    tree.terminals.length + tree.innerNodes.length = tree.size := by
  have hsplit : (List.range tree.size).length = _ :=
    List.length_eq_length_filter_add fun i => (tree.node i).isTerminal
  rw [List.length_range] at hsplit
  rw [h.terminals_eq_filter]
  exact hsplit.symm

/-- **Each inner node has a link to its left child**, and no other node has. -/
theorem length_leftLinks (h : tree.HasLayout counts) :
    tree.leftLinks.length = tree.eldestCount := by
  have hlinked : ∀ i ∈ List.range tree.size,
      ((tree.node i).leftChild.map (i, ·)).isSome = true ↔
        (!(tree.node i).children.isEmpty) = true := by
    intro i _
    rw [Option.isSome_map, h.leftChild_eq]
    cases (tree.node i).children <;> simp
  rw [leftLinks, List.length_filterMap_eq_countP, List.countP_congr hlinked,
    h.eldestCount_eq_countP]

/-- **Fewer inner nodes than terminals**, where no inner node has a single child. -/
theorem length_innerNodes_lt (h : tree.HasLayout counts)
    (hbranch : ∀ i ∈ tree.innerNodes, (tree.node i).children.length ≠ 1) :
    tree.innerNodes.length < tree.terminals.length := by
  have hcounts : ∀ count ∈ counts, count ≠ 1 := by
    intro count hcount hone
    rw [h.counts_eq] at hcount
    obtain ⟨i, -, hlength⟩ := List.mem_map.mp hcount
    refine hbranch i (mem_innerNodes.mpr ?_) (hlength.trans hone)
    rw [Node.isTerminal, List.isEmpty_eq_false_iff, ← List.length_pos_iff]
    omega
  have hle := two_mul_countP_le_sum hcounts
  have hsum := h.order.length_eq
  have hnodes := h.length_terminals_add
  rw [← h.eldestCount_eq, ← h.length_innerNodes] at hle
  rw [h.size_eq] at hnodes
  omega

end HasLayout

end SyntaxPaths.SyntaxTree
