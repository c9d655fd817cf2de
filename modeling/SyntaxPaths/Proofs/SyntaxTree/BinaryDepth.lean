import SyntaxPaths.Proofs.SyntaxTree.Ancestors
import SyntaxPaths.Proofs.SyntaxTree.Views

/-!
# Depth in the binary view

In the binary view a node lies one link below its parent if it is the first child, and one
more for each of its left siblings.  So its depth is known from the multi-way view: from
the number of left siblings of the node itself and of all its ancestors (`binaryDepth`).
**It is the number of links to the node from the root**, the root counted too
(`IsLinked.binaryDepth_of_route`).
-/

namespace SyntaxPaths.SyntaxTree

/-- The number of left siblings of a node. -/
def siblingIndex (tree : SyntaxTree) (i : Nat) : Nat :=
  match (tree.node i).parent with
  | some p => (tree.node p).children.idxOf i
  | none => 0

/-- The depth of a node in the binary view: one for the root, and one more than the number
of left siblings for the node and for each of its ancestors except the root. -/
def binaryDepth (tree : SyntaxTree) (i : Nat) : Nat :=
  1 + (((i :: tree.ancestors i).filter (· ≠ root)).map fun j => 1 + tree.siblingIndex j).sum

namespace IsLinked

variable {tree : SyntaxTree}

theorem siblingIndex_child (h : tree.IsLinked) {p k c : Nat}
    (hchild : (tree.node p).children[k]? = some c) : tree.siblingIndex c = k := by
  obtain ⟨hk, rfl⟩ := List.getElem?_eq_some_iff.mp hchild
  rw [siblingIndex, h.parent_child hchild]
  exact (h.nodup_children p).idxOf_getElem k hk

theorem binaryDepth_root (h : tree.IsLinked) : tree.binaryDepth root = 1 := by
  have hparent : (tree.node root).parent = none := congrArg Place.parent h.place_root
  rw [binaryDepth, ancestors_of_parent_eq_none hparent]
  rfl

/-- A child lies one link below its parent, and one more for each left sibling. -/
theorem binaryDepth_child (h : tree.IsLinked) {p k c : Nat}
    (hchild : (tree.node p).children[k]? = some c) :
    tree.binaryDepth c = tree.binaryDepth p + (1 + k) := by
  have hne : c ≠ root := Nat.ne_of_gt (Nat.zero_lt_of_lt (h.lt_child hchild).1)
  rw [binaryDepth, binaryDepth, h.ancestors_of_parent (h.parent_child hchild),
    List.filter_cons_of_pos (by simpa using hne), List.map_cons, List.sum_cons,
    h.siblingIndex_child hchild]
  omega

/-- **Every link of the binary view leads one deeper**, to a sibling as well as to a
child. -/
theorem binaryDepth_target (h : tree.IsLinked) {i c : Nat} {link : BinaryLink}
    (hlink : tree.target? i link = some c) : tree.binaryDepth c = tree.binaryDepth i + 1 := by
  cases link with
  | left =>
      rw [target?, h.leftChild_eq, List.head?_eq_getElem?] at hlink
      exact h.binaryDepth_child hlink
  | right =>
      rw [target?] at hlink
      rcases h.cases_node i with hroot | ⟨p, k, hchild⟩
      · have hnone : (tree.node i).rightSibling = none := congrArg Place.rightSibling hroot
        rw [hnone] at hlink
        cases hlink
      · rw [h.rightSibling_child hchild] at hlink
        rw [h.binaryDepth_child hlink, h.binaryDepth_child hchild]
        omega

theorem binaryDepth_of_route (h : tree.IsLinked) {route : List BinaryLink} {i j : Nat}
    (hroute : route.foldlM tree.target? i = some j) :
    tree.binaryDepth j = tree.binaryDepth i + route.length := by
  induction route generalizing i with
  | nil =>
      obtain rfl := Option.some.inj hroute
      rfl
  | cons link route ih =>
      rw [List.foldlM_cons] at hroute
      obtain ⟨c, hlink, hrest⟩ := Option.bind_eq_some_iff.mp hroute
      rw [ih hrest, h.binaryDepth_target hlink, List.length_cons]
      omega

/-- A route of the binary view from a node of the table stays in the table. -/
theorem lt_size_of_route (h : tree.IsLinked) {route : List BinaryLink} {i j : Nat}
    (hi : i < tree.size) (hroute : route.foldlM tree.target? i = some j) : j < tree.size := by
  rcases List.eq_nil_or_concat route with rfl | ⟨front, last, rfl⟩
  · obtain rfl := Option.some.inj hroute
    exact hi
  · rw [List.concat_eq_append] at hroute
    obtain ⟨before, -, hlast⟩ := foldlM_concat_eq_some.mp hroute
    exact (h.target_spec hlast).1.2

end IsLinked

end SyntaxPaths.SyntaxTree
