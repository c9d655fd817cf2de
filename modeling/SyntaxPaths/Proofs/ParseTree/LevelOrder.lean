import Mathlib.Algebra.Ring.Nat
import SyntaxPaths.ParseTree

/-!
# Level order

The nodes of a parse tree can be listed level by level, from the top and from left to
right within a level (`ParseTree.levelOrder`).  A queue visits them in the same order
without knowing of levels: it takes the first tree that waits and puts its children
behind all others (`ParseTree.queueOrder`).

`flatten_levels` says that the two orders agree.  The queue is the better form for
proofs about positions, and two facts about it carry all that follows.

* **Children stand where the counts say.**  If the nodes before a node have `c`
  children in all, its own children begin `c` places behind the trees that waited at
  first (`getElem?_queueOrder_child`).
* **The queue never runs dry too early.**  Before each node that is visited, more
  nodes have been put into the queue than were taken out (`lt_sum_take_childCounts`).
-/

namespace SyntaxPaths.ParseTree

/-- The number of children of the root. -/
def childCount (tree : ParseTree) : Nat :=
  tree.children.length

/-- Taking the roots away from a forest takes away one node per root. -/
theorem forestSize_flatMap_children (forest : List ParseTree) :
    forestSize (forest.flatMap children) + forest.length = forestSize forest := by
  induction forest with
  | nil => simp
  | cons tree forest ih =>
      simp only [List.flatMap_cons, forestSize_append, List.length_cons, forestSize_cons,
        size_eq tree]
      omega

/-! ### Levels -/

/-- The nodes of a forest, each with the subtree below it, level by level from the
top and from left to right within a level.  The roots are the first level; what is
below them is again a forest, the children of all the roots. -/
def levels : List ParseTree → List (List ParseTree)
  | [] => []
  | tree :: forest =>
    (tree :: forest) :: levels ((tree :: forest).flatMap children)
termination_by forest => forestSize forest
decreasing_by
  have h := forestSize_flatMap_children (tree :: forest)
  simp only [List.length_cons] at h
  omega

/-- **The nodes of a tree in level order**, each with the subtree below it. -/
def levelOrder (tree : ParseTree) : List ParseTree :=
  (levels [tree]).flatten

@[simp] theorem levels_nil : levels [] = [] := by
  rw [levels]

theorem levels_cons (tree : ParseTree) (forest : List ParseTree) :
    levels (tree :: forest) =
      (tree :: forest) :: levels ((tree :: forest).flatMap children) := by
  rw [levels]

/-! ### The order of a queue -/

/-- The nodes of a forest in the order in which a queue visits them. -/
def queueOrder : List ParseTree → List ParseTree
  | [] => []
  | tree :: forest => tree :: queueOrder (forest ++ tree.children)
termination_by forest => forestSize forest
decreasing_by
  rw [forestSize_append, forestSize_cons, size_eq]
  omega

@[simp] theorem queueOrder_nil : queueOrder [] = [] := by
  rw [queueOrder]

theorem queueOrder_cons (tree : ParseTree) (forest : List ParseTree) :
    queueOrder (tree :: forest) = tree :: queueOrder (forest ++ tree.children) := by
  rw [queueOrder]

/-- What stands in front is visited first, and its children wait behind the rest. -/
theorem queueOrder_append (front back : List ParseTree) :
    queueOrder (front ++ back) = front ++ queueOrder (back ++ front.flatMap children) := by
  induction front generalizing back with
  | nil => simp
  | cons tree front ih =>
      rw [List.cons_append, queueOrder_cons, List.append_assoc, ih, List.append_assoc,
        List.flatMap_cons, List.cons_append]

/-- **A queue visits the nodes level by level.** -/
theorem flatten_levels (forest : List ParseTree) :
    (levels forest).flatten = queueOrder forest := by
  induction forest using levels.induct with
  | case1 => simp
  | case2 tree forest ih =>
      -- The queue takes a whole level before it comes to the children of its trees.
      have happend := queueOrder_append (tree :: forest) []
      rw [List.append_nil, List.nil_append] at happend
      rw [levels_cons, List.flatten_cons, ih, happend]

theorem levelOrder_eq_queueOrder (tree : ParseTree) : tree.levelOrder = queueOrder [tree] :=
  flatten_levels [tree]

theorem length_queueOrder (forest : List ParseTree) :
    (queueOrder forest).length = forestSize forest := by
  induction forest using queueOrder.induct with
  | case1 => simp
  | case2 tree forest ih =>
      rw [queueOrder_cons, List.length_cons, ih, forestSize_append, forestSize_cons, size_eq]
      omega

/-- The level order lists every node once. -/
theorem length_levelOrder (tree : ParseTree) : tree.levelOrder.length = tree.size := by
  rw [levelOrder_eq_queueOrder, length_queueOrder, forestSize_cons, forestSize_nil, Nat.add_zero]

/-! ### Numbers of children -/

/-- The numbers of children of the nodes of a forest, in the order of a queue. -/
def childCounts (forest : List ParseTree) : List Nat :=
  (queueOrder forest).map childCount

@[simp] theorem childCounts_nil : childCounts [] = [] := by
  simp [childCounts]

theorem childCounts_cons (tree : ParseTree) (forest : List ParseTree) :
    childCounts (tree :: forest) =
      tree.childCount :: childCounts (forest ++ tree.children) := by
  rw [childCounts, queueOrder_cons, List.map_cons]
  rfl

theorem length_childCounts (forest : List ParseTree) :
    (childCounts forest).length = forestSize forest := by
  rw [childCounts, List.length_map, length_queueOrder]

/-- Every node is a root of the forest or the child of a node. -/
theorem sum_childCounts (forest : List ParseTree) :
    forest.length + (childCounts forest).sum = forestSize forest := by
  induction forest using queueOrder.induct with
  | case1 => simp
  | case2 tree forest ih =>
      rw [List.length_append, forestSize_append] at ih
      rw [childCounts_cons, List.sum_cons, List.length_cons, forestSize_cons, size_eq tree,
        childCount]
      omega

/-- Up to any node, more nodes have come into the queue than were visited. -/
theorem lt_sum_take_childCounts (forest : List ParseTree) {i : Nat}
    (h : i < (childCounts forest).length) :
    i < forest.length + ((childCounts forest).take i).sum := by
  induction i generalizing forest with
  | zero =>
      cases forest with
      | nil => simp at h
      | cons tree forest => simp
  | succ i ih =>
      cases forest with
      | nil => simp at h
      | cons tree forest =>
          rw [childCounts_cons, List.length_cons] at h
          have hnext := ih (forest ++ tree.children) (by omega)
          rw [List.length_append] at hnext
          rw [childCounts_cons, List.take_succ_cons, List.sum_cons, List.length_cons, childCount]
          omega

/-- **The children of a visited node** stand behind the trees that waited at first
and the children of all nodes before it. -/
theorem getElem?_queueOrder_child (forest : List ParseTree) {i k : Nat} {tree : ParseTree}
    (h : (queueOrder forest)[i]? = some tree) (hk : k < tree.childCount) :
    (queueOrder forest)[forest.length + ((childCounts forest).take i).sum + k]? =
      tree.children[k]? := by
  induction i generalizing forest with
  | zero =>
      cases forest with
      | nil => simp at h
      | cons root forest =>
          rw [queueOrder_cons, List.getElem?_cons_zero, Option.some.injEq] at h
          subst h
          -- The rest of the queue and the children come next, whatever lies below them.
          have happend := queueOrder_append (forest ++ root.children) []
          rw [List.append_nil, List.nil_append, List.append_assoc] at happend
          rw [queueOrder_cons, happend, List.length_cons, List.take_zero, List.sum_nil,
            Nat.add_zero, Nat.add_right_comm, List.getElem?_cons_succ,
            List.getElem?_append_right (Nat.le_add_right _ _), Nat.add_sub_cancel_left,
            List.getElem?_append_left hk]
  | succ i ih =>
      cases forest with
      | nil => simp at h
      | cons root forest =>
          rw [queueOrder_cons, List.getElem?_cons_succ] at h
          have hnext := ih (forest ++ root.children) h
          rw [List.length_append] at hnext
          -- Counted from the next tree on, the place is one less.
          have hplace :
              (root :: forest).length + ((childCounts (root :: forest)).take (i + 1)).sum + k =
              forest.length + root.children.length +
                ((childCounts (forest ++ root.children)).take i).sum + k + 1 := by
            rw [childCounts_cons, List.take_succ_cons, List.sum_cons, List.length_cons, childCount]
            omega
          rw [hplace, queueOrder_cons, List.getElem?_cons_succ, hnext]

end SyntaxPaths.ParseTree
