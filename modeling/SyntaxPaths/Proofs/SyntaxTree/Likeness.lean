import Mathlib.Data.List.Forall2
import SyntaxPaths.Proofs.SyntaxTree.Links

/-!
# Trees of the same shape with the same values

Two nodes are alike if they have the same value, and as many children, which are alike one by
one (`AlikeAt`).  This is a statement about two trees only; in which places of their tables the
nodes stand does not matter.

**In built trees it decides the places too.**  A table in level order follows from the numbers
of children, and what stands in front of a node decides where its children stand
(`HasLayout.children_eq_of_alikeAt`).  So if the roots are alike, the two tables have the same
size and the same links to children, and each node is alike to the one in the same place
(`HasLayout.agreeInShapeAndValues`).
-/

namespace SyntaxPaths.SyntaxTree

/-- Node `i` of one tree and node `j` of another **are alike**: they have the same value, and
their children are alike one by one. -/
inductive AlikeAt (tree tree' : SyntaxTree) : (i j : Nat) → Prop where
  /-- Nodes are alike by their values and their children. -/
  | intro {i j : Nat} (value_eq : (tree'.node j).value = (tree.node i).value)
    (children : List.Forall₂ (AlikeAt tree tree') (tree.node i).children (tree'.node j).children) :
    AlikeAt tree tree' i j

/-- **Two trees have the same shape and the same values.**  Corresponding nodes stand in the
same place of the two tables. -/
structure AgreeInShapeAndValues (tree tree' : SyntaxTree) : Prop where
  /-- They have the same number of nodes. -/
  size_eq : tree'.size = tree.size
  /-- Corresponding nodes have the same children, in the same order. -/
  children_eq (i : Nat) : (tree'.node i).children = (tree.node i).children
  /-- Corresponding nodes have the same value. -/
  value_eq (i : Nat) : (tree'.node i).value = (tree.node i).value
  /-- Every route from the root leads to corresponding nodes, or in both trees nowhere. -/
  descend_eq (route : List Nat) : tree'.descend route = tree.descend route

theorem forall₂_getElem? {α β : Type} {related : α → β → Prop} {items : List α} {items' : List β}
    (h : List.Forall₂ related items items') {k : Nat} {item : α} (hitem : items[k]? = some item) :
    ∃ item', items'[k]? = some item' ∧ related item item' := by
  obtain ⟨hk, rfl⟩ := List.getElem?_eq_some_iff.mp hitem
  have hk' : k < items'.length := h.length_eq ▸ hk
  exact ⟨items'[k], List.getElem?_eq_getElem hk', h.get hk hk'⟩

namespace HasLayout

variable {tree tree' : SyntaxTree} {counts counts' : List Nat}

/-- **What stands in front of a node decides where its children stand.** -/
theorem children_eq_of_alikeAt (h : tree.HasLayout counts) (h' : tree'.HasLayout counts') {p : Nat}
    (hp : p < tree.size) (hp' : p < tree'.size) (hfront : ∀ i ≤ p, AlikeAt tree tree' i i) :
    (tree'.node p).children = (tree.node p).children := by
  have hcount : ∀ i ≤ p, counts'[i]? = counts[i]? := by
    intro i hi
    obtain ⟨-, hchildren⟩ := hfront i hi
    rw [h.getElem?_counts (by omega), h'.getElem?_counts (by omega), hchildren.length_eq]
  have htake : counts'.take p = counts.take p := by
    apply List.ext_getElem?
    intro i
    rw [List.getElem?_take, List.getElem?_take]
    split
    · next hi => exact hcount i (Nat.le_of_lt hi)
    · rfl
  have hfirst : firstChild counts' p = firstChild counts p := by
    rw [firstChild, firstChild, htake]
  have hself := h.getElem?_counts hp
  rw [h.children_eq hself, h'.children_eq ((hcount p (Nat.le_refl p)).trans hself), hfirst]

/-- **If the roots are alike, so are the nodes in each place.** -/
theorem alikeAt_of_lt (h : tree.HasLayout counts) (h' : tree'.HasLayout counts')
    (hroot : AlikeAt tree tree' root root) {i : Nat} (hi : i < tree.size) :
    i < tree'.size ∧ AlikeAt tree tree' i i := by
  induction i using Nat.strongRecOn with
  | ind i ih =>
      by_cases hzero : i = 0
      · exact hzero ▸ ⟨h'.isLinked.size_pos, hroot⟩
      · obtain ⟨p, k, hchild⟩ := h.isLinked.exists_parent (Nat.pos_of_ne_zero hzero) hi
        have hlt : p < i := (h.isLinked.lt_child hchild).1
        have hp : p < tree.size := by omega
        have hfront : ∀ j ≤ p, AlikeAt tree tree' j j := fun j hj =>
          (ih j (by omega) (by omega)).2
        -- Child number `k` of the parent stands in place `i` of both tables.
        have hchildren := h.children_eq_of_alikeAt h' hp (ih p hlt hp).1 hfront
        obtain ⟨-, halike⟩ := hfront p (Nat.le_refl p)
        obtain ⟨j, hchild', hij⟩ := forall₂_getElem? halike hchild
        obtain rfl : i = j := by
          rw [hchildren, hchild] at hchild'
          exact Option.some.inj hchild'
        exact ⟨(h'.isLinked.lt_child hchild').2, hij⟩

/-- If the roots are alike, the two tables have the same size: the first node that one of them
has more would be the child of a node that both have. -/
theorem size_eq_of_alikeAt (h : tree.HasLayout counts) (h' : tree'.HasLayout counts')
    (hroot : AlikeAt tree tree' root root) : tree'.size = tree.size := by
  have hpos := h.isLinked.size_pos
  have hle : tree.size ≤ tree'.size := by
    have hlast := (h.alikeAt_of_lt h' hroot (show tree.size - 1 < tree.size by omega)).1
    omega
  by_contra hne
  obtain ⟨p, k, hchild'⟩ := h'.isLinked.exists_parent hpos (show tree.size < tree'.size by omega)
  have hp : p < tree.size := (h'.isLinked.lt_child hchild').1
  have hchildren := h.children_eq_of_alikeAt h' hp (by omega) fun i hi =>
    (h.alikeAt_of_lt h' hroot (show i < tree.size by omega)).2
  rw [hchildren] at hchild'
  exact Nat.lt_irrefl _ (h.isLinked.lt_child hchild').2

/-- **If the roots are alike**, the trees have the same shape and the same values. -/
theorem agreeInShapeAndValues (h : tree.HasLayout counts) (h' : tree'.HasLayout counts')
    (hroot : AlikeAt tree tree' root root) : tree.AgreeInShapeAndValues tree' := by
  have hsize := h.size_eq_of_alikeAt h' hroot
  have hchildren : ∀ i, (tree'.node i).children = (tree.node i).children := by
    intro i
    by_cases hi : i < tree.size
    · exact h.children_eq_of_alikeAt h' hi (by omega) fun j hj =>
        (h.alikeAt_of_lt h' hroot (by omega)).2
    · rw [node_eq_default (by omega), node_eq_default (by omega)]
  refine ⟨hsize, hchildren, fun i => ?_, fun route => ?_⟩
  · by_cases hi : i < tree.size
    · obtain ⟨hvalue, -⟩ := (h.alikeAt_of_lt h' hroot hi).2
      exact hvalue
    · rw [node_eq_default (by omega), node_eq_default (by omega)]
  · have hchild : tree'.child? = tree.child? := by
      funext i k
      rw [child?, child?, hchildren]
    rw [descend, descend, hchild]

end HasLayout

end SyntaxPaths.SyntaxTree
