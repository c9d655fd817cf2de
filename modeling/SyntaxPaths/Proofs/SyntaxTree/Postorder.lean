import Mathlib.Data.List.Nodup
import SyntaxPaths.Proofs.SyntaxTree.Ancestors

/-!
# Post-order

In post-order every node stands behind its descendants, and these stand child by child
from left to right.  What holds of a subtree is shown from the leaves upwards, one node
with its children at a time (`IsLinked.child_induction`).

**The nodes of a subtree** are those that have its root among their ancestors
(`IsLinked.mem_postorder`).  Two siblings are no ancestors of each other, so their subtrees
have no node in common, and the post-order of the root lists every node of the table once
(`IsLinked.postorder_perm`).
-/

namespace SyntaxPaths.SyntaxTree

/-- The nodes of the subtree at a node in post-order. -/
def postorder (tree : SyntaxTree) (i : Nat) : List Nat :=
  ((tree.node i).children.flatMap fun c =>
    if _h : i < c ∧ c < tree.size then tree.postorder c else []) ++ [i]
termination_by tree.size - i

namespace IsLinked

variable {tree : SyntaxTree}

/-- What holds of a node if it holds of its children, holds of every node. -/
theorem child_induction (h : tree.IsLinked) {motive : Nat → Prop}
    (step : ∀ i, (∀ c ∈ (tree.node i).children, motive c) → motive i) (i : Nat) : motive i := by
  induction hheight : tree.size - i using Nat.strongRecOn generalizing i with
  | ind height ih =>
      refine step i fun c hc => ih (tree.size - c) ?_ c rfl
      have hlt := h.lt_of_parent (h.mem_children.mp hc)
      omega

/-- **Post-order**: first the subtrees of the children, then the node itself. -/
theorem postorder_eq (h : tree.IsLinked) (i : Nat) :
    tree.postorder i = (tree.node i).children.flatMap tree.postorder ++ [i] := by
  rw [postorder]
  congr 1
  refine List.flatMap_congr fun c hc => ?_
  exact dif_pos (h.lt_of_parent (h.mem_children.mp hc))

/-- An ancestor of a node has a child that is the node or an ancestor of it. -/
theorem mem_ancestors_iff (h : tree.IsLinked) {i j : Nat} :
    i ∈ tree.ancestors j ↔ ∃ c ∈ (tree.node i).children, j = c ∨ c ∈ tree.ancestors j := by
  constructor
  · intro hmem
    induction j using h.parent_induction with
    | top j hparent =>
        rw [ancestors_of_parent_eq_none hparent] at hmem
        cases hmem
    | step j p hparent ih =>
        rw [h.ancestors_of_parent hparent] at hmem ⊢
        rcases List.mem_cons.mp hmem with rfl | hmem
        · exact ⟨j, h.mem_children.mpr hparent, Or.inl rfl⟩
        · obtain ⟨c, hc, hp⟩ := ih hmem
          refine ⟨c, hc, Or.inr ?_⟩
          rcases hp with rfl | hp
          · exact List.mem_cons_self
          · exact List.mem_cons_of_mem p hp
  · rintro ⟨c, hc, hj⟩
    have hparent := h.ancestors_of_parent (h.mem_children.mp hc)
    rcases hj with rfl | hj
    · rw [hparent]
      exact List.mem_cons_self
    · obtain ⟨below, hchain⟩ := h.exists_append_of_mem hj
      rw [hchain, hparent]
      simp

/-- **The nodes of a subtree** are its root and all that have it as an ancestor. -/
theorem mem_postorder (h : tree.IsLinked) {i j : Nat} :
    j ∈ tree.postorder i ↔ j = i ∨ i ∈ tree.ancestors j := by
  induction i using h.child_induction with
  | step i ih =>
      have hbelow : j ∈ (tree.node i).children.flatMap tree.postorder ↔ i ∈ tree.ancestors j := by
        rw [h.mem_ancestors_iff, List.mem_flatMap]
        exact exists_congr fun c => and_congr_right fun hc => ih c hc
      rw [h.postorder_eq, List.mem_append, List.mem_singleton, hbelow, or_comm]

/-- Siblings are no ancestors of each other. -/
theorem not_mem_ancestors_sibling (h : tree.IsLinked) {p a b : Nat}
    (ha : a ∈ (tree.node p).children) (hb : b ∈ (tree.node p).children) :
    a ∉ tree.ancestors b := by
  intro hmem
  have hlt := (h.lt_of_parent (h.mem_children.mp ha)).1
  rw [h.ancestors_of_parent (h.mem_children.mp hb)] at hmem
  rcases List.mem_cons.mp hmem with rfl | hmem
  · exact Nat.lt_irrefl _ hlt
  · exact Nat.lt_asymm hlt (h.lt_of_mem_ancestors hmem)

/-- Of two ancestors of a node one is an ancestor of the other, unless they are the
same. -/
theorem ancestors_comparable (h : tree.IsLinked) {j a b : Nat} (ha : a ∈ tree.ancestors j)
    (hb : b ∈ tree.ancestors j) : a = b ∨ a ∈ tree.ancestors b ∨ b ∈ tree.ancestors a := by
  obtain ⟨below, hchain⟩ := h.exists_append_of_mem ha
  rw [hchain] at hb
  rcases List.mem_append.mp hb with hb | hb
  · exact Or.inr (Or.inl (h.mem_ancestors_of_append hchain hb))
  · rcases List.mem_cons.mp hb with rfl | hb
    · exact Or.inl rfl
    · exact Or.inr (Or.inr hb)

/-- The subtrees of two siblings have no node in common. -/
theorem disjoint_postorder (h : tree.IsLinked) {p a b : Nat} (ha : a ∈ (tree.node p).children)
    (hb : b ∈ (tree.node p).children) (hne : a ≠ b) :
    (tree.postorder a).Disjoint (tree.postorder b) := by
  have hab := h.not_mem_ancestors_sibling ha hb
  have hba := h.not_mem_ancestors_sibling hb ha
  intro j hja hjb
  rw [h.mem_postorder] at hja hjb
  rcases hja with rfl | hja
  · rcases hjb with rfl | hjb
    · exact hne rfl
    · exact hba hjb
  · rcases hjb with rfl | hjb
    · exact hab hja
    · rcases h.ancestors_comparable hja hjb with heq | hmem | hmem
      · exact hne heq
      · exact hab hmem
      · exact hba hmem

theorem nodup_postorder (h : tree.IsLinked) (i : Nat) : (tree.postorder i).Nodup := by
  induction i using h.child_induction with
  | step i ih =>
      have hbelow : ((tree.node i).children.flatMap tree.postorder).Nodup := by
        refine List.nodup_flatMap.mpr ⟨ih, ?_⟩
        refine List.Pairwise.imp_of_mem ?_ (h.nodup_children i)
        intro a b ha hb hne
        exact h.disjoint_postorder ha hb hne
      have hself : i ∉ (tree.node i).children.flatMap tree.postorder := by
        intro hmem
        obtain ⟨c, hc, hi⟩ := List.mem_flatMap.mp hmem
        have hlt := (h.lt_of_parent (h.mem_children.mp hc)).1
        rcases h.mem_postorder.mp hi with rfl | hi
        · exact Nat.lt_irrefl _ hlt
        · exact Nat.lt_asymm hlt (h.lt_of_mem_ancestors hi)
      rw [h.postorder_eq, List.nodup_append_comm]
      exact List.nodup_cons.mpr ⟨hself, hbelow⟩

/-- **The post-order of the root lists every node once.** -/
theorem postorder_perm (h : tree.IsLinked) :
    (tree.postorder root).Perm (List.range tree.size) := by
  refine (List.perm_ext_iff_of_nodup (h.nodup_postorder root) List.nodup_range).mpr fun j => ?_
  rw [h.mem_postorder, List.mem_range]
  constructor
  · rintro (rfl | hroot)
    · exact h.size_pos
    · cases hparent : (tree.node j).parent with
      | none =>
          rw [ancestors_of_parent_eq_none hparent] at hroot
          cases hroot
      | some p => exact (h.lt_of_parent hparent).2
  · intro hj
    by_cases hzero : j = root
    · exact Or.inl hzero
    · obtain ⟨p, k, hchild⟩ := h.exists_parent (Nat.pos_of_ne_zero hzero) hj
      refine Or.inr (h.root_mem_ancestors ?_)
      rw [h.ancestors_of_parent (h.parent_child hchild)]
      exact List.cons_ne_nil p _

end IsLinked

end SyntaxPaths.SyntaxTree
