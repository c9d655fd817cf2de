import Mathlib.Data.List.Chain
import SyntaxPaths.Proofs.SyntaxTree.Links

/-!
# Chains of ancestors

In a tree whose links agree, the ancestors of a node are its parent and the ancestors of
its parent, up to the root.  What holds of a chain is therefore shown one parent at a time
(`IsLinked.parent_induction`), and a chain goes on in one way only: **behind a node in a
chain stand exactly the ancestors of that node** (`IsLinked.eq_ancestors_of_append`).
-/

namespace SyntaxPaths.SyntaxTree

namespace IsLinked

variable {tree : SyntaxTree}

theorem ancestors_of_parent (h : tree.IsLinked) {i p : Nat}
    (hparent : (tree.node i).parent = some p) : tree.ancestors i = p :: tree.ancestors p := by
  rw [ancestors_eq, hparent]
  exact if_pos (h.lt_of_parent hparent).1

theorem ancestors_of_parent_eq_none {i : Nat} (hparent : (tree.node i).parent = none) :
    tree.ancestors i = [] := by
  rw [ancestors_eq, hparent]

/-- What holds of every node without a parent, and of a node if it holds of its parent,
holds of every node. -/
theorem parent_induction (h : tree.IsLinked) {motive : Nat → Prop}
    (top : ∀ i, (tree.node i).parent = none → motive i)
    (step : ∀ i p, (tree.node i).parent = some p → motive p → motive i) (i : Nat) : motive i := by
  induction i using Nat.strongRecOn with
  | ind i ih =>
      cases hparent : (tree.node i).parent with
      | none => exact top i hparent
      | some p => exact step i p hparent (ih p (h.lt_of_parent hparent).1)

/-- A chain that is not empty begins with the parent and goes on with its
ancestors. -/
theorem ancestors_eq_cons (h : tree.IsLinked) {i p : Nat} {above : List Nat} :
    tree.ancestors i = p :: above ↔ (tree.node i).parent = some p ∧ above = tree.ancestors p := by
  cases hparent : (tree.node i).parent with
  | none => simp [ancestors_of_parent_eq_none hparent]
  | some q =>
      rw [h.ancestors_of_parent hparent]
      constructor
      · intro hcons
        obtain ⟨rfl, rfl⟩ := List.cons.inj hcons
        exact ⟨rfl, rfl⟩
      · rintro ⟨hq, rfl⟩
        rw [Option.some.inj hq]

/-- **Behind a node in a chain** stand exactly its ancestors. -/
theorem eq_ancestors_of_append (h : tree.IsLinked) {i a : Nat} {below above : List Nat}
    (hchain : tree.ancestors i = below ++ a :: above) : above = tree.ancestors a := by
  induction below generalizing i with
  | nil => exact (h.ancestors_eq_cons.mp hchain).2
  | cons b below ih => exact ih (h.ancestors_eq_cons.mp hchain).2.symm

/-- A chain is split at each of its nodes. -/
theorem exists_append_of_mem (h : tree.IsLinked) {i a : Nat} (hmem : a ∈ tree.ancestors i) :
    ∃ below, tree.ancestors i = below ++ a :: tree.ancestors a := by
  obtain ⟨below, above, hchain⟩ := List.append_of_mem hmem
  exact ⟨below, by rw [hchain, h.eq_ancestors_of_append hchain]⟩

/-- A node is an ancestor of all nodes in front of it in a chain. -/
theorem mem_ancestors_of_append (h : tree.IsLinked) {i a c : Nat} {below above : List Nat}
    (hchain : tree.ancestors i = below ++ a :: above) (hc : c ∈ below) : a ∈ tree.ancestors c := by
  obtain ⟨front, back, rfl⟩ := List.append_of_mem hc
  rw [List.append_assoc, List.cons_append] at hchain
  rw [← h.eq_ancestors_of_append hchain]
  exact List.mem_append_right back List.mem_cons_self

/-- An ancestor stands before its descendants in the table. -/
theorem lt_of_mem_ancestors (h : tree.IsLinked) {i a : Nat} (hmem : a ∈ tree.ancestors i) :
    a < i := by
  induction i using h.parent_induction with
  | top i hparent =>
      rw [ancestors_of_parent_eq_none hparent] at hmem
      cases hmem
  | step i p hparent ih =>
      have hp : p < i := (h.lt_of_parent hparent).1
      rw [h.ancestors_of_parent hparent] at hmem
      rcases List.mem_cons.mp hmem with rfl | hmem
      · exact hp
      · exact Nat.lt_trans (ih hmem) hp

theorem not_mem_ancestors_self (h : tree.IsLinked) (i : Nat) : i ∉ tree.ancestors i :=
  fun hmem => Nat.lt_irrefl i (h.lt_of_mem_ancestors hmem)

/-- An ancestor has children. -/
theorem not_isTerminal_of_mem_ancestors (h : tree.IsLinked) {i a : Nat}
    (hmem : a ∈ tree.ancestors i) : (tree.node a).isTerminal = false := by
  obtain ⟨below, above, hchain⟩ := List.append_of_mem hmem
  -- The node in front of it in the chain is one of its children.
  obtain ⟨c, hparent⟩ : ∃ c, (tree.node c).parent = some a := by
    rcases List.eq_nil_or_concat below with rfl | ⟨below, c, rfl⟩
    · exact ⟨i, (h.ancestors_eq_cons.mp hchain).1⟩
    · rw [List.concat_eq_append, List.append_assoc] at hchain
      exact ⟨c, (h.ancestors_eq_cons.mp (h.eq_ancestors_of_append hchain).symm).1⟩
  rw [Node.isTerminal, List.isEmpty_eq_false_iff]
  exact List.ne_nil_of_mem (h.mem_children.mpr hparent)

/-- A chain that is not empty ends at the root. -/
theorem root_mem_ancestors (h : tree.IsLinked) {i : Nat} (hne : tree.ancestors i ≠ []) :
    root ∈ tree.ancestors i := by
  induction i using h.parent_induction with
  | top i hparent => exact absurd (ancestors_of_parent_eq_none hparent) hne
  | step i p hparent ih =>
      obtain ⟨hlt, hi⟩ := h.lt_of_parent hparent
      rw [h.ancestors_of_parent hparent]
      by_cases hroot : p = root
      · exact hroot ▸ List.mem_cons_self
      · -- A parent other than the root is itself a child, so its own chain goes on.
        obtain ⟨q, k, hchild⟩ := h.exists_parent (Nat.pos_of_ne_zero hroot) (by omega)
        have hp : tree.ancestors p ≠ [] := by
          rw [h.ancestors_of_parent (h.parent_child hchild)]
          exact List.cons_ne_nil q _
        exact List.mem_cons_of_mem p (ih hp)

/-- The nodes of a chain below one of its nodes are those that have it as an ancestor. -/
theorem filter_ancestors (h : tree.IsLinked) {i a : Nat} {below : List Nat}
    (hchain : tree.ancestors i = below ++ a :: tree.ancestors a) :
    (tree.ancestors i).filter (fun c => a ∈ tree.ancestors c) = below := by
  have hbelow : ∀ c ∈ below, decide (a ∈ tree.ancestors c) = true := fun c hc =>
    decide_eq_true (h.mem_ancestors_of_append hchain hc)
  have habove : ∀ c ∈ tree.ancestors a, ¬ decide (a ∈ tree.ancestors c) = true := fun c hc ha =>
    Nat.lt_asymm (h.lt_of_mem_ancestors hc) (h.lt_of_mem_ancestors (of_decide_eq_true ha))
  rw [hchain, List.filter_append, List.filter_eq_self.mpr hbelow, List.filter_cons_of_neg,
    List.filter_eq_nil_iff.mpr habove, List.append_nil]
  simpa using h.not_mem_ancestors_self a

/-- The last node of a chain below one of its nodes is a child of that node. -/
theorem parent_of_append (h : tree.IsLinked) {i a c : Nat} {below above : List Nat}
    (hchain : tree.ancestors i = below ++ a :: above) (hc : below.getLast? = some c) :
    (tree.node c).parent = some a := by
  obtain ⟨front, rfl⟩ := List.getLast?_eq_some_iff.mp hc
  rw [List.append_assoc, List.singleton_append] at hchain
  exact (h.ancestors_eq_cons.mp (h.eq_ancestors_of_append hchain).symm).1

/-- Along a chain every node is followed by its parent. -/
theorem isChain_ancestors (h : tree.IsLinked) (i : Nat) :
    (i :: tree.ancestors i).IsChain fun c p => (tree.node c).parent = some p := by
  induction i using h.parent_induction with
  | top i hparent =>
      rw [ancestors_of_parent_eq_none hparent]
      exact List.isChain_singleton i
  | step i p hparent ih =>
      rw [h.ancestors_of_parent hparent]
      exact List.isChain_cons_cons.mpr ⟨hparent, ih⟩

end IsLinked

end SyntaxPaths.SyntaxTree
