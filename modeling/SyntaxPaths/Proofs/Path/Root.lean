import SyntaxPaths.Path.Root
import SyntaxPaths.Proofs.SyntaxTree.Ancestors

/-!
# The ancestors that a root path keeps

A hierarchical style cuts the chain of ancestors at the nearest expression statement.
What is left is the chain of that statement, so in every style the labels of a root path
are those of *some* whole chain (`IsLinked.exists_keptAncestors_eq`).
-/

namespace SyntaxPaths.SyntaxTree

/-- The ancestors that the root path of a terminal keeps, the nearest first. -/
def keptAncestors (tree : SyntaxTree) (style : TreeStyle) (i : Nat) : List Nat :=
  match tree.describedBy? style i with
  | some (_, above) => above
  | none => tree.ancestors i

/-- The value in which the root path of a terminal ends, without the mark. -/
def anchorValue (tree : SyntaxTree) (style : TreeStyle) (i : Nat) : String :=
  match tree.describedBy? style i with
  | some (statement, _) => tree.identifiersBelow statement
  | none => (tree.node i).value

theorem anchor_rootPath (tree : SyntaxTree) (style : TreeStyle) (i : Nat) :
    (tree.rootPath style i).anchor = tree.anchorValue style i ++ (tree.node i).mark := by
  rw [rootPath, anchorValue]
  cases tree.describedBy? style i <;> rfl

/-- The marked label of the node in a place. -/
def labelAt (tree : SyntaxTree) (style : TreeStyle) (i : Nat) : String :=
  (tree.node i).markedLabel style

theorem ancestors_rootPath (tree : SyntaxTree) (style : TreeStyle) (i : Nat) :
    (tree.rootPath style i).ancestors =
      ((tree.keptAncestors style i).map (tree.labelAt style)).reverse := by
  rw [rootPath, keptAncestors, ← List.map_reverse]
  cases tree.describedBy? style i <;> rfl

/-- An anchor is never empty, for it ends in a mark. -/
theorem anchor_rootPath_ne_empty (tree : SyntaxTree) (style : TreeStyle) (i : Nat) :
    (tree.rootPath style i).anchor ≠ "" := by
  intro h
  have hchars := congrArg String.toList h
  rw [anchor_rootPath, String.toList_append, Node.mark, Span.toList_mark, Span.markChars] at hchars
  simp at hchars

section Plain

variable {style : TreeStyle}

theorem keptAncestors_of_plain (tree : SyntaxTree) (h : style.isHierarchical = false) (i : Nat) :
    tree.keptAncestors style i = tree.ancestors i := by
  simp [keptAncestors, describedBy?, h]

theorem anchorValue_of_plain (tree : SyntaxTree) (h : style.isHierarchical = false) (i : Nat) :
    tree.anchorValue style i = (tree.node i).value := by
  simp [anchorValue, describedBy?, h]

end Plain

/-- The first expression statement splits a chain. -/
theorem firstStatement?_eq_some {tree : SyntaxTree} {chain above : List Nat} {statement : Nat}
    (h : tree.firstStatement? chain = some (statement, above)) :
    ∃ below, chain = below ++ statement :: above ∧
      (tree.node statement).kind = statementKind ∧
      ∀ b ∈ below, (tree.node b).kind ≠ statementKind := by
  induction chain with
  | nil => cases h
  | cons i chain ih =>
      rw [firstStatement?] at h
      split at h
      · next hkind =>
          cases h
          exact ⟨[], rfl, hkind, by simp⟩
      · next hkind =>
          obtain ⟨below, rfl, hstatement, hbelow⟩ := ih h
          exact ⟨i :: below, rfl, hstatement, List.forall_mem_cons.mpr ⟨hkind, hbelow⟩⟩

/-- Nothing in front of the first expression statement matters. -/
theorem firstStatement?_append {tree : SyntaxTree} {below above : List Nat} {statement : Nat}
    (hkind : (tree.node statement).kind = statementKind)
    (hbelow : ∀ b ∈ below, (tree.node b).kind ≠ statementKind) :
    tree.firstStatement? (below ++ statement :: above) = some (statement, above) := by
  induction below with
  | nil => rw [List.nil_append, firstStatement?, if_pos hkind]
  | cons b below ih =>
      obtain ⟨hb, hbelow⟩ := List.forall_mem_cons.mp hbelow
      rw [List.cons_append, firstStatement?, if_neg hb, ih hbelow]

/-- Where no statement is found, there is none. -/
theorem firstStatement?_eq_none_iff {tree : SyntaxTree} {chain : List Nat} :
    tree.firstStatement? chain = none ↔ ∀ b ∈ chain, (tree.node b).kind ≠ statementKind := by
  induction chain with
  | nil => simp [firstStatement?]
  | cons b chain ih =>
      rw [firstStatement?, List.forall_mem_cons]
      split
      · next hkind => simp [hkind]
      · next hkind => simp [hkind, ih]

/-- **In every style** the ancestors that are kept are those of one node. -/
theorem IsLinked.exists_keptAncestors_eq {tree : SyntaxTree} (h : tree.IsLinked)
    (style : TreeStyle) (i : Nat) : ∃ x, tree.keptAncestors style i = tree.ancestors x := by
  rw [keptAncestors, describedBy?]
  split
  · next statement above hcut =>
      split at hcut
      · obtain ⟨below, hchain, -, -⟩ := firstStatement?_eq_some hcut
        exact ⟨statement, h.eq_ancestors_of_append hchain⟩
      · cases hcut
  · exact ⟨i, rfl⟩

end SyntaxPaths.SyntaxTree
