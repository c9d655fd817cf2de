import SyntaxPaths.Proofs.Label
import SyntaxPaths.Proofs.Path.Root
import SyntaxPaths.Proofs.SyntaxTree.Terminals
import SyntaxPaths.Proofs.Text.Pieces

/-!
# What an anchor names

A plain style names a terminal by its own value, and a hierarchical style by the values of
all identifiers of its statement (`SyntaxTree.namedIdentifiers`).  The level order of a
statement lists the nodes of its subtree (`IsLinked.mem_subtree`), so an identifier is
always among those that its anchor names (`IsLinked.mem_namedIdentifiers`).

In every style the pieces of an anchor value are those of the named values
(`pieces_anchorValue`).  Two things can be said of the value to be blank, and they differ.

* **The value is empty** if the terminal is named alone, and has an empty value itself
  (`anchorValue_eq_empty_iff`).
* **No piece is left** without the empty ones if no named value has another one
  (`filter_pieces_anchorValue_eq_nil_iff`).  Two names with empty values are enough, since a
  separator stands between them.
-/

namespace SyntaxPaths

open Text

namespace SyntaxTree

variable {tree : SyntaxTree} {style : TreeStyle}

/-! ### Subtrees in level order -/

/-- **Level order** reaches the given nodes and all below them, if there are enough levels. -/
theorem IsLinked.mem_levelsBelow (h : tree.IsLinked) {depth j : Nat} {level : List Nat}
    (hlevel : ∀ s ∈ level, s < tree.size ∧ tree.size ≤ s + depth) :
    j ∈ tree.levelsBelow depth level ↔ ∃ s ∈ level, j = s ∨ s ∈ tree.ancestors j := by
  induction depth generalizing level with
  | zero =>
      rw [levelsBelow_zero]
      refine iff_of_false List.not_mem_nil ?_
      rintro ⟨s, hs, -⟩
      have hlt := hlevel s hs
      omega
  | succ depth ih =>
      -- A child stands behind its parent, so one level less is enough for it.
      have hnext : ∀ c ∈ level.flatMap fun s => (tree.node s).children,
          c < tree.size ∧ tree.size ≤ c + depth := by
        intro c hc
        obtain ⟨s, hs, hchild⟩ := List.mem_flatMap.mp hc
        have hlt := h.lt_of_parent (h.mem_children.mp hchild)
        have hsize := (hlevel s hs).2
        exact ⟨hlt.2, by omega⟩
      rw [levelsBelow_succ, List.mem_append, ih hnext]
      constructor
      · rintro (hj | ⟨c, hc, hj⟩)
        · exact ⟨j, hj, Or.inl rfl⟩
        · obtain ⟨s, hs, hchild⟩ := List.mem_flatMap.mp hc
          exact ⟨s, hs, Or.inr (h.mem_ancestors_iff.mpr ⟨c, hchild, hj⟩)⟩
      · rintro ⟨s, hs, rfl | hj⟩
        · exact Or.inl hs
        · obtain ⟨c, hchild, hc⟩ := h.mem_ancestors_iff.mp hj
          exact Or.inr ⟨c, List.mem_flatMap.mpr ⟨s, hs, hchild⟩, hc⟩

/-- **The nodes of a subtree** in level order are those in post-order. -/
theorem IsLinked.mem_subtree (h : tree.IsLinked) {s j : Nat} (hs : s < tree.size) :
    j ∈ tree.subtree s ↔ j = s ∨ s ∈ tree.ancestors j := by
  have hlevel : ∀ t ∈ [s], t < tree.size ∧ tree.size ≤ t + tree.size := by
    intro t ht
    obtain rfl := List.mem_singleton.mp ht
    exact ⟨hs, Nat.le_add_left _ _⟩
  rw [subtree, h.mem_levelsBelow hlevel]
  simp only [List.mem_singleton, exists_eq_left]

/-! ### Named identifiers -/

/-- The identifiers of the subtree at a node, in level order. -/
def identifiersIn (tree : SyntaxTree) (i : Nat) : List Nat :=
  (tree.subtree i).filter fun j => (tree.node j).kind = identifierKind

/-- The nodes whose values make the anchor of a terminal: the identifiers of the statement
that describes it, or the terminal alone. -/
def namedIdentifiers (tree : SyntaxTree) (style : TreeStyle) (i : Nat) : List Nat :=
  match tree.describedBy? style i with
  | some (statement, _) => tree.identifiersIn statement
  | none => [i]

/-- A statement that describes a terminal stands above it. -/
theorem mem_ancestors_of_describedBy? {i statement : Nat} {above : List Nat}
    (h : tree.describedBy? style i = some (statement, above)) : statement ∈ tree.ancestors i := by
  rw [describedBy?] at h
  split at h
  · obtain ⟨below, hchain, -, -⟩ := firstStatement?_eq_some h
    rw [hchain]
    exact List.mem_append_right _ List.mem_cons_self
  · cases h

/-- **An anchor names its own terminal**, if that is an identifier. -/
theorem IsLinked.mem_namedIdentifiers (h : tree.IsLinked) {i : Nat}
    (hkind : (tree.node i).kind = identifierKind) : i ∈ tree.namedIdentifiers style i := by
  unfold namedIdentifiers
  split
  · next statement above hdescribed =>
      have habove := mem_ancestors_of_describedBy? hdescribed
      have hs := lt_size_of_not_isTerminal (h.not_isTerminal_of_mem_ancestors habove)
      rw [identifiersIn, List.mem_filter]
      exact ⟨(h.mem_subtree hs).mpr (Or.inr habove), decide_eq_true hkind⟩
  · exact List.mem_singleton_self i

/-- Where every item gives something, a single result is that of a single item. -/
theorem flatMap_eq_singleton_iff {α β : Type} {f : α → List β} {items : List α} {item : α}
    {result : β} (hne : ∀ x ∈ items, f x ≠ []) (hmem : item ∈ items) :
    items.flatMap f = [result] ↔ items = [item] ∧ f item = [result] := by
  constructor
  · intro h
    obtain ⟨first, rest, rfl⟩ := List.exists_cons_of_ne_nil (List.ne_nil_of_mem hmem)
    obtain ⟨hfirst, hrest⟩ := List.forall_mem_cons.mp hne
    rw [List.flatMap_cons, List.append_eq_singleton_iff] at h
    rcases h with ⟨hnil, -⟩ | ⟨hresult, hnil⟩
    · exact absurd hnil hfirst
    · have hnone : rest = [] := by
        refine List.eq_nil_iff_forall_not_mem.mpr fun x hx => ?_
        exact hrest x hx (List.flatMap_eq_nil_iff.mp hnil x hx)
      subst hnone
      obtain rfl := List.mem_singleton.mp hmem
      exact ⟨rfl, hresult⟩
  · rintro ⟨rfl, hresult⟩
    rw [List.flatMap_singleton, hresult]

section Named

variable {i : Nat}

/-- **The pieces of an anchor value** are those of the values that it is made of. -/
theorem pieces_anchorValue (hmem : i ∈ tree.namedIdentifiers style i) :
    pieces separator (tree.anchorValue style i) =
      (tree.namedIdentifiers style i).flatMap fun j => pieces separator (tree.node j).value := by
  cases hdescribed : tree.describedBy? style i with
  | none => simp [anchorValue, namedIdentifiers, hdescribed]
  | some described =>
      simp only [anchorValue, namedIdentifiers, hdescribed] at hmem ⊢
      -- The parts that are joined are pieces already, and there is at least one.
      have hne : ((tree.identifiersIn described.1).flatMap fun j =>
          pieces separator (tree.node j).value) ≠ [] := by
        intro hnil
        exact pieces_ne_nil _ _ (List.flatMap_eq_nil_iff.mp hnil i hmem)
      obtain ⟨part, parts, hparts⟩ := List.exists_cons_of_ne_nil hne
      rw [identifiersBelow, ← identifiersIn, hparts, pieces_join, ← hparts, List.flatMap_assoc]
      exact List.flatMap_congr fun j _ => flatMap_pieces_pieces separator _

/-- **An anchor value is empty** exactly if it is made of one value, and that is empty. -/
theorem anchorValue_eq_empty_iff (hmem : i ∈ tree.namedIdentifiers style i) :
    tree.anchorValue style i = "" ↔
      tree.namedIdentifiers style i = [i] ∧ (tree.node i).value = "" := by
  have hne : ∀ j ∈ tree.namedIdentifiers style i, pieces separator (tree.node j).value ≠ [] :=
    fun j _ => pieces_ne_nil separator _
  rw [← pieces_eq_singleton_empty_iff separator, pieces_anchorValue hmem,
    flatMap_eq_singleton_iff hne hmem, pieces_eq_singleton_empty_iff separator]

/-- **An anchor value has no piece but empty ones** exactly if it is made of values that have
none. -/
theorem filter_pieces_anchorValue_eq_nil_iff (hmem : i ∈ tree.namedIdentifiers style i) :
    (pieces separator (tree.anchorValue style i)).filter (!·.isEmpty) = [] ↔
      ∀ j ∈ tree.namedIdentifiers style i, ∀ c ∈ (tree.node j).value.toList, c = separator := by
  rw [pieces_anchorValue hmem, List.filter_flatMap, List.flatMap_eq_nil_iff]
  simp only [filter_pieces_eq_nil_iff]

end Named

end SyntaxTree

/-! ### Anchors without their marks -/

namespace RootPath

/-- The anchor without the mark of the terminal. -/
def value (path : RootPath) : String :=
  Label.unmark path.anchor

/-- The sub-tokens of the anchor, without empty ones. -/
def anchorTokens (path : RootPath) : List String :=
  (pieces separator path.value).filter (!·.isEmpty)

end RootPath

theorem SyntaxTree.value_rootPath (tree : SyntaxTree) (style : TreeStyle) (i : Nat) :
    (tree.rootPath style i).value = tree.anchorValue style i := by
  rw [RootPath.value, anchor_rootPath]
  exact Label.unmark_append_mark _ _

end SyntaxPaths
