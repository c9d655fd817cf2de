import SyntaxPaths.Proofs.Path.Root

/-!
# What a normalizer decides

A normalizer is asked for the values of the nodes, and they are written into the same entries
as everything else.  Nothing else in a built tree depends on them, and neither does whether a
tree can be built (`agreeUpToValues_build`).

This is shown without following two runs at once.

* **Without values.**  Values can be taken away from what is read of a node, and from a tree,
  and the layout of a tree commutes with it (`withoutValues_layout`).  What is read of a node
  is the same for every normalizer once its value is gone
  (`NodeContent.map_withoutValue_read`), so all normalizers build the same tree up to values
  (`map_withoutValues_build`).
* **Not looking at values.**  What is computed from kinds, spans and links is computed from
  the tree without values just as well.  In the styles that label by kinds, this holds of the
  ancestors in all root paths (`ancestors_rootPath_withoutValues`).
-/

namespace SyntaxPaths

open ParseTree

/-! ### What is read of a node -/

/-- What a node says, without its value. -/
def NodeContent.withoutValue (content : NodeContent) : NodeContent :=
  { content with value := "" }

/-- **Apart from the value, nothing is asked of the normalizer** when a node is read. -/
theorem NodeContent.map_withoutValue_read (normalizer normalizer' : Normalizer)
    (lines : List String) (tree : ParseTree) :
    (NodeContent.read normalizer lines tree).map withoutValue =
      (NodeContent.read normalizer' lines tree).map withoutValue := by
  simp only [NodeContent.read]
  cases coveredText (normalKind tree.kind) tree.span lines with
  | error cause => rfl
  | ok text => rfl

/-- Reading all items and then viewing the images is reading and viewing one after the other. -/
theorem map_mapM {α β γ ε : Type} (read : α → Except ε β) (view : β → γ) (items : List α) :
    (items.mapM read).map (List.map view) = items.mapM fun item => (read item).map view := by
  induction items with
  | nil => rfl
  | cons item items ih =>
      rw [List.mapM_cons, List.mapM_cons, ← ih]
      cases read item with
      | error cause => rfl
      | ok image => cases items.mapM read <;> rfl

/-! ### Trees without values -/

/-- An entry without its value. -/
def Node.withoutValue (node : Node) : Node :=
  { node with value := "" }

/-- Entries that agree without their values agree in all other fields. -/
theorem Node.eq_of_withoutValue_eq {node node' : Node}
    (h : node.withoutValue = node'.withoutValue) : node' = { node with value := node'.value } := by
  cases node
  cases node'
  unfold withoutValue at h
  injection h
  subst_vars
  rfl

theorem map_withoutValue_assembleAll (contents : List NodeContent) (places : List Place)
    (runs : List (List Nat)) :
    (assembleAll contents places runs).map Node.withoutValue =
      assembleAll (contents.map NodeContent.withoutValue) places runs := by
  induction contents generalizing places runs with
  | nil => rfl
  | cons content contents ih =>
      cases places with
      | nil => rfl
      | cons place places =>
          cases runs with
          | nil => rfl
          | cons run runs =>
              rw [assembleAll_cons, List.map_cons, List.map_cons, assembleAll_cons, ih]
              rfl

namespace SyntaxTree

/-- A tree without the values of its nodes. -/
def withoutValues (tree : SyntaxTree) : SyntaxTree :=
  { tree with nodes := tree.nodes.map Node.withoutValue }

/-- **The values in a layout are those of the contents.** -/
theorem withoutValues_layout (contents : List NodeContent) (counts : List Nat) :
    (layout contents counts).withoutValues =
      layout (contents.map NodeContent.withoutValue) counts := by
  unfold withoutValues layout
  rw [List.map_toArray, map_withoutValue_assembleAll]

/-- **All normalizers build the same tree up to values**, or fail for the same cause. -/
theorem map_withoutValues_build (normalizer normalizer' : Normalizer) (raw : ParseTree)
    (lines : List String) :
    (build normalizer raw lines).map withoutValues =
      (build normalizer' raw lines).map withoutValues := by
  have hclosed (normalizer : Normalizer) :
      (build normalizer raw lines).map withoutValues =
        (raw.levelOrder.mapM fun tree =>
          (NodeContent.read normalizer lines tree).map NodeContent.withoutValue).map
            fun contents => layout contents (raw.levelOrder.map childCount) := by
    rw [build_eq_layout, ← map_mapM]
    cases raw.levelOrder.mapM (NodeContent.read normalizer lines) with
    | error cause => rfl
    | ok contents => exact congrArg Except.ok (withoutValues_layout contents _)
  have hread : (fun tree => (NodeContent.read normalizer lines tree).map NodeContent.withoutValue) =
      fun tree => (NodeContent.read normalizer' lines tree).map NodeContent.withoutValue := by
    funext tree
    exact NodeContent.map_withoutValue_read normalizer normalizer' lines tree
  rw [hclosed normalizer, hclosed normalizer', hread]

/-! ### What does not look at values -/

section WithoutValues

variable (tree : SyntaxTree)

@[simp] theorem node_withoutValues (i : Nat) :
    tree.withoutValues.node i = (tree.node i).withoutValue := by
  unfold node withoutValues
  rw [Array.getElem?_map]
  cases tree.nodes[i]? <;> rfl

@[simp] theorem size_withoutValues : tree.withoutValues.size = tree.size := by
  unfold size withoutValues
  rw [Array.size_map]

@[simp] theorem terminals_withoutValues : tree.withoutValues.terminals = tree.terminals := rfl

theorem ancestors_withoutValues (i : Nat) : tree.withoutValues.ancestors i = tree.ancestors i := by
  induction i using Nat.strongRecOn with
  | ind i ih =>
      have hparent : (tree.withoutValues.node i).parent = (tree.node i).parent := by
        rw [node_withoutValues]
        rfl
      rw [ancestors_eq, ancestors_eq tree, hparent]
      cases (tree.node i).parent with
      | none => rfl
      | some p =>
          by_cases hp : p < i
          · simp only [hp, if_true, ih p hp]
          · simp only [hp, if_false]

theorem firstStatement?_withoutValues (chain : List Nat) :
    tree.withoutValues.firstStatement? chain = tree.firstStatement? chain := by
  induction chain with
  | nil => rfl
  | cons i chain ih =>
      unfold firstStatement?
      rw [node_withoutValues, ih]
      rfl

theorem keptAncestors_withoutValues (style : TreeStyle) (i : Nat) :
    tree.withoutValues.keptAncestors style i = tree.keptAncestors style i := by
  unfold keptAncestors describedBy? statementAbove?
  rw [firstStatement?_withoutValues, ancestors_withoutValues]

/-- **In the styles that label by kinds**, the ancestors in a root path do not tell values. -/
theorem ancestors_rootPath_withoutValues {style : TreeStyle} (h : style.usesKinds = true)
    (i : Nat) :
    (tree.withoutValues.rootPath style i).ancestors = (tree.rootPath style i).ancestors := by
  have hlabel : tree.withoutValues.labelAt style = tree.labelAt style := by
    funext a
    unfold labelAt Node.markedLabel Node.label
    rw [node_withoutValues, if_pos h, if_pos h]
    rfl
  rw [ancestors_rootPath, ancestors_rootPath, keptAncestors_withoutValues, hlabel]

end WithoutValues

/-! ### Two normalizers -/

/-- **Two trees differ in the values of their nodes at most.** -/
structure AgreeUpToValues (tree tree' : SyntaxTree) : Prop where
  /-- They have the same number of nodes. -/
  size_eq : tree'.size = tree.size
  /-- They have the same terminals, in the same order. -/
  terminals_eq : tree'.terminals = tree.terminals
  /-- They have the same number of nodes with children. -/
  eldestCount_eq : tree'.eldestCount = tree.eldestCount
  /-- Nodes in the same place agree in every field but the value. -/
  node_eq (i : Nat) : tree'.node i = { tree.node i with value := (tree'.node i).value }
  /-- In the styles that label by kinds, all root paths have the same ancestors. -/
  ancestors_eq {style : TreeStyle} : style.usesKinds = true →
    ∀ i, (tree'.rootPath style i).ancestors = (tree.rootPath style i).ancestors

theorem agreeUpToValues_of_withoutValues_eq {tree tree' : SyntaxTree}
    (h : tree.withoutValues = tree'.withoutValues) : tree.AgreeUpToValues tree' where
  size_eq := by
    rw [← size_withoutValues tree, h, size_withoutValues]
  terminals_eq := by
    rw [← terminals_withoutValues tree, h, terminals_withoutValues]
  eldestCount_eq := (congrArg eldestCount h).symm
  node_eq := by
    intro i
    apply Node.eq_of_withoutValue_eq
    rw [← node_withoutValues, h, node_withoutValues]
  ancestors_eq := by
    intro style hkinds i
    rw [← tree.ancestors_rootPath_withoutValues hkinds, h,
      tree'.ancestors_rootPath_withoutValues hkinds]

/-- **A normalizer decides about values only**: with two normalizers building fails for the
same cause, or it succeeds with trees that differ in values at most. -/
theorem agreeUpToValues_build (normalizer normalizer' : Normalizer) (raw : ParseTree)
    (lines : List String) :
    (∃ cause, build normalizer raw lines = .error cause ∧
      build normalizer' raw lines = .error cause) ∨
    ∃ tree tree', build normalizer raw lines = .ok tree ∧
      build normalizer' raw lines = .ok tree' ∧ tree.AgreeUpToValues tree' := by
  have hbuild := map_withoutValues_build normalizer normalizer' raw lines
  cases htree : build normalizer raw lines with
  | error cause =>
      cases htree' : build normalizer' raw lines with
      | error cause' =>
          rw [htree, htree'] at hbuild
          cases hbuild
          exact Or.inl ⟨cause, rfl, rfl⟩
      | ok tree' =>
          rw [htree, htree'] at hbuild
          cases hbuild
  | ok tree =>
      cases htree' : build normalizer' raw lines with
      | error cause' =>
          rw [htree, htree'] at hbuild
          cases hbuild
      | ok tree' =>
          rw [htree, htree'] at hbuild
          exact Or.inr ⟨tree, tree', rfl, rfl,
            agreeUpToValues_of_withoutValues_eq (Except.ok.inj hbuild)⟩

end SyntaxTree

end SyntaxPaths
