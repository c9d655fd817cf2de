import Mathlib.Data.List.Basic
import SyntaxPaths.Proofs.SyntaxTree.Construction

/-!
# The links of a built tree

Every tree that is built keeps what is said here of its links, so a proof about built
trees begins with one of these.

* `HasLayout` — the links follow from the numbers of children, in level order
* `IsLinked` — the links agree with each other, without reference to any numbers

`hasLayout_of_build` and `isLinked_of_build` say that both hold of every built tree.
-/

namespace SyntaxPaths

open ParseTree

namespace SyntaxTree

/-! ### The layout -/

/-- The links of a tree follow from the given numbers of children of its nodes. -/
structure HasLayout (tree : SyntaxTree) (counts : List Nat) : Prop where
  /-- The numbers are those of a level order. -/
  order : IsLevelOrder counts
  /-- There is one number per node. -/
  size_eq : tree.size = counts.length
  /-- The children of a node stand in a row. -/
  children_eq {i count : Nat} : counts[i]? = some count →
    (tree.node i).children = List.range' (firstChild counts i) count
  /-- The binary view begins at the first child. -/
  leftChild_eq (i : Nat) : (tree.node i).leftChild = (tree.node i).children.head?
  /-- The root is no child. -/
  place_root : (tree.node root).place = .root
  /-- Each child is linked to its parent and its siblings. -/
  place_child {p count k : Nat} : counts[p]? = some count → k < count →
    (tree.node (firstChild counts p + k)).place = .child p (firstChild counts p) count k
  /-- The leaves are listed in the order of their places. -/
  terminals_eq : tree.terminals = (List.range counts.length).filter fun i => counts[i]? = some 0
  /-- The nodes with children are counted. -/
  eldestCount_eq : tree.eldestCount = counts.countP (· ≠ 0)
  /-- So are the first children. -/
  countP_isEldest : tree.nodes.countP Node.isEldest = tree.eldestCount

theorem node_eq_default {tree : SyntaxTree} {i : Nat} (h : tree.size ≤ i) :
    tree.node i = default := by
  rw [node, Array.getElem?_eq_none h, Option.getD_none]

section Layout

variable {contents : List NodeContent} {counts : List Nat}

/-- Every place holds an entry with the content and the links of the place. -/
theorem exists_node_layout (horder : IsLevelOrder counts)
    (hlength : contents.length = counts.length) {i count : Nat} (hcount : counts[i]? = some count) :
    ∃ content place, contents[i]? = some content ∧
      (Place.root :: placesFrom 0 1 counts)[i]? = some place ∧
      (layout contents counts).node i =
        .assemble content place (List.range' (firstChild counts i) count) := by
  have hi : i < contents.length := hlength ▸ (List.getElem?_eq_some_iff.mp hcount).1
  have hplace : i < (Place.root :: placesFrom 0 1 counts).length := by
    rwa [length_places horder hlength]
  exact ⟨contents[i], _, List.getElem?_eq_getElem hi, List.getElem?_eq_getElem hplace,
    node_layout (List.getElem?_eq_getElem hi) hcount (List.getElem?_eq_getElem hplace)⟩

theorem hasLayout_layout (horder : IsLevelOrder counts)
    (hlength : contents.length = counts.length) : (layout contents counts).HasLayout counts where
  order := horder
  size_eq := size_layout horder hlength
  children_eq := by
    intro i count hcount
    obtain ⟨content, place, -, -, heq⟩ := exists_node_layout horder hlength hcount
    simp [heq, Node.assemble, Node.children]
  leftChild_eq := by
    intro i
    by_cases hi : i < counts.length
    · obtain ⟨content, place, -, -, heq⟩ :=
        exists_node_layout horder hlength (List.getElem?_eq_getElem hi)
      simp [heq, Node.assemble, Node.children]
    · rw [node_eq_default (by rw [size_layout horder hlength]; omega)]
      rfl
  place_root := by
    have hpos : 0 < counts.length := by rw [horder.length_eq]; omega
    obtain ⟨content, place, -, hplace, heq⟩ :=
      exists_node_layout horder hlength (List.getElem?_eq_getElem hpos)
    rw [List.getElem?_cons_zero, Option.some.injEq] at hplace
    rw [root, heq, hplace]
    rfl
  place_child := by
    intro p count k hcount hk
    have hc : firstChild counts p + k < counts.length := by
      have hle := horder.firstChild_add_le hcount
      omega
    obtain ⟨content, place, -, hplace, heq⟩ :=
      exists_node_layout horder hlength (List.getElem?_eq_getElem hc)
    rw [getElem?_places_child hcount hk, Option.some.injEq] at hplace
    rw [heq, hplace]
    rfl
  terminals_eq := by
    rw [terminals, layout, leavesFrom_eq_filter, ← List.range_eq_range']
    rfl
  eldestCount_eq := rfl
  countP_isEldest := countP_isEldest_layout horder hlength

end Layout

/-! ### Built trees -/

/-- If all items of a list can be read, there is one result per item. -/
theorem getElem?_of_mapM_eq_ok {α β ε : Type} {read : α → Except ε β} {items : List α}
    {results : List β} (h : items.mapM read = .ok results) :
    results.length = items.length ∧ ∀ (i : Nat) item, items[i]? = some item →
      ∃ result, results[i]? = some result ∧ read item = .ok result := by
  induction items generalizing results with
  | nil =>
      rw [List.mapM_nil] at h
      cases h
      exact ⟨rfl, by simp⟩
  | cons head items ih =>
      rw [List.mapM_cons] at h
      cases hhead : read head with
      | error cause => rw [hhead] at h; cases h
      | ok first =>
          rw [hhead] at h
          cases hrest : items.mapM read with
          | error cause => rw [hrest] at h; cases h
          | ok rest =>
              rw [hrest] at h
              cases h
              obtain ⟨hlength, hget⟩ := ih hrest
              refine ⟨by rw [List.length_cons, hlength, List.length_cons], ?_⟩
              intro i item hitem
              cases i with
              | zero =>
                  rw [List.getElem?_cons_zero, Option.some.injEq] at hitem
                  exact ⟨first, rfl, hitem ▸ hhead⟩
              | succ i => exact hget i item hitem

/-- A built tree is the layout of what its nodes say. -/
theorem exists_layout_of_build {normalizer : Normalizer} {raw : ParseTree} {lines : List String}
    {tree : SyntaxTree} (h : build normalizer raw lines = .ok tree) :
    ∃ contents, raw.levelOrder.mapM (NodeContent.read normalizer lines) = .ok contents ∧
      tree = layout contents (raw.levelOrder.map childCount) := by
  rw [build_eq_layout] at h
  cases hread : raw.levelOrder.mapM (NodeContent.read normalizer lines) with
  | error cause => rw [hread] at h; cases h
  | ok contents =>
      rw [hread] at h
      cases h
      exact ⟨contents, rfl, rfl⟩

/-- **The links of a built tree follow from the numbers of children.** -/
theorem hasLayout_of_build {normalizer : Normalizer} {raw : ParseTree} {lines : List String}
    {tree : SyntaxTree} (h : build normalizer raw lines = .ok tree) :
    tree.HasLayout (raw.levelOrder.map childCount) := by
  obtain ⟨contents, hread, rfl⟩ := exists_layout_of_build h
  have hlength := (getElem?_of_mapM_eq_ok hread).1
  exact hasLayout_layout (isLevelOrder_childCounts raw) (by rw [hlength, List.length_map])

/-! ### Links without numbers -/

/-- Child number `k` of a node. -/
def child? (tree : SyntaxTree) (i k : Nat) : Option Nat :=
  (tree.node i).children[k]?

/-- Where a route of child numbers leads from the root. -/
def descend (tree : SyntaxTree) (route : List Nat) : Option Nat :=
  route.foldlM tree.child? root

/-- The two views of a tree agree about each child. -/
structure IsLinked (tree : SyntaxTree) : Prop where
  /-- There is a root. -/
  size_pos : 0 < tree.size
  /-- The root is no child. -/
  place_root : (tree.node root).place = .root
  /-- The binary view begins at the first child. -/
  leftChild_eq (i : Nat) : (tree.node i).leftChild = (tree.node i).children.head?
  /-- A child stands behind its parent. -/
  lt_child {p k c : Nat} : (tree.node p).children[k]? = some c → p < c ∧ c < tree.size
  /-- A child is linked to its parent and its siblings. -/
  place_child {p k c : Nat} : (tree.node p).children[k]? = some c →
    (tree.node c).place =
      { isEldest := k == 0
        parent := some p
        guardian := if k = 0 then some p else (tree.node p).children[k - 1]?
        rightSibling := (tree.node p).children[k + 1]? }
  /-- A child stands behind its left siblings. -/
  children_lt (p : Nat) : (tree.node p).children.Pairwise (· < ·)
  /-- Every node but the root is a child. -/
  exists_parent {c : Nat} : 0 < c → c < tree.size →
    ∃ p k : Nat, (tree.node p).children[k]? = some c

namespace HasLayout

variable {tree : SyntaxTree} {counts : List Nat}

theorem children_eq_nil (h : tree.HasLayout counts) {i : Nat} (hi : counts[i]? = none) :
    (tree.node i).children = [] := by
  rw [node_eq_default (by rw [h.size_eq]; exact List.getElem?_eq_none_iff.mp hi)]
  rfl

/-- The numbers are those of the children. -/
theorem getElem?_counts (h : tree.HasLayout counts) {i : Nat} (hi : i < tree.size) :
    counts[i]? = some (tree.node i).children.length := by
  rw [h.size_eq] at hi
  rw [h.children_eq (List.getElem?_eq_getElem hi), List.getElem?_eq_getElem hi, List.length_range']

theorem counts_eq (h : tree.HasLayout counts) :
    counts = (List.range tree.size).map fun i => (tree.node i).children.length := by
  refine List.ext_getElem? fun i => ?_
  rw [List.getElem?_map]
  by_cases hi : i < tree.size
  · rw [h.getElem?_counts hi, List.getElem?_range hi, Option.map_some]
  · rw [List.getElem?_eq_none (by rw [← h.size_eq]; omega),
      List.getElem?_eq_none (by rw [List.length_range]; omega), Option.map_none]

/-- **The terminals** are the nodes without children, in the order of their places. -/
theorem terminals_eq_filter (h : tree.HasLayout counts) :
    tree.terminals = (List.range tree.size).filter fun i => (tree.node i).children.isEmpty := by
  rw [h.terminals_eq, ← h.size_eq]
  refine List.filter_congr fun i hi => ?_
  rw [h.getElem?_counts (List.mem_range.mp hi), Bool.eq_iff_iff]
  simp

/-- Counted are the nodes with children. -/
theorem eldestCount_eq_countP (h : tree.HasLayout counts) :
    tree.eldestCount = (List.range tree.size).countP fun i =>
      !(tree.node i).children.isEmpty := by
  rw [h.eldestCount_eq, h.counts_eq, List.countP_map]
  refine List.countP_congr fun i _ => ?_
  simp

/-- Child number `k` of a node stands `k` places behind the first one. -/
theorem getElem?_children_eq_some (h : tree.HasLayout counts) {p k c : Nat} :
    (tree.node p).children[k]? = some c ↔
      ∃ count, counts[p]? = some count ∧ k < count ∧ c = firstChild counts p + k := by
  cases hcount : counts[p]? with
  | none => simp [h.children_eq_nil hcount]
  | some count =>
      rw [h.children_eq hcount]
      by_cases hk : k < count
      · simp [hk, eq_comm]
      · simp [hk]

/-- **Children stand in the order of their parents.** -/
theorem lt_of_mem_children (h : tree.HasLayout counts) {p q c d : Nat} (hlt : p < q)
    (hc : c ∈ (tree.node p).children) (hd : d ∈ (tree.node q).children) : c < d := by
  obtain ⟨k, hchild⟩ := List.getElem?_of_mem hc
  obtain ⟨count, hcount, hk, rfl⟩ := h.getElem?_children_eq_some.mp hchild
  obtain ⟨l, hchild⟩ := List.getElem?_of_mem hd
  obtain ⟨count', -, -, rfl⟩ := h.getElem?_children_eq_some.mp hchild
  have hle := firstChild_add_le_firstChild hcount hlt
  omega

theorem isLinked (h : tree.HasLayout counts) : tree.IsLinked where
  size_pos := by rw [h.size_eq, h.order.length_eq]; omega
  place_root := h.place_root
  leftChild_eq := h.leftChild_eq
  lt_child := by
    intro p k c hchild
    obtain ⟨count, hcount, hk, rfl⟩ := h.getElem?_children_eq_some.mp hchild
    have hlt := h.order.lt_firstChild p (List.getElem?_eq_some_iff.mp hcount).1
    have hle := h.order.firstChild_add_le hcount
    rw [h.size_eq]
    omega
  place_child := by
    intro p k c hchild
    obtain ⟨count, hcount, hk, rfl⟩ := h.getElem?_children_eq_some.mp hchild
    have hguardian : k ≠ 0 → (List.range' (firstChild counts p) count)[k - 1]? =
        some (firstChild counts p + k - 1) := by
      intro hzero
      rw [List.getElem?_range' (by omega), Nat.one_mul, Nat.add_sub_assoc (by omega)]
    have hright : (List.range' (firstChild counts p) count)[k + 1]? =
        if k + 1 < count then some (firstChild counts p + k + 1) else none := by
      split
      · next hlt => rw [List.getElem?_range' hlt, Nat.one_mul, Nat.add_assoc]
      · next hlt => rw [List.getElem?_eq_none (by rw [List.length_range']; omega)]
    rw [h.place_child hcount hk, h.children_eq hcount, Place.child, hright]
    by_cases hzero : k = 0
    · simp [hzero]
    · simp [hzero, hguardian hzero]
  children_lt := by
    intro p
    cases hcount : counts[p]? with
    | none => rw [h.children_eq_nil hcount]; exact List.Pairwise.nil
    | some count => rw [h.children_eq hcount]; exact List.pairwise_lt_range'
  exists_parent := by
    intro c hpos hlt
    rw [h.size_eq, h.order.length_eq] at hlt
    obtain ⟨p, count, k, hcount, hk, heq⟩ := exists_child (show c - 1 < counts.sum by omega)
    refine ⟨p, k, h.getElem?_children_eq_some.mpr ⟨count, hcount, hk, ?_⟩⟩
    rw [firstChild]
    omega

end HasLayout

namespace IsLinked

variable {tree : SyntaxTree}

theorem parent_child (h : tree.IsLinked) {p k c : Nat}
    (hchild : (tree.node p).children[k]? = some c) : (tree.node c).parent = some p :=
  congrArg Place.parent (h.place_child hchild)

theorem isEldest_child (h : tree.IsLinked) {p k c : Nat}
    (hchild : (tree.node p).children[k]? = some c) : (tree.node c).isEldest = (k == 0) :=
  congrArg Place.isEldest (h.place_child hchild)

theorem guardian_child (h : tree.IsLinked) {p k c : Nat}
    (hchild : (tree.node p).children[k]? = some c) :
    (tree.node c).guardian = if k = 0 then some p else (tree.node p).children[k - 1]? :=
  congrArg Place.guardian (h.place_child hchild)

theorem rightSibling_child (h : tree.IsLinked) {p k c : Nat}
    (hchild : (tree.node p).children[k]? = some c) :
    (tree.node c).rightSibling = (tree.node p).children[k + 1]? :=
  congrArg Place.rightSibling (h.place_child hchild)

/-- A node is the root, the child of a node, or outside the table, where it has no
links. -/
theorem cases_node (h : tree.IsLinked) (i : Nat) :
    (tree.node i).place = .root ∨ ∃ p k : Nat, (tree.node p).children[k]? = some i := by
  by_cases hroot : i = 0
  · exact Or.inl (hroot ▸ h.place_root)
  · by_cases hi : i < tree.size
    · exact Or.inr (h.exists_parent (by omega) hi)
    · refine Or.inl ?_
      rw [node_eq_default (by omega)]
      rfl

/-- **The links to children and to parents are inverse.** -/
theorem mem_children (h : tree.IsLinked) {p c : Nat} :
    c ∈ (tree.node p).children ↔ (tree.node c).parent = some p := by
  constructor
  · intro hmem
    obtain ⟨k, hchild⟩ := List.getElem?_of_mem hmem
    exact h.parent_child hchild
  · intro hparent
    rcases h.cases_node c with hroot | ⟨q, k, hchild⟩
    · have hnone : (tree.node c).parent = none := congrArg Place.parent hroot
      rw [hnone] at hparent
      cases hparent
    · rw [h.parent_child hchild, Option.some.injEq] at hparent
      exact hparent ▸ List.mem_of_getElem? hchild

/-- Among the children of a node, each has a number of its own. -/
theorem nodup_children (h : tree.IsLinked) (p : Nat) : (tree.node p).children.Nodup :=
  (h.children_lt p).imp Nat.ne_of_lt

/-- A node is a child in one way only. -/
theorem child_unique (h : tree.IsLinked) {p q k l c : Nat}
    (hp : (tree.node p).children[k]? = some c) (hq : (tree.node q).children[l]? = some c) :
    p = q ∧ k = l := by
  have hparent : some p = some q := (h.parent_child hp).symm.trans (h.parent_child hq)
  obtain rfl := Option.some.inj hparent
  refine ⟨rfl, ?_⟩
  obtain ⟨hk, -⟩ := List.getElem?_eq_some_iff.mp hp
  exact (List.getElem?_inj hk (h.nodup_children p)).mp (hp.trans hq.symm)

theorem lt_of_parent (h : tree.IsLinked) {p c : Nat} (hparent : (tree.node c).parent = some p) :
    p < c ∧ c < tree.size := by
  obtain ⟨k, hchild⟩ := List.getElem?_of_mem (h.mem_children.mpr hparent)
  exact h.lt_child hchild

end IsLinked

/-- **The two views of a built tree agree about each child.** -/
theorem isLinked_of_build {normalizer : Normalizer} {raw : ParseTree} {lines : List String}
    {tree : SyntaxTree} (h : build normalizer raw lines = .ok tree) : tree.IsLinked :=
  (hasLayout_of_build h).isLinked

end SyntaxTree

/-! ### A small tree -/

/-- Two columns of the first line. -/
def Span.columns (start stop : Nat) : Span where
  start := ⟨0, start⟩
  stop := ⟨0, stop⟩

/-- The parse tree of the line `a b`: two phrases of one word each. -/
def ParseTree.twoWords : ParseTree :=
  .node "Pair" (.columns 0 3)
    [.node "Phrase" (.columns 0 1) [.node "word" (.columns 0 1) []],
      .node "Phrase" (.columns 2 3) [.node "word" (.columns 2 3) []]]

/-- The tree that is built from it. -/
def SyntaxTree.twoWords : SyntaxTree :=
  .layout
    [⟨"pair", "a b", .columns 0 3⟩, ⟨"phrase", "a", .columns 0 1⟩, ⟨"phrase", "b", .columns 2 3⟩,
      ⟨"word", "a", .columns 0 1⟩, ⟨"word", "b", .columns 2 3⟩]
    [2, 1, 1, 0, 0]

theorem SyntaxTree.build_twoWords :
    SyntaxTree.build .verbatim .twoWords ["a b"] = .ok .twoWords := by
  decide +kernel

end SyntaxPaths
