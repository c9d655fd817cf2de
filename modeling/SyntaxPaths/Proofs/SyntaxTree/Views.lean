import Mathlib.Logic.ExistsUnique
import SyntaxPaths.Proofs.SyntaxTree.Links

/-!
# The two views of a built tree

Each view of a tree is a way to walk through it: from the root along numbered links to
children, or along links to left children and right siblings.  In a built tree both
walks are walks through a tree, and it is the same tree (`viewsAgree_of_build`).

* **From one link to routes.**  That every node is reached on exactly one route needs
  three facts about single links only: they lead upwards in the table, every node but
  the root is the target of a link, and of one link only (`existsUnique_route`).
* **The siblings of a node.**  Following right siblings from any child passes the
  children from there on (`IsLinked.siblingRun_drop`).
-/

namespace SyntaxPaths

/-! ### Routes -/

/-- The last step of a route. -/
theorem foldlM_concat_eq_some {α σ : Type} {link : α → σ → Option α} {start target : α}
    {route : List σ} {last : σ} :
    (route ++ [last]).foldlM link start = some target ↔
      ∃ before, route.foldlM link start = some before ∧ link before last = some target := by
  simp [List.foldlM_append, Option.bind_eq_some_iff]

/-- **If links lead upwards, and each place but the first is the target of exactly one,**
then each place is reached from the first on exactly one route. -/
theorem existsUnique_route {σ : Type} (link : Nat → σ → Option Nat) {size : Nat}
    (hup : ∀ {i s j}, link i s = some j → i < j)
    (hexists : ∀ {j}, 0 < j → j < size → ∃ i s, link i s = some j)
    (hunique : ∀ {i i' s s' j}, link i s = some j → link i' s' = some j → i = i' ∧ s = s')
    {j : Nat} (hj : j < size) : ∃! route : List σ, route.foldlM link 0 = some j := by
  induction j using Nat.strongRecOn with
  | ind j ih =>
      by_cases hzero : j = 0
      · subst hzero
        refine ⟨[], rfl, fun route hroute => ?_⟩
        -- No link leads to the first place, so no route with a last link does.
        rcases List.eq_nil_or_concat route with rfl | ⟨front, last, rfl⟩
        · rfl
        · rw [List.concat_eq_append] at hroute
          obtain ⟨i, -, hlast⟩ := foldlM_concat_eq_some.mp hroute
          exact absurd (hup hlast) (Nat.not_lt_zero i)
      · obtain ⟨i, s, hlink⟩ := hexists (Nat.pos_of_ne_zero hzero) hj
        have hi : i < j := hup hlink
        obtain ⟨front, hfront, honly⟩ := ih i hi (by omega)
        refine ⟨front ++ [s], foldlM_concat_eq_some.mpr ⟨i, hfront, hlink⟩, fun route hroute => ?_⟩
        rcases List.eq_nil_or_concat route with rfl | ⟨other, last, rfl⟩
        · exact absurd (Option.some.inj hroute).symm hzero
        · rw [List.concat_eq_append] at hroute ⊢
          obtain ⟨i', hother, hlast⟩ := foldlM_concat_eq_some.mp hroute
          obtain ⟨rfl, rfl⟩ := hunique hlink hlast
          rw [honly other hother]

/-! ### The views -/

/-- The kinds of links in the binary view. -/
inductive BinaryLink where
  /-- The link to the left child. -/
  | left
  /-- The link to the right sibling. -/
  | right
  deriving DecidableEq, Repr

namespace SyntaxTree

/-- Where a link of the binary view leads. -/
def target? (tree : SyntaxTree) (i : Nat) : BinaryLink → Option Nat
  | .left => (tree.node i).leftChild
  | .right => (tree.node i).rightSibling

/-- Where a route of the binary view leads from the root. -/
def descendBinary (tree : SyntaxTree) (route : List BinaryLink) : Option Nat :=
  route.foldlM tree.target? root

/-- Following right siblings from the given node, if any, passes the given nodes and
then ends. -/
inductive SiblingRun (tree : SyntaxTree) : Option Nat → List Nat → Prop where
  /-- Nothing is passed from no node. -/
  | nil : SiblingRun tree none []
  /-- A node is passed before its right siblings. -/
  | cons {i : Nat} {run : List Nat} (h : SiblingRun tree (tree.node i).rightSibling run) :
    SiblingRun tree (some i) (i :: run)

/-- **The two views are views of one tree.** -/
structure ViewsAgree (tree : SyntaxTree) : Prop where
  /-- The left child is the first child, and a leaf has none. -/
  leftChild_eq (i : Nat) : (tree.node i).leftChild = (tree.node i).children.head?
  /-- The left child and its right siblings are the children, in order. -/
  siblingRun (i : Nat) : SiblingRun tree (tree.node i).leftChild (tree.node i).children
  /-- The children of a node are linked to it, and no other node is. -/
  mem_children {p c : Nat} : c ∈ (tree.node p).children ↔ (tree.node c).parent = some p
  /-- No node is a child of two nodes. -/
  parent_unique {p q c : Nat} : c ∈ (tree.node p).children → c ∈ (tree.node q).children → p = q
  /-- No node is a child of one node twice. -/
  nodup_children (p : Nat) : (tree.node p).children.Nodup
  /-- Every node but the root is the target of one link of the binary view, which
  starts from its guardian. -/
  guardian {c : Nat} : 0 < c → c < tree.size →
    ∃ i link, (tree.node c).guardian = some i ∧
      ∀ i' link', tree.target? i' link' = some c ↔ i' = i ∧ link' = link
  /-- The eldest nodes are the first children. -/
  isEldest_iff (i : Nat) :
    (tree.node i).isEldest = true ↔ ∃ p, (tree.node p).children.head? = some i
  /-- The root is no child. -/
  root_links : (tree.node root).parent = none ∧ (tree.node root).guardian = none ∧
    (tree.node root).rightSibling = none ∧ (tree.node root).isEldest = false
  /-- Links to children lead upwards in the table. -/
  lt_child {p c : Nat} : c ∈ (tree.node p).children → p < c ∧ c < tree.size
  /-- Links of the binary view lead upwards in the table. -/
  lt_target {i c : Nat} {link : BinaryLink} : tree.target? i link = some c → i < c ∧ c < tree.size
  /-- Every node is reached from the root on one route of child numbers. -/
  existsUnique_descent {i : Nat} : i < tree.size → ∃! route, tree.descend route = some i
  /-- Every node is reached from the root on one route of the binary view. -/
  existsUnique_binary_descent {i : Nat} : i < tree.size →
    ∃! route, tree.descendBinary route = some i
  /-- The eldest nodes are counted. -/
  countP_isEldest : tree.nodes.countP Node.isEldest = tree.eldestCount

namespace IsLinked

variable {tree : SyntaxTree}

/-- **From any child on**, following right siblings passes the rest of the children. -/
theorem siblingRun_drop (h : tree.IsLinked) (p : Nat) {run : List Nat} {k : Nat}
    (hrun : (tree.node p).children.drop k = run) :
    SiblingRun tree (tree.node p).children[k]? run := by
  induction run generalizing k with
  | nil =>
      rw [List.getElem?_eq_none (List.drop_eq_nil_iff.mp hrun)]
      exact .nil
  | cons c run ih =>
      have hchild : (tree.node p).children[k]? = some c := by
        rw [← List.head?_drop, hrun, List.head?_cons]
      have hrest : (tree.node p).children.drop (k + 1) = run := by
        rw [← List.drop_drop, hrun, List.drop_succ_cons, List.drop_zero]
      rw [hchild]
      refine .cons ?_
      rw [h.rightSibling_child hchild]
      exact ih hrest

/-- Every node but the root is the target of a link of the binary view. -/
theorem exists_target (h : tree.IsLinked) {c : Nat} (hpos : 0 < c) (hc : c < tree.size) :
    ∃ i link, tree.target? i link = some c := by
  obtain ⟨p, k, hchild⟩ := h.exists_parent hpos hc
  cases k with
  | zero =>
      refine ⟨p, .left, ?_⟩
      rw [target?, h.leftChild_eq, List.head?_eq_getElem?, hchild]
  | succ k =>
      -- The link comes from the child before it.
      obtain ⟨hk, -⟩ := List.getElem?_eq_some_iff.mp hchild
      have hleft : (tree.node p).children[k]? = some _ := List.getElem?_eq_getElem (by omega)
      exact ⟨_, .right, (h.rightSibling_child hleft).trans hchild⟩

/-- **The target of a link of the binary view** knows where the link comes from and of
which kind it is. -/
theorem target_spec (h : tree.IsLinked) {i c : Nat} {link : BinaryLink}
    (hlink : tree.target? i link = some c) :
    (i < c ∧ c < tree.size) ∧ (tree.node c).guardian = some i ∧
      link = if (tree.node c).isEldest then .left else .right := by
  cases link with
  | left =>
      rw [target?, h.leftChild_eq, List.head?_eq_getElem?] at hlink
      refine ⟨h.lt_child hlink, h.guardian_child hlink, ?_⟩
      rw [h.isEldest_child hlink]
      rfl
  | right =>
      rw [target?] at hlink
      -- A node with a right sibling is a child, and the sibling is the next one.
      rcases h.cases_node i with hroot | ⟨p, k, hchild⟩
      · have hnone : (tree.node i).rightSibling = none := congrArg Place.rightSibling hroot
        rw [hnone] at hlink
        cases hlink
      · rw [h.rightSibling_child hchild] at hlink
        obtain ⟨hk, rfl⟩ := List.getElem?_eq_some_iff.mp hchild
        obtain ⟨hnext, rfl⟩ := List.getElem?_eq_some_iff.mp hlink
        have hlt := List.pairwise_iff_getElem.mp (h.children_lt p) k (k + 1) hk hnext (by omega)
        refine ⟨⟨hlt, (h.lt_child hlink).2⟩, ?_, ?_⟩
        · rw [h.guardian_child hlink, if_neg (Nat.succ_ne_zero k), Nat.add_sub_cancel, hchild]
        · rw [h.isEldest_child hlink]
          rfl

/-- Only one link of the binary view leads to a node. -/
theorem target_unique (h : tree.IsLinked) {i i' c : Nat} {link link' : BinaryLink}
    (hlink : tree.target? i link = some c) (hlink' : tree.target? i' link' = some c) :
    i = i' ∧ link = link' := by
  obtain ⟨-, hguardian, hkind⟩ := h.target_spec hlink
  obtain ⟨-, hguardian', hkind'⟩ := h.target_spec hlink'
  exact ⟨Option.some.inj (hguardian.symm.trans hguardian'), hkind.trans hkind'.symm⟩

/-- Every node but the root is the target of one link, which starts from its
guardian. -/
theorem guardian_spec (h : tree.IsLinked) {c : Nat} (hpos : 0 < c) (hc : c < tree.size) :
    ∃ i link, (tree.node c).guardian = some i ∧
      ∀ i' link', tree.target? i' link' = some c ↔ i' = i ∧ link' = link := by
  obtain ⟨i, link, hlink⟩ := h.exists_target hpos hc
  obtain ⟨-, hguardian, -⟩ := h.target_spec hlink
  refine ⟨i, link, hguardian, fun i' link' => ⟨fun hlink' => h.target_unique hlink' hlink, ?_⟩⟩
  rintro ⟨rfl, rfl⟩
  exact hlink

/-- The eldest nodes are the first children. -/
theorem isEldest_iff (h : tree.IsLinked) (i : Nat) :
    (tree.node i).isEldest = true ↔ ∃ p, (tree.node p).children.head? = some i := by
  constructor
  · intro heldest
    rcases h.cases_node i with hroot | ⟨p, k, hchild⟩
    · have hfalse : (tree.node i).isEldest = false := congrArg Place.isEldest hroot
      rw [hfalse] at heldest
      cases heldest
    · rw [h.isEldest_child hchild, beq_iff_eq] at heldest
      exact ⟨p, by rw [List.head?_eq_getElem?, ← heldest, hchild]⟩
  · rintro ⟨p, hhead⟩
    rw [List.head?_eq_getElem?] at hhead
    rw [h.isEldest_child hhead]
    rfl

theorem existsUnique_descent (h : tree.IsLinked) {i : Nat} (hi : i < tree.size) :
    ∃! route, tree.descend route = some i :=
  existsUnique_route tree.child? (fun hchild => (h.lt_child hchild).1)
    h.exists_parent h.child_unique hi

theorem existsUnique_binary_descent (h : tree.IsLinked) {i : Nat} (hi : i < tree.size) :
    ∃! route, tree.descendBinary route = some i :=
  existsUnique_route tree.target? (fun hlink => (h.target_spec hlink).1.1)
    h.exists_target h.target_unique hi

end IsLinked

/-- **The two views of every built tree agree.** -/
theorem viewsAgree_of_build {normalizer : Normalizer} {raw : ParseTree} {lines : List String}
    {tree : SyntaxTree} (h : build normalizer raw lines = .ok tree) : tree.ViewsAgree :=
  have hlinked := isLinked_of_build h
  { leftChild_eq := hlinked.leftChild_eq
    siblingRun := by
      intro i
      rw [hlinked.leftChild_eq, List.head?_eq_getElem?]
      exact hlinked.siblingRun_drop i List.drop_zero
    mem_children := hlinked.mem_children
    parent_unique := by
      intro p q c hp hq
      rw [hlinked.mem_children] at hp hq
      exact Option.some.inj (hp.symm.trans hq)
    nodup_children := hlinked.nodup_children
    guardian := hlinked.guardian_spec
    isEldest_iff := hlinked.isEldest_iff
    root_links :=
      ⟨congrArg Place.parent hlinked.place_root, congrArg Place.guardian hlinked.place_root,
        congrArg Place.rightSibling hlinked.place_root,
        congrArg Place.isEldest hlinked.place_root⟩
    lt_child := fun hmem => hlinked.lt_of_parent (hlinked.mem_children.mp hmem)
    lt_target := fun hlink => (hlinked.target_spec hlink).1
    existsUnique_descent := hlinked.existsUnique_descent
    existsUnique_binary_descent := hlinked.existsUnique_binary_descent
    countP_isEldest := (hasLayout_of_build h).countP_isEldest }

theorem viewsAgree_twoWords :
    build .verbatim .twoWords ["a b"] = .ok .twoWords ∧ twoWords.ViewsAgree :=
  ⟨build_twoWords, viewsAgree_of_build build_twoWords⟩

end SyntaxTree

end SyntaxPaths
