import SyntaxPaths.Path.Merge
import SyntaxPaths.Proofs.Label
import SyntaxPaths.Proofs.Path.Root

/-!
# The meeting point of two root paths

Merging compares labels, position by position from the root.  In a tree whose sibling
inner nodes cover different spans, it finds the lowest common ancestor all the same
(`mergesAt_of_build`).

* **Nodes.**  Two chains of ancestors run together above their meeting point and have no
  node in common below it (`Meeting`).
* **Labels.**  Where the two chains part they go on with two children of the meeting
  point.  A marked label tells the span, so the labels of the two differ
  (`Meeting.labelAt_ne`), and merging stops there too.
-/

namespace SyntaxPaths

open SyntaxTree

/-! ### Lists that part -/

theorem merge?_eq_none {left right : List String} (h : ∀ label ∈ left.head?, label ∉ right.head?) :
    merge? left right = none := by
  cases left with
  | nil => exact merge?_nil_left right
  | cons a left =>
      cases right with
      | nil => exact merge?_nil_right _
      | cons b right =>
          have hne : a ≠ b := by
            rintro rfl
            exact h a rfl rfl
          rw [merge?_cons_cons, if_neg hne]

/-- Two lists that part behind a shared label have it as their meeting point. -/
theorem merge?_append (shared : List String) (summit : String) {left right : List String}
    (h : ∀ label ∈ left.head?, label ∉ right.head?) :
    merge? (shared ++ summit :: left) (shared ++ summit :: right) =
      some { upward := left.reverse, summit, downward := right } := by
  induction shared with
  | nil => rw [List.nil_append, List.nil_append, merge?_cons_cons, if_pos rfl, merge?_eq_none h]
  | cons label shared ih =>
      rw [List.cons_append, List.cons_append, merge?_cons_cons, if_pos rfl, ih]

namespace SyntaxTree

/-! ### Chains that part -/

/-- No two inner nodes among the children of one node cover the same span. -/
def SiblingsApart (tree : SyntaxTree) : Prop :=
  ∀ p a b, a ∈ (tree.node p).children → b ∈ (tree.node p).children →
    (tree.node a).isTerminal = false → (tree.node b).isTerminal = false →
    (tree.node a).span = (tree.node b).span → a = b

instance (tree : SyntaxTree) : Decidable tree.SiblingsApart :=
  decidable_of_iff
    (∀ p < tree.size, ∀ a ∈ (tree.node p).children, ∀ b ∈ (tree.node p).children,
      (tree.node a).isTerminal = false → (tree.node b).isTerminal = false →
        (tree.node a).span = (tree.node b).span → a = b) <| by
    constructor
    · intro h p a b ha hb
      by_cases hp : p < tree.size
      · exact h p hp a ha b hb
      · rw [node_eq_default (Nat.not_lt.mp hp)] at ha
        cases ha
    · intro h p _ a ha b hb
      exact h p a b ha hb

/-- A walk climbs along links to parents up to a node, and then goes down along links to
children. -/
def IsWalkOver (tree : SyntaxTree) (summit : Nat) (walk : List Nat) : Prop :=
  ∃ up down, walk = up ++ summit :: down ∧
    (up ++ [summit]).IsChain (fun c p => (tree.node c).parent = some p) ∧
    (summit :: down).IsChain (fun p c => (tree.node c).parent = some p)

/-- The chains of ancestors of two nodes meet in a node, with the given nodes below
it. -/
structure Meeting (tree : SyntaxTree) (x y a : Nat) (below below' : List Nat) : Prop where
  /-- The chain of the first node. -/
  left : tree.ancestors x = below ++ a :: tree.ancestors a
  /-- The chain of the second node. -/
  right : tree.ancestors y = below' ++ a :: tree.ancestors a
  /-- The chains have no node in common below the meeting point. -/
  apart : ∀ c ∈ below, c ∉ below'

namespace IsLinked

variable {tree : SyntaxTree} {x y : Nat}

/-- Two chains that are not empty meet: at the root, if not before. -/
theorem exists_meeting (h : tree.IsLinked) (hx : tree.ancestors x ≠ [])
    (hy : tree.ancestors y ≠ []) : ∃ a below below', tree.Meeting x y a below below' := by
  -- The meeting point is the first node of one chain that lies on the other.
  cases hfind : (tree.ancestors x).find? (fun a => a ∈ tree.ancestors y) with
  | none =>
      have hnone := List.find?_eq_none.mp hfind root (h.root_mem_ancestors hx)
      exact absurd (decide_eq_true (h.root_mem_ancestors hy)) hnone
  | some a =>
      obtain ⟨ha, below, above, hchain, hbelow⟩ := List.find?_eq_some_iff_append.mp hfind
      obtain ⟨below', hchain'⟩ := h.exists_append_of_mem (of_decide_eq_true ha)
      refine ⟨a, below, below', ?_, hchain', ?_⟩
      · rw [hchain, h.eq_ancestors_of_append hchain]
      · intro c hc hc'
        have hmem : c ∈ tree.ancestors y := hchain' ▸ List.mem_append_left _ hc'
        simpa [hmem] using hbelow c hc

end IsLinked

namespace Meeting

variable {tree : SyntaxTree} {x y a : Nat} {below below' : List Nat}

theorem symm (h : tree.Meeting x y a below below') : tree.Meeting y x a below' below where
  left := h.right
  right := h.left
  apart := fun c hc' hc => h.apart c hc hc'

theorem mem_left (h : tree.Meeting x y a below below') : a ∈ tree.ancestors x :=
  h.left ▸ List.mem_append_right below List.mem_cons_self

/-- **The meeting point is the lowest common ancestor.** -/
theorem lowest (h : tree.Meeting x y a below below') {c : Nat} (hx : c ∈ tree.ancestors x)
    (hy : c ∈ tree.ancestors y) : c = a ∨ c ∈ tree.ancestors a := by
  rw [h.left] at hx
  rw [h.right] at hy
  rcases List.mem_append.mp hx with hbelow | habove
  · rcases List.mem_append.mp hy with hbelow' | habove
    · exact absurd hbelow' (h.apart c hbelow)
    · exact List.mem_cons.mp habove
  · exact List.mem_cons.mp habove

/-- **Where the chains part, so do the labels.** -/
theorem labelAt_ne (h : tree.Meeting x y a below below') (hlinked : tree.IsLinked)
    (hapart : tree.SiblingsApart) (style : TreeStyle) {c d : Nat} (hc : below.getLast? = some c)
    (hd : below'.getLast? = some d) : tree.labelAt style c ≠ tree.labelAt style d := by
  intro hlabel
  -- Equal labels have equal marks, so the two children would be one node.
  have hspan : (tree.node c).span = (tree.node d).span := (Label.append_mark_inj hlabel).2
  have hmem : c ∈ below := List.mem_of_getLast? hc
  have hmem' : d ∈ below' := List.mem_of_getLast? hd
  have hx : c ∈ tree.ancestors x := h.left ▸ List.mem_append_left _ hmem
  have hy : d ∈ tree.ancestors y := h.right ▸ List.mem_append_left _ hmem'
  have heq : c = d := hapart a c d
    (hlinked.mem_children.mpr (hlinked.parent_of_append h.left hc))
    (hlinked.mem_children.mpr (hlinked.parent_of_append h.right hd))
    (hlinked.not_isTerminal_of_mem_ancestors hx) (hlinked.not_isTerminal_of_mem_ancestors hy) hspan
  exact h.apart c hmem (heq ▸ hmem')

/-- **Merging the labels of two chains** splits them at their meeting point. -/
theorem merge?_map (h : tree.Meeting x y a below below') (hlinked : tree.IsLinked)
    (hapart : tree.SiblingsApart) (style : TreeStyle) :
    merge? ((tree.ancestors x).map (tree.labelAt style)).reverse
        ((tree.ancestors y).map (tree.labelAt style)).reverse =
      some
        { upward := below.map (tree.labelAt style)
          summit := tree.labelAt style a
          downward := (below'.map (tree.labelAt style)).reverse } := by
  have hpart : ∀ label ∈ (below.map (tree.labelAt style)).reverse.head?,
      label ∉ (below'.map (tree.labelAt style)).reverse.head? := by
    intro label hl hl'
    rw [List.head?_reverse, List.getLast?_map] at hl hl'
    obtain ⟨c, hc, hcl⟩ := Option.map_eq_some_iff.mp hl
    obtain ⟨d, hd, hdl⟩ := Option.map_eq_some_iff.mp hl'
    exact h.labelAt_ne hlinked hapart style hc hd (hcl.trans hdl.symm)
  have hmerge := merge?_append ((tree.ancestors a).map (tree.labelAt style)).reverse
    (tree.labelAt style a) hpart
  rw [List.reverse_reverse] at hmerge
  rw [h.left, h.right, ← hmerge]
  simp

/-- From the nearest ancestor up to the meeting point every step leads to a parent. -/
theorem isChain_below (h : tree.Meeting x y a below below') (hlinked : tree.IsLinked) :
    (below ++ [a]).IsChain fun c p => (tree.node c).parent = some p := by
  have hchain := (hlinked.isChain_ancestors x).tail
  rw [List.tail_cons, h.left, List.append_cons] at hchain
  exact hchain.left_of_append

/-- From one nearest ancestor to the other one walks over the meeting point. -/
theorem isWalkOver (h : tree.Meeting x y a below below') (hlinked : tree.IsLinked) :
    tree.IsWalkOver a (below ++ a :: below'.reverse) := by
  refine ⟨below, below'.reverse, rfl, h.isChain_below hlinked, ?_⟩
  rw [← List.reverse_concat, List.isChain_reverse]
  exact h.symm.isChain_below hlinked

/-- The nearest ancestor of one node is the meeting point exactly if it lies on the chain of
the other. -/
theorem head_eq_iff (h : tree.Meeting x y a below below') (hlinked : tree.IsLinked) {i : Nat}
    (hi : (tree.ancestors x).head? = some i) : i = a ↔ i ∈ tree.ancestors y := by
  constructor
  · rintro rfl
    exact h.symm.mem_left
  · intro hy
    obtain ⟨above, hchain⟩ := List.head?_eq_some_iff.mp hi
    rcases h.lowest (List.mem_of_head? hi) hy with heq | hmem
    · exact heq
    · -- The meeting point would lie below the nearest ancestor.
      have ha : a ∈ i :: tree.ancestors i := by
        rw [← (hlinked.ancestors_eq_cons.mp hchain).2, ← hchain]
        exact h.mem_left
      rcases List.mem_cons.mp ha with heq | ha
      · exact heq.symm
      · exact absurd (hlinked.lt_of_mem_ancestors ha)
          (Nat.lt_asymm (hlinked.lt_of_mem_ancestors hmem))

/-- The nearest ancestor is the meeting point exactly if there is nothing below it. -/
theorem below_eq_nil_iff (h : tree.Meeting x y a below below') (hlinked : tree.IsLinked) {i : Nat}
    (hi : (tree.ancestors x).head? = some i) : below = [] ↔ i = a := by
  have hchain := h.left
  cases below with
  | nil =>
      rw [hchain] at hi
      exact ⟨fun _ => (Option.some.inj hi).symm, fun _ => rfl⟩
  | cons b below =>
      rw [hchain] at hi
      obtain rfl : b = i := Option.some.inj hi
      refine ⟨fun hnil => absurd hnil (List.cons_ne_nil b below), ?_⟩
      rintro rfl
      exact absurd (hlinked.mem_ancestors_of_append hchain List.mem_cons_self)
        (hlinked.not_mem_ancestors_self b)

/-- Both nodes have something below the meeting point exactly if neither of their nearest
ancestors is the other one or an ancestor of it. -/
theorem below_ne_nil_iff (h : tree.Meeting x y a below below') (hlinked : tree.IsLinked)
    {i j : Nat} (hi : (tree.ancestors x).head? = some i) (hj : (tree.ancestors y).head? = some j) :
    below ≠ [] ∧ below' ≠ [] ↔ i ≠ j ∧ i ∉ tree.ancestors j ∧ j ∉ tree.ancestors i := by
  have hmem : ∀ {x i : Nat}, (tree.ancestors x).head? = some i →
      ∀ c, c ∈ tree.ancestors x ↔ c = i ∨ c ∈ tree.ancestors i := by
    intro x i hi c
    obtain ⟨above, hchain⟩ := List.head?_eq_some_iff.mp hi
    rw [hchain, (hlinked.ancestors_eq_cons.mp hchain).2, List.mem_cons]
  rw [ne_eq, ne_eq, h.below_eq_nil_iff hlinked hi, h.symm.below_eq_nil_iff hlinked hj,
    h.head_eq_iff hlinked hi, h.symm.head_eq_iff hlinked hj, hmem hi, hmem hj, not_or, not_or]
  constructor
  · rintro ⟨⟨hne, hi⟩, -, hj⟩
    exact ⟨hne, hi, hj⟩
  · rintro ⟨hne, hi, hj⟩
    exact ⟨⟨hne, hi⟩, hne.symm, hj⟩

end Meeting

/-! ### Root paths -/

/-- The nodes strictly below a given node among the ancestors that a root path keeps,
the nearest first. -/
def keptBelow (tree : SyntaxTree) (style : TreeStyle) (i a : Nat) : List Nat :=
  (tree.keptAncestors style i).filter fun c => a ∈ tree.ancestors c

/-- **A merge finds the lowest common ancestor** `a` of what the root paths of `u` and `v`
keep. -/
structure MergesAt (tree : SyntaxTree) (style : TreeStyle) (u v a : Nat) (merge : Merge) :
    Prop where
  /-- The node is kept by the first root path. -/
  mem_left : a ∈ tree.keptAncestors style u
  /-- The node is kept by the second root path. -/
  mem_right : a ∈ tree.keptAncestors style v
  /-- No common node lies deeper. -/
  lowest {c : Nat} : c ∈ tree.keptAncestors style u → c ∈ tree.keptAncestors style v →
    c = a ∨ c ∈ tree.ancestors a
  /-- The meeting point carries the label of the node. -/
  summit_eq : merge.summit = tree.labelAt style a
  /-- One leg is what the first root path keeps below the node, from the inside. -/
  upward_eq : merge.upward = (tree.keptBelow style u a).map (tree.labelAt style)
  /-- The other leg is what the second one keeps below it, from the outside. -/
  downward_eq : merge.downward = ((tree.keptBelow style v a).map (tree.labelAt style)).reverse
  /-- The middle is read off a walk over the node, from the nearest ancestor that the
  first root path keeps to that of the second. -/
  exists_walk : ∃ walk, tree.IsWalkOver a walk ∧
    walk.head? = (tree.keptAncestors style u).head? ∧
    walk.getLast? = (tree.keptAncestors style v).head? ∧
    merge.middle .labels = walk.map (tree.labelAt style)
  /-- Both legs have labels exactly if neither of the two nearest ancestors is the other
  one or an ancestor of it. -/
  legs_iff {i j : Nat} : (tree.keptAncestors style u).head? = some i →
    (tree.keptAncestors style v).head? = some j →
    (merge.upward ≠ [] ∧ merge.downward ≠ [] ↔
      i ≠ j ∧ i ∉ tree.ancestors j ∧ j ∉ tree.ancestors i)

/-- **Merging two root paths finds the lowest common ancestor** of what they keep. -/
theorem mergesAt_of_build {normalizer : Normalizer} {raw : ParseTree}
    {lines : List String} {tree : SyntaxTree} (h : build normalizer raw lines = .ok tree)
    (hapart : tree.SiblingsApart) (style : TreeStyle) {u v : Nat}
    (hu : (tree.rootPath style u).ancestors ≠ []) (hv : (tree.rootPath style v).ancestors ≠ []) :
    ∃ merge a,
      merge? (tree.rootPath style u).ancestors (tree.rootPath style v).ancestors = some merge ∧
        tree.MergesAt style u v a merge := by
  have hlinked := isLinked_of_build h
  obtain ⟨x, hx⟩ := hlinked.exists_keptAncestors_eq style u
  obtain ⟨y, hy⟩ := hlinked.exists_keptAncestors_eq style v
  rw [ancestors_rootPath, hx] at hu ⊢
  rw [ancestors_rootPath, hy] at hv ⊢
  obtain ⟨a, below, below', hmeet⟩ := hlinked.exists_meeting (x := x) (y := y)
    (by simpa using hu) (by simpa using hv)
  refine ⟨_, a, hmeet.merge?_map hlinked hapart style, ?_⟩
  exact
    { mem_left := hx ▸ hmeet.mem_left
      mem_right := hy ▸ hmeet.symm.mem_left
      lowest := by
        intro c hcx hcy
        rw [hx] at hcx
        rw [hy] at hcy
        exact hmeet.lowest hcx hcy
      summit_eq := rfl
      upward_eq := by rw [keptBelow, hx, hlinked.filter_ancestors hmeet.left]
      downward_eq := by rw [keptBelow, hy, hlinked.filter_ancestors hmeet.right]
      exists_walk := by
        refine ⟨_, hmeet.isWalkOver hlinked, ?_, ?_, ?_⟩
        · rw [hx, hmeet.left, List.head?_append, List.head?_append]
          rfl
        · rw [hy, hmeet.right, List.append_cons, List.getLast?_append, List.getLast?_reverse,
            List.getLast?_concat, List.head?_append]
          rfl
        · simp [Merge.middle]
      legs_iff := by
        intro i j hi hj
        rw [hx] at hi
        rw [hy] at hj
        rw [← hmeet.below_ne_nil_iff hlinked hi hj]
        simp }

theorem mergesAt_twoWords :
    build .verbatim .twoWords ["a b"] = .ok .twoWords ∧ twoWords.SiblingsApart ∧
      (twoWords.rootPath .ast 3).ancestors ≠ [] ∧ (twoWords.rootPath .ast 4).ancestors ≠ [] ∧
      ∃ merge a,
        merge? (twoWords.rootPath .ast 3).ancestors (twoWords.rootPath .ast 4).ancestors =
          some merge ∧ twoWords.MergesAt .ast 3 4 a merge :=
  have hapart : twoWords.SiblingsApart := by decide +kernel
  have hu : (twoWords.rootPath .ast 3).ancestors ≠ [] := by decide +kernel
  have hv : (twoWords.rootPath .ast 4).ancestors ≠ [] := by decide +kernel
  ⟨build_twoWords, hapart, hu, hv, mergesAt_of_build build_twoWords hapart .ast hu hv⟩

end SyntaxTree

end SyntaxPaths
