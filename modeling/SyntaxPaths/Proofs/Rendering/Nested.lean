import Mathlib.Algebra.BigOperators.Group.List.Basic
import SyntaxPaths.Proofs.Rendering.Tokens
import SyntaxPaths.Proofs.SyntaxTree.Terminals
import SyntaxPaths.Rendering.Nested

/-!
# The structure-based rendering as a tour

In the structure-based rendering each value is written twice, before and behind the rendering of
the children, and nothing divides the renderings of two siblings.  So its tokens are met on a
tour through the tree (`innerTokens`): on the way down to the first child its value, on the way
from one child to the next **the values of both as one text**, and on the way up from the last
child its value again (`followsTour_of_build`).

**How many tokens there are** is known if every value is a single token: one for each way down
to a first child, from a child to the next, or up from a last child.  That is one more than
there are children, for each node that has any (`IsLinked.length_innerTokens`), and the two
tokens of the root come on top.
-/

namespace SyntaxPaths

namespace SyntaxTree

open Rendering

/-! ### The tour -/

/-- The tokens that are met from the end of a child on, past the siblings to its right and up to
the end of the last one, where `inner` gives the tokens inside each of them. -/
def tokensBehind (tree : SyntaxTree) (inner : Nat → List String) : Nat → List Nat → List String
  | c, [] => tokens (tree.node c).value
  | c, d :: siblings =>
    tokens ((tree.node c).value ++ (tree.node d).value) ++ inner d ++
      tree.tokensBehind inner d siblings

/-- The tokens that are met on a tour through the subtree below a node. -/
def innerTokens (tree : SyntaxTree) (i : Nat) : List String :=
  let inner (c : Nat) : List String :=
    if _h : i < c ∧ c < tree.size then tree.innerTokens c else []
  match (tree.node i).children with
  | [] => []
  | c :: siblings => tokens (tree.node c).value ++ inner c ++ tree.tokensBehind inner c siblings
termination_by tree.size - i

/-- What is written for the given nodes, one after the other. -/
def nested (tree : SyntaxTree) (nodes : List Nat) : String :=
  String.join (nodes.map tree.renderNested)

variable {tree : SyntaxTree}

@[simp] theorem nested_nil : tree.nested [] = "" := rfl

theorem nested_cons (i : Nat) (nodes : List Nat) :
    tree.nested (i :: nodes) = tree.renderNested i ++ tree.nested nodes := by
  rw [nested, List.map_cons, String.join_cons, nested]

theorem tokensBehind_congr {inner inner' : Nat → List String} {siblings : List Nat}
    (h : ∀ d ∈ siblings, inner d = inner' d) (c : Nat) :
    tree.tokensBehind inner c siblings = tree.tokensBehind inner' c siblings := by
  induction siblings generalizing c with
  | nil => rfl
  | cons d siblings ih =>
      obtain ⟨hd, h⟩ := List.forall_mem_cons.mp h
      rw [tokensBehind, tokensBehind, hd, ih h]

theorem innerTokens_of_leaf {i : Nat} (hchildren : (tree.node i).children = []) :
    tree.innerTokens i = [] := by
  rw [innerTokens, hchildren]

namespace IsLinked

theorem renderNested_eq_nested (h : tree.IsLinked) (i : Nat) :
    tree.renderNested i =
      (tree.node i).value ++ "(" ++ tree.nested (tree.node i).children ++ ")" ++
        (tree.node i).value := by
  have hchildren : ∀ c ∈ (tree.node i).children,
      (if i < c ∧ c < tree.size then tree.renderNested c else "") = tree.renderNested c :=
    fun c hc => if_pos (h.lt_of_parent (h.mem_children.mp hc))
  rw [renderNested_eq, nested, List.map_congr_left hchildren]

/-- **The tour below a node** goes down to its first child, through the subtrees of the children,
and up again from the last one. -/
theorem innerTokens_of_children (h : tree.IsLinked) {i c : Nat} {siblings : List Nat}
    (hchildren : (tree.node i).children = c :: siblings) :
    tree.innerTokens i =
      tokens (tree.node c).value ++ tree.innerTokens c ++
        tree.tokensBehind tree.innerTokens c siblings := by
  have hinner : ∀ d ∈ c :: siblings,
      (if _h : i < d ∧ d < tree.size then tree.innerTokens d else []) = tree.innerTokens d := by
    intro d hd
    exact dif_pos (h.lt_of_parent (h.mem_children.mp (hchildren ▸ hd)))
  obtain ⟨hfirst, hrest⟩ := List.forall_mem_cons.mp hinner
  rw [innerTokens, hchildren]
  simp only [hfirst, tokensBehind_congr hrest]

/-- **Between siblings** the value of one and the value of the next are one text. -/
theorem tokens_append_nested (h : tree.IsLinked) {siblings : List Nat}
    (hinner : ∀ d ∈ siblings, tokens (tree.nested (tree.node d).children) = tree.innerTokens d)
    (c : Nat) :
    tokens ((tree.node c).value ++ tree.nested siblings) =
      tree.tokensBehind tree.innerTokens c siblings := by
  induction siblings generalizing c with
  | nil => rw [nested_nil, String.append_empty, tokensBehind]
  | cons d siblings ih =>
      obtain ⟨hd, hinner⟩ := List.forall_mem_cons.mp hinner
      have hglued : (tree.node c).value ++ tree.nested (d :: siblings) =
          (tree.node c).value ++ (tree.node d).value ++ "(" ++
            tree.nested (tree.node d).children ++ ")" ++
              ((tree.node d).value ++ tree.nested siblings) := by
        rw [nested_cons, h.renderNested_eq_nested d]
        simp only [String.append_assoc]
      rw [hglued, tokens_nested, hd, ih hinner, tokensBehind]

/-- **What stands between the brackets of a node** has the tokens of the tour below it. -/
theorem tokens_nested_children (h : tree.IsLinked) (i : Nat) :
    tokens (tree.nested (tree.node i).children) = tree.innerTokens i := by
  induction i using h.child_induction with
  | step i ih =>
      cases hchildren : (tree.node i).children with
      | nil =>
          rw [innerTokens_of_leaf hchildren]
          rfl
      | cons c siblings =>
          rw [hchildren] at ih
          obtain ⟨hc, hsiblings⟩ := List.forall_mem_cons.mp ih
          have hbracketed : tree.nested (c :: siblings) =
              (tree.node c).value ++ "(" ++ tree.nested (tree.node c).children ++ ")" ++
                ((tree.node c).value ++ tree.nested siblings) := by
            rw [nested_cons, h.renderNested_eq_nested c]
            simp only [String.append_assoc]
          rw [hbracketed, tokens_nested, hc, h.tokens_append_nested hsiblings,
            h.innerTokens_of_children hchildren]

end IsLinked

/-! ### How many tokens there are -/

/-- The number of ways on a tour past so many siblings: one down to the first, one from each to
the next, and one up from the last. -/
def waysPast (count : Nat) : Nat :=
  if count = 0 then 0 else count + 1

theorem sum_map_waysPast (counts : List Nat) :
    (counts.map waysPast).sum = counts.sum + counts.countP (· ≠ 0) := by
  induction counts with
  | nil => rfl
  | cons count counts ih =>
      rw [List.map_cons, List.sum_cons, ih, List.sum_cons, List.countP_cons, waysPast]
      by_cases hzero : count = 0
      · simp [hzero]
      · simp only [hzero, if_false, ne_eq, not_false_eq_true, decide_true, if_true]
        omega

section Count

variable (hvalues : ∀ i < tree.size, IsToken (tree.node i).value)
include hvalues

theorem length_tokensBehind {siblings : List Nat} {c : Nat}
    (hsiblings : ∀ d ∈ c :: siblings, d < tree.size) :
    (tree.tokensBehind tree.innerTokens c siblings).length =
      siblings.length + 1 + (siblings.map fun d => (tree.innerTokens d).length).sum := by
  induction siblings generalizing c with
  | nil =>
      rw [tokensBehind, (hvalues c (hsiblings c List.mem_cons_self)).tokens_eq]
      rfl
  | cons d siblings ih =>
      obtain ⟨hc, hsiblings⟩ := List.forall_mem_cons.mp hsiblings
      have hglued := ((hvalues c hc).append (hvalues d (hsiblings d List.mem_cons_self))).tokens_eq
      rw [tokensBehind, hglued, List.length_append, List.length_append, ih hsiblings,
        List.length_singleton, List.length_cons, List.map_cons, List.sum_cons]
      omega

/-- **Each way of the tour** below a node has one token. -/
theorem IsLinked.length_innerTokens (h : tree.IsLinked) (i : Nat) :
    (tree.innerTokens i).length =
      ((tree.postorder i).map fun j => waysPast (tree.node j).children.length).sum := by
  induction i using h.child_induction with
  | step i ih =>
      have hbelow : (((tree.node i).children.flatMap tree.postorder).map
            fun j => waysPast (tree.node j).children.length).sum =
          ((tree.node i).children.map fun c => (tree.innerTokens c).length).sum := by
        rw [List.map_flatMap, List.flatMap_def, List.sum_flatten, List.map_map]
        exact congrArg List.sum (List.map_congr_left fun c hc => (ih c hc).symm)
      rw [h.postorder_eq, List.map_append, List.sum_append, hbelow, List.map_singleton,
        List.sum_singleton]
      cases hchildren : (tree.node i).children with
      | nil =>
          rw [innerTokens_of_leaf hchildren]
          rfl
      | cons c siblings =>
          have hsize : ∀ d ∈ c :: siblings, d < tree.size := fun d hd =>
            (h.lt_of_parent (h.mem_children.mp (hchildren ▸ hd))).2
          rw [h.innerTokens_of_children hchildren, List.length_append, List.length_append,
            length_tokensBehind hvalues hsize, (hvalues c (hsize c List.mem_cons_self)).tokens_eq,
            List.length_singleton, List.map_cons, List.sum_cons, List.length_cons, waysPast,
            if_neg (Nat.succ_ne_zero _)]
          omega

/-- The whole tour has a token for each child, and one more for each node with children. -/
theorem HasLayout.length_innerTokens_root {counts : List Nat} (h : tree.HasLayout counts) :
    (tree.innerTokens root).length = counts.sum + tree.eldestCount := by
  have hcounts : (List.range tree.size).map (fun j => waysPast (tree.node j).children.length) =
      counts.map waysPast := by
    conv_rhs => rw [h.counts_eq, List.map_map]
    rfl
  rw [h.isLinked.length_innerTokens hvalues, (h.isLinked.postorder_perm.map _).sum_eq, hcounts,
    sum_map_waysPast, h.eldestCount_eq]

end Count

/-- **The structure-based rendering is a tour through the tree.** -/
structure FollowsTour (tree : SyntaxTree) : Prop where
  /-- The tokens of a text are what it is split into at brackets and separators. -/
  splitsInto_tokens (text : String) : SplitsInto text (tokens text)
  /-- The tour begins and ends with the value of the root. -/
  nestedTokens_eq : tree.nestedTokens =
    tokens (tree.node root).value ++ tree.innerTokens root ++ tokens (tree.node root).value
  /-- Below a leaf there is nothing. -/
  innerTokens_leaf {i : Nat} : (tree.node i).children = [] → tree.innerTokens i = []
  /-- Below any other node come its first child, and what is behind that. -/
  innerTokens_node {i c : Nat} {siblings : List Nat} : (tree.node i).children = c :: siblings →
    tree.innerTokens i =
      tokens (tree.node c).value ++ tree.innerTokens c ++
        tree.tokensBehind tree.innerTokens c siblings
  /-- Behind the last child comes its value. -/
  tokensBehind_last (c : Nat) :
    tree.tokensBehind tree.innerTokens c [] = tokens (tree.node c).value
  /-- Behind any other child come its value and that of the next child as one text, then the next
  child, and what is behind that. -/
  tokensBehind_next (c d : Nat) (siblings : List Nat) :
    tree.tokensBehind tree.innerTokens c (d :: siblings) =
      tokens ((tree.node c).value ++ (tree.node d).value) ++ tree.innerTokens d ++
        tree.tokensBehind tree.innerTokens d siblings
  /-- If all values are single tokens, the tour has one token per node and one more per node with
  children, and a last one. -/
  length_nestedTokens : (∀ i < tree.size, IsToken (tree.node i).value) →
    tree.nestedTokens.length = tree.size + tree.eldestCount + 1

/-- The tokens of the whole rendering. -/
theorem IsLinked.nestedTokens_eq (h : tree.IsLinked) :
    tree.nestedTokens =
      tokens (tree.node root).value ++ tree.innerTokens root ++ tokens (tree.node root).value := by
  rw [nestedTokens, h.renderNested_eq_nested, tokens_nested, h.tokens_nested_children]

/-- **Every built tree** is rendered on a tour. -/
theorem followsTour_of_build {normalizer : Normalizer} {raw : ParseTree} {lines : List String}
    (h : build normalizer raw lines = .ok tree) : tree.FollowsTour :=
  have hlinked := isLinked_of_build h
  have hlayout := hasLayout_of_build h
  { splitsInto_tokens := splitsInto_tokens
    nestedTokens_eq := hlinked.nestedTokens_eq
    innerTokens_leaf := innerTokens_of_leaf
    innerTokens_node := hlinked.innerTokens_of_children
    tokensBehind_last := fun _ => rfl
    tokensBehind_next := fun _ _ _ => rfl
    length_nestedTokens := by
      intro hvalues
      have hroot := (hvalues root hlinked.size_pos).tokens_eq
      have hsize := hlayout.size_eq.trans hlayout.order.length_eq
      rw [hlinked.nestedTokens_eq, hroot, List.length_append, List.length_append,
        hlayout.length_innerTokens_root hvalues, List.length_singleton, hsize]
      omega }

theorem followsTour_twoWords :
    build .verbatim .twoWords ["a b"] = .ok .twoWords ∧
      twoWords.nestedTokens = ["a b", "a", "a", "a", "ab", "b", "b", "b", "a b"] ∧
      twoWords.FollowsTour :=
  ⟨build_twoWords, by decide +kernel, followsTour_of_build build_twoWords⟩

end SyntaxTree

end SyntaxPaths
