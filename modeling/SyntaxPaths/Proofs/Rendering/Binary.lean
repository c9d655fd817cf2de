import SyntaxPaths.Proofs.Rendering.Tokens
import SyntaxPaths.Proofs.SyntaxTree.BinaryDepth
import SyntaxPaths.Proofs.SyntaxTree.Postorder
import SyntaxPaths.Rendering.Binary

/-!
# The rendering of the binary view is a post-order

Between its brackets a node is written behind what its link to the left child leads to and
before what its link to the right sibling leads to.  In terms of the multi-way view that
is: behind its descendants and before the siblings to its right, so that **the values
stand in post-order** (`rendersInPostorder_of_build`).

* **What is written** does not depend on the limit (`writeBinary`); the limit only decides
  whether anything is written at all.
* **Whether it is written** depends on all routes of the binary view (`Fits`): a single
  node that lies too deep makes the whole rendering fail, wherever it stands
  (`IsLinked.renderBinaryFrom_of_not_fits`).
* **Runs of siblings.**  From a child on, the rendering covers this child and all siblings
  to its right, so its tokens are those of the rest of the children
  (`IsLinked.tokens_writeBinary_child`).
-/

namespace SyntaxPaths.SyntaxTree

/-! ### What is written -/

/-- The rendering of what is reached from a node along the links of the binary view,
without a limit. -/
def writeBinary (tree : SyntaxTree) (i : Nat) : String :=
  let node := tree.node i
  let left :=
    match node.leftChild with
    | some c => if _h : i < c ∧ c < tree.size then tree.writeBinary c else ""
    | none => ""
  let right :=
    match node.rightSibling with
    | some s => if _h : i < s ∧ s < tree.size then tree.writeBinary s else ""
    | none => ""
  "(" ++ left ++ "(" ++ node.value ++ ")" ++ right ++ ")"
termination_by tree.size - i

/-- The tokens of the values of the nodes in a subtree, in post-order. -/
def postorderTokens (tree : SyntaxTree) (i : Nat) : List String :=
  (tree.postorder i).flatMap fun j => Rendering.tokens (tree.node j).value

/-- No node that is reached from the given one, at the given depth, lies deeper than the
limit. -/
def Fits (tree : SyntaxTree) (limit depth i : Nat) : Prop :=
  ∀ (route : List BinaryLink) (j : Nat),
    route.foldlM tree.target? i = some j → depth + route.length ≤ limit

/-- A node fits if it does not lie too deep itself and both its links lead to nodes that
fit. -/
theorem fits_iff {tree : SyntaxTree} {limit depth i : Nat} :
    tree.Fits limit depth i ↔
      depth ≤ limit ∧ ∀ link c, tree.target? i link = some c → tree.Fits limit (depth + 1) c := by
  constructor
  · intro hfits
    refine ⟨hfits [] i rfl, fun link c hlink route j hroute => ?_⟩
    have hlonger : (link :: route).foldlM tree.target? i = some j := by
      rw [List.foldlM_cons, hlink]
      exact hroute
    have hle := hfits (link :: route) j hlonger
    rw [List.length_cons] at hle
    omega
  · rintro ⟨hdepth, hlinks⟩ route j hroute
    cases route with
    | nil => exact hdepth
    | cons link route =>
        rw [List.foldlM_cons] at hroute
        obtain ⟨c, hlink, hrest⟩ := Option.bind_eq_some_iff.mp hroute
        have hle := hlinks link c hlink route j hrest
        rw [List.length_cons]
        omega

namespace IsLinked

variable {tree : SyntaxTree}

/-- What holds of a node if it holds of all nodes to which its links lead, holds of every
node. -/
theorem target_induction (h : tree.IsLinked) {motive : Nat → Prop}
    (step : ∀ i, (∀ link c, tree.target? i link = some c → motive c) → motive i) (i : Nat) :
    motive i := by
  induction hheight : tree.size - i using Nat.strongRecOn generalizing i with
  | ind height ih =>
      refine step i fun link c hlink => ih (tree.size - c) ?_ c rfl
      have hlt := (h.target_spec hlink).1
      omega

/-- Links to left children lead upwards in the table. -/
theorem lt_leftChild (h : tree.IsLinked) {i c : Nat} (hlink : (tree.node i).leftChild = some c) :
    i < c ∧ c < tree.size :=
  (h.target_spec (show tree.target? i .left = some c from hlink)).1

/-- Links to right siblings lead upwards in the table. -/
theorem lt_rightSibling (h : tree.IsLinked) {i s : Nat}
    (hlink : (tree.node i).rightSibling = some s) : i < s ∧ s < tree.size :=
  (h.target_spec (show tree.target? i .right = some s from hlink)).1

theorem writeBinary_eq (h : tree.IsLinked) (i : Nat) :
    tree.writeBinary i =
      "(" ++ (tree.node i).leftChild.elim "" tree.writeBinary ++ "(" ++ (tree.node i).value ++
        ")" ++ (tree.node i).rightSibling.elim "" tree.writeBinary ++ ")" := by
  rw [writeBinary]
  congr 3
  · congr 4
    cases hlink : (tree.node i).leftChild with
    | none => rfl
    | some c => exact dif_pos (h.lt_leftChild hlink)
  · cases hlink : (tree.node i).rightSibling with
    | none => rfl
    | some s => exact dif_pos (h.lt_rightSibling hlink)

/-- What a link leads to is rendered one deeper. -/
theorem renderBinaryFrom_eq (h : tree.IsLinked) (limit depth i : Nat) :
    tree.renderBinaryFrom limit depth i =
      if limit < depth then .error (.depthExceeded limit)
      else
        ((tree.node i).leftChild.elim (.ok "") (tree.renderBinaryFrom limit (depth + 1))).bind
          fun left =>
            ((tree.node i).rightSibling.elim (.ok "")
              (tree.renderBinaryFrom limit (depth + 1))).map fun right =>
                "(" ++ left ++ "(" ++ (tree.node i).value ++ ")" ++ right ++ ")" := by
  rw [renderBinaryFrom]
  refine if_congr Iff.rfl rfl ?_
  refine congrArg₂ Except.bind ?_ (funext fun left => congrArg (Except.map _) ?_)
  · cases hlink : (tree.node i).leftChild with
    | none => rfl
    | some c => exact dif_pos (h.lt_leftChild hlink)
  · cases hlink : (tree.node i).rightSibling with
    | none => rfl
    | some s => exact dif_pos (h.lt_rightSibling hlink)

/-! ### Whether it is written -/

/-- What a link leads to is written, if all of it fits. -/
theorem elim_renderBinaryFrom {limit depth : Nat} (link : Option Nat)
    (hlink : ∀ c, link = some c → tree.renderBinaryFrom limit depth c = .ok (tree.writeBinary c)) :
    link.elim (.ok "") (tree.renderBinaryFrom limit depth) =
      .ok (link.elim "" tree.writeBinary) := by
  cases link with
  | none => rfl
  | some c => exact hlink c rfl

/-- **If all that is reached from a node fits, it is written.** -/
theorem renderBinaryFrom_of_fits (h : tree.IsLinked) {limit depth i : Nat}
    (hfits : tree.Fits limit depth i) :
    tree.renderBinaryFrom limit depth i = .ok (tree.writeBinary i) := by
  induction i using h.target_induction generalizing depth with
  | step i ih =>
      obtain ⟨hdepth, hlinks⟩ := fits_iff.mp hfits
      have hleft := elim_renderBinaryFrom (tree.node i).leftChild fun c hc =>
        ih .left c hc (hlinks .left c hc)
      have hright := elim_renderBinaryFrom (tree.node i).rightSibling fun c hc =>
        ih .right c hc (hlinks .right c hc)
      rw [h.renderBinaryFrom_eq, if_neg (Nat.not_lt.mpr hdepth), hleft, hright, h.writeBinary_eq]
      rfl

/-- **If anything that is reached from a node does not fit, nothing is written.** -/
theorem renderBinaryFrom_of_not_fits (h : tree.IsLinked) {limit depth i : Nat}
    (hfits : ¬ tree.Fits limit depth i) :
    tree.renderBinaryFrom limit depth i = .error (.depthExceeded limit) := by
  induction i using h.target_induction generalizing depth with
  | step i ih =>
      rw [h.renderBinaryFrom_eq]
      split
      · rfl
      · next hdepth =>
          -- Some link leads to what does not fit.  The left one is looked at first.
          by_cases hleft : ∀ c, (tree.node i).leftChild = some c → tree.Fits limit (depth + 1) c
          · rw [elim_renderBinaryFrom _ fun c hc => h.renderBinaryFrom_of_fits (hleft c hc)]
            have hright : ∃ s, (tree.node i).rightSibling = some s ∧
                ¬ tree.Fits limit (depth + 1) s := by
              by_contra hnone
              refine hfits (fits_iff.mpr ⟨Nat.not_lt.mp hdepth, fun link c hlink => ?_⟩)
              cases link with
              | left => exact hleft c hlink
              | right => exact by_contra fun hc => hnone ⟨c, hlink, hc⟩
            obtain ⟨s, hs, hdeep⟩ := hright
            rw [hs, Option.elim_some, ih .right s hs hdeep]
            rfl
          · obtain ⟨c, hc, hdeep⟩ : ∃ c, (tree.node i).leftChild = some c ∧
                ¬ tree.Fits limit (depth + 1) c := by
              simpa using hleft
            rw [hc, Option.elim_some, ih .left c hc hdeep]
            rfl

/-- Nothing lies deeper than the limit exactly if no node does. -/
theorem fits_root_iff (h : tree.IsLinked) {limit : Nat} :
    tree.Fits limit 1 root ↔ ∀ i < tree.size, tree.binaryDepth i ≤ limit := by
  constructor
  · intro hfits i hi
    obtain ⟨route, hroute, -⟩ := h.existsUnique_binary_descent hi
    rw [h.binaryDepth_of_route hroute, h.binaryDepth_root]
    exact hfits route i hroute
  · intro hdepth route j hroute
    have hle := hdepth j (h.lt_size_of_route h.size_pos hroute)
    rwa [h.binaryDepth_of_route hroute, h.binaryDepth_root] at hle

/-! ### In which order -/

/-- The tokens of a subtree are those of the subtrees below its root, and then those of its
root. -/
theorem postorderTokens_eq (h : tree.IsLinked) (i : Nat) :
    tree.postorderTokens i =
      (tree.node i).children.flatMap tree.postorderTokens ++
        Rendering.tokens (tree.node i).value := by
  rw [postorderTokens, h.postorder_eq, List.flatMap_append, List.flatMap_assoc,
    List.flatMap_singleton]
  rfl

/-- The siblings from number `k` on, if there are any, have the tokens of their subtrees,
provided that they have if there are any. -/
theorem tokens_elim_writeBinary (p k : Nat)
    (hrun : ∀ i, (tree.node p).children[k]? = some i →
      Rendering.tokens (tree.writeBinary i) =
        ((tree.node p).children.drop k).flatMap tree.postorderTokens) :
    Rendering.tokens ((tree.node p).children[k]?.elim "" tree.writeBinary) =
      ((tree.node p).children.drop k).flatMap tree.postorderTokens := by
  cases hchild : (tree.node p).children[k]? with
  | none =>
      rw [List.drop_eq_nil_of_le (List.getElem?_eq_none_iff.mp hchild)]
      rfl
  | some i => exact hrun i hchild

/-- **From a child on** the rendering has the tokens of this child and of all siblings to
its right. -/
theorem tokens_writeBinary_child (h : tree.IsLinked) {p k i : Nat}
    (hchild : (tree.node p).children[k]? = some i) :
    Rendering.tokens (tree.writeBinary i) =
      ((tree.node p).children.drop k).flatMap tree.postorderTokens := by
  induction i using h.target_induction generalizing p k with
  | step i ih =>
      have hfirst : (tree.node i).leftChild = (tree.node i).children[0]? := by
        rw [h.leftChild_eq, List.head?_eq_getElem?]
      have hnext := h.rightSibling_child hchild
      have hbelow := tokens_elim_writeBinary i 0 fun c hc => ih .left c (hfirst.trans hc) hc
      have hbehind := tokens_elim_writeBinary p (k + 1) fun s hs =>
        ih .right s (hnext.trans hs) hs
      rw [List.drop_zero] at hbelow
      obtain ⟨hk, rfl⟩ := List.getElem?_eq_some_iff.mp hchild
      rw [h.writeBinary_eq, Rendering.tokens_bracketed, hfirst, hnext, hbelow, hbehind,
        List.drop_eq_getElem_cons hk, List.flatMap_cons, h.postorderTokens_eq]

/-- **The whole rendering** has the tokens of all values in post-order. -/
theorem tokens_writeBinary_root (h : tree.IsLinked) :
    Rendering.tokens (tree.writeBinary root) = tree.postorderTokens root := by
  have hfirst : (tree.node root).leftChild = (tree.node root).children[0]? := by
    rw [h.leftChild_eq, List.head?_eq_getElem?]
  have hnext : (tree.node root).rightSibling = none := congrArg Place.rightSibling h.place_root
  have hbelow := tokens_elim_writeBinary root 0 fun c hc => h.tokens_writeBinary_child hc
  rw [List.drop_zero] at hbelow
  rw [h.writeBinary_eq, Rendering.tokens_bracketed, hfirst, hnext, hbelow, h.postorderTokens_eq]
  exact List.append_nil _

end IsLinked

/-- **The rendering of the binary view in terms of the multi-way view.** -/
structure RendersInPostorder (tree : SyntaxTree) : Prop where
  /-- The post-order lists every node once. -/
  postorder_perm : (tree.postorder root).Perm (List.range tree.size)
  /-- There is a rendering exactly if no node lies deeper than the limit. -/
  exists_ok_iff (limit : Nat) :
    (∃ rendered, tree.renderBinary limit = .ok rendered) ↔
      ∀ i < tree.size, tree.binaryDepth i ≤ limit
  /-- The rendering does not depend on the limit. -/
  ok_unique {limit limit' : Nat} {rendered rendered' : String} :
    tree.renderBinary limit = .ok rendered → tree.renderBinary limit' = .ok rendered' →
      rendered = rendered'
  /-- The only failure is that of the limit. -/
  error_eq {limit : Nat} {cause : RenderError} :
    tree.renderBinary limit = .error cause → cause = .depthExceeded limit
  /-- The tokens of the rendering are what the values are split into at brackets and separators,
  one value after the other in post-order. -/
  binaryTokens_of_ok {limit : Nat} {rendered : String} :
    tree.renderBinary limit = .ok rendered →
      ∃ parts, List.Forall₂ (fun i part => Rendering.SplitsInto (tree.node i).value part)
          (tree.postorder root) parts ∧
        tree.binaryTokens limit = parts.flatten
  /-- Without a rendering the tokens are those of the structure-based one. -/
  binaryTokens_of_error {limit : Nat} {cause : RenderError} :
    tree.renderBinary limit = .error cause → tree.binaryTokens limit = tree.nestedTokens

/-- What is written under a limit is what is written without one. -/
theorem IsLinked.renderBinary_eq_ok {tree : SyntaxTree} (h : tree.IsLinked) {limit : Nat}
    {rendered : String} (hok : tree.renderBinary limit = .ok rendered) :
    rendered = tree.writeBinary root ∧ tree.Fits limit 1 root := by
  by_cases hfits : tree.Fits limit 1 root
  · rw [renderBinary, h.renderBinaryFrom_of_fits hfits, Except.ok.injEq] at hok
    exact ⟨hok.symm, hfits⟩
  · rw [renderBinary, h.renderBinaryFrom_of_not_fits hfits] at hok
    cases hok

/-- **Every built tree** is rendered in post-order, or not at all. -/
theorem rendersInPostorder_of_build {normalizer : Normalizer} {raw : ParseTree}
    {lines : List String} {tree : SyntaxTree} (h : build normalizer raw lines = .ok tree) :
    tree.RendersInPostorder :=
  have hlinked := isLinked_of_build h
  { postorder_perm := hlinked.postorder_perm
    exists_ok_iff := by
      intro limit
      rw [← hlinked.fits_root_iff]
      constructor
      · rintro ⟨rendered, hok⟩
        exact (hlinked.renderBinary_eq_ok hok).2
      · intro hfits
        exact ⟨_, hlinked.renderBinaryFrom_of_fits hfits⟩
    ok_unique := by
      intro limit limit' rendered rendered' hok hok'
      rw [(hlinked.renderBinary_eq_ok hok).1, (hlinked.renderBinary_eq_ok hok').1]
    error_eq := by
      intro limit cause herror
      by_cases hfits : tree.Fits limit 1 root
      · rw [renderBinary, hlinked.renderBinaryFrom_of_fits hfits] at herror
        cases herror
      · rw [renderBinary, hlinked.renderBinaryFrom_of_not_fits hfits, Except.error.injEq] at herror
        exact herror.symm
    binaryTokens_of_ok := by
      intro limit rendered hok
      refine ⟨(tree.postorder root).map fun i => Rendering.tokens (tree.node i).value, ?_, ?_⟩
      · rw [List.forall₂_map_right_iff, List.forall₂_same]
        intro i _
        exact Rendering.splitsInto_tokens _
      · rw [binaryTokens, hok, (hlinked.renderBinary_eq_ok hok).1]
        exact hlinked.tokens_writeBinary_root
    binaryTokens_of_error := by
      intro limit cause herror
      rw [binaryTokens, herror] }

theorem rendersInPostorder_twoWords :
    build .verbatim .twoWords ["a b"] = .ok .twoWords ∧
      twoWords.renderBinary 4 = .ok "((((a))(a)(((b))(b)))(a b))" ∧
      twoWords.binaryTokens 4 = ["a", "a", "b", "b", "a b"] ∧ twoWords.RendersInPostorder :=
  ⟨build_twoWords, by decide +kernel, by decide +kernel, rendersInPostorder_of_build build_twoWords⟩

end SyntaxPaths.SyntaxTree
