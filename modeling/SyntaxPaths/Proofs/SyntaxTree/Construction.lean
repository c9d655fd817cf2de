import SyntaxPaths.Proofs.SyntaxTree.Layout
import SyntaxPaths.SyntaxTree.Build

/-!
# The loop that builds a tree

Building is a loop over a queue that writes links into half-finished entries.  Its
closed form is the layout of what the nodes say (`SyntaxTree.build_eq_layout`).

The invariant is `Construction.Holds`: the visited entries are finished, and the
entries behind them hold the links to parents and siblings that they keep, but no
content and no children.

* **One visit** finishes the first of these entries, and adds those of its children
  (`Construction.Holds.visit`).
* **Within a visit**, one child more makes the parent and the last child look as if
  there had been one child more from the beginning (`SyntaxTree.toList_adopt`).
-/

namespace SyntaxPaths

open ParseTree

/-! ### Entries that wait -/

/-- The entry of a node that waits. -/
def Node.awaiting (place : Place) : Node :=
  .assemble default place []

theorem awaiting_root : Node.awaiting .root = default := rfl

/-- One child more gives the last one a right sibling, and changes nothing else. -/
theorem siblingPlaces_succ (parent first count : Nat) :
    siblingPlaces parent first (count + 2) =
      (List.range count).map (Place.child parent first (count + 1)) ++
        [{ Place.child parent first (count + 1) count with
            rightSibling := some (first + count + 1) },
          Place.child parent first (count + 2) (count + 1)] := by
  have hkept : (List.range count).map (Place.child parent first (count + 2)) =
      (List.range count).map (Place.child parent first (count + 1)) := by
    refine List.map_congr_left fun k hk => ?_
    have hlt := List.mem_range.mp hk
    simp only [Place.child, if_pos (show k + 1 < count + 2 by omega),
      if_pos (show k + 1 < count + 1 by omega)]
  rw [siblingPlaces, List.range_succ, List.range_succ, List.append_assoc, List.map_append, hkept]
  simp [Place.child]

/-- A further child is put behind the others, and the first child stays. -/
theorem Node.assemble_concat (content : NodeContent) (place : Place) {run : List Nat}
    (h : run ≠ []) (child : Nat) :
    Node.assemble content place (run ++ [child]) =
      let node := Node.assemble content place run
      { node with offspring := node.offspring.push child } := by
  cases run with
  | nil => exact absurd rfl h
  | cons first run => simp [assemble]

namespace SyntaxTree

/-! ### One more child -/

theorem modify_append_cons {α : Type} (front back : List α) (item : α) (change : α → α) :
    (front ++ item :: back).modify front.length change = front ++ change item :: back := by
  induction front with
  | nil => rfl
  | cons other front ih => simp [ih]

theorem toList_nodes_grow (tree : SyntaxTree) :
    tree.grow.nodes.toList = tree.nodes.toList ++ [Node.awaiting .root] := by
  rw [grow, Array.toList_push, awaiting_root]

theorem toList_nodes_update {tree : SyntaxTree} {front back : List Node} {node : Node}
    (h : tree.nodes.toList = front ++ node :: back) {i : Nat} (hi : i = front.length)
    (change : Node → Node) :
    (tree.update i change).nodes.toList = front ++ change node :: back := by
  rw [update, Array.toList_modify, h, hi, modify_append_cons]

/-- The same for an entry that stands behind another one. -/
theorem toList_nodes_update_behind {tree : SyntaxTree} {front back rest : List Node}
    {node other : Node} (h : tree.nodes.toList = front ++ node :: (back ++ other :: rest))
    {i : Nat} (hi : i = front.length + 1 + back.length) (change : Node → Node) :
    (tree.update i change).nodes.toList = front ++ node :: (back ++ change other :: rest) := by
  have happend : tree.nodes.toList = (front ++ node :: back) ++ other :: rest := by
    rw [h, List.append_assoc, List.cons_append]
  have hlength : i = (front ++ node :: back).length := by
    rw [hi, List.length_append, List.length_cons]
    omega
  rw [toList_nodes_update happend hlength, List.append_assoc, List.cons_append]

/-- The entries after `count` children of one node got places: the node stands
behind `front`, and the children stand behind `back`. -/
def brood (front : List Node) (content : NodeContent) (place : Place) (back : List Node)
    (count : Nat) : List Node :=
  let first := front.length + 1 + back.length
  front ++ Node.assemble content place (List.range' first count) ::
    (back ++ (siblingPlaces front.length first count).map Node.awaiting)

theorem length_brood (front : List Node) (content : NodeContent) (place : Place)
    (back : List Node) (count : Nat) :
    (brood front content place back count).length =
      front.length + 1 + back.length + count := by
  simp only [brood, List.length_append, List.length_cons, List.length_map, length_siblingPlaces]
  omega

section Adopt

variable {tree : SyntaxTree} {front back : List Node} {content : NodeContent} {place : Place}

theorem size_eq_of_brood {count : Nat}
    (h : tree.nodes.toList = brood front content place back count) :
    tree.size = front.length + 1 + back.length + count := by
  rw [size, ← Array.length_toList, h, length_brood]

/-- The first child is linked to its parent alone. -/
theorem toList_adopt_first (h : tree.nodes.toList = brood front content place back 0) :
    (tree.adopt front.length none).nodes.toList = brood front content place back 1 := by
  have hsize : tree.size = front.length + 1 + back.length := size_eq_of_brood h
  have hgrow : tree.grow.nodes.toList =
      front ++ Node.assemble content place [] :: (back ++ Node.awaiting .root :: []) := by
    rw [toList_nodes_grow, h]
    simp [brood, siblingPlaces]
  have hguardian := toList_nodes_update_behind hgrow hsize fun node =>
    { node with guardian := some front.length, isEldest := true }
  have hleft := toList_nodes_update hguardian rfl fun node =>
    { node with leftChild := some tree.size }
  have hparent := toList_nodes_update_behind hleft hsize fun node =>
    { node with parent := some front.length }
  have hoffspring := toList_nodes_update hparent rfl fun node =>
    { node with offspring := node.offspring.push tree.size }
  refine hoffspring.trans ?_
  rw [hsize]
  simp [brood, siblingPlaces, Place.child, Place.root, Node.awaiting, Node.assemble]

/-- A further child is linked to its left sibling, which is linked to it. -/
theorem toList_adopt_next {first count : Nat} (hfirst : first = front.length + 1 + back.length)
    (h : tree.nodes.toList = brood front content place back (count + 1)) :
    (tree.adopt front.length (some (first + count))).nodes.toList =
      brood front content place back (count + 2) := by
  have hsize : tree.size = first + (count + 1) := by rw [size_eq_of_brood h, hfirst]
  have hrun : List.range' first (count + 1) ≠ [] := by simp
  -- The children so far are the elder ones, which stay as they are, and the last one.
  obtain ⟨elder, helder⟩ : ∃ elder, elder = back ++
      ((List.range count).map (Place.child front.length first (count + 1))).map Node.awaiting :=
    ⟨_, rfl⟩
  obtain ⟨last, hlast⟩ : ∃ last, last = Place.child front.length first (count + 1) count :=
    ⟨_, rfl⟩
  have hlength : elder.length = back.length + count := by simp [helder]
  have hgrow : tree.grow.nodes.toList =
      front ++ Node.assemble content place (List.range' first (count + 1)) ::
        ((elder ++ [Node.awaiting last]) ++ Node.awaiting .root :: []) := by
    rw [toList_nodes_grow, h]
    simp [brood, siblingPlaces, List.range_succ, helder, hlast, hfirst]
  have hchild : tree.size = front.length + 1 + (elder ++ [Node.awaiting last]).length := by
    rw [hsize, hfirst, List.length_append, hlength, List.length_singleton]
    omega
  have hguardian := toList_nodes_update_behind hgrow hchild fun node =>
    { node with guardian := some (first + count) }
  rw [List.append_assoc, List.singleton_append] at hguardian
  have hright := toList_nodes_update_behind hguardian (i := first + count)
    (by rw [hlength, hfirst]; omega) fun node => { node with rightSibling := some tree.size }
  rw [List.append_cons elder] at hright
  have hparent := toList_nodes_update_behind hright (i := tree.size)
    (by simp only [hchild, List.length_append, List.length_singleton]) fun node =>
    { node with parent := some front.length }
  have hoffspring := toList_nodes_update hparent rfl fun node =>
    { node with offspring := node.offspring.push tree.size }
  refine hoffspring.trans ?_
  rw [brood, ← hfirst, List.range'_1_concat (n := count + 1),
    Node.assemble_concat content place hrun, siblingPlaces_succ]
  simp [Place.child, Place.root, Node.awaiting, Node.assemble, Nat.add_assoc, hsize, helder,
    hlast]

/-- **One child more**, to the right of the last one. -/
theorem toList_adopt {first count : Nat} (hfirst : first = front.length + 1 + back.length)
    (h : tree.nodes.toList = brood front content place back count) :
    (tree.adopt front.length (List.range' first count).getLast?).nodes.toList =
      brood front content place back (count + 1) := by
  cases count with
  | zero => exact toList_adopt_first h
  | succ count =>
      rw [List.range'_1_concat, List.getLast?_concat]
      exact toList_adopt_next hfirst h

end Adopt

theorem size_adopt (tree : SyntaxTree) (parent : Nat) (sibling : Option Nat) :
    (tree.adopt parent sibling).size = tree.size + 1 := by
  cases sibling <;> simp [adopt, size, update, grow]

/-- Linking a child changes entries only. -/
theorem adopt_frame (tree : SyntaxTree) (parent : Nat) (sibling : Option Nat) :
    (tree.adopt parent sibling).leaves = tree.leaves ∧
      (tree.adopt parent sibling).eldestCount = tree.eldestCount := by
  cases sibling <;> simp [adopt, update, grow]

end SyntaxTree

/-! ### One visit -/

namespace Construction

open SyntaxTree

/-- The entries in `done` are finished, and behind them stand those of the trees that
wait, with the given links. -/
structure Holds (state : Construction) (done : List Node) (places : List Place)
    (pending : List ParseTree) : Prop where
  /-- The entries. -/
  nodes : state.tree.nodes.toList = done ++ places.map Node.awaiting
  /-- The trees that wait, each with its place. -/
  waiting : queued state.waiting = (List.range' done.length pending.length).zip pending
  /-- As many entries wait as trees. -/
  length_eq : places.length = pending.length

theorem holds_start (root : ParseTree) : (start root).Holds [] [.root] [root] where
  nodes := rfl
  waiting := rfl
  length_eq := rfl

section AdoptAll

variable {front back : List Node} {content : NodeContent} {place : Place}

theorem toList_adoptAll {first count : Nat} (hfirst : first = front.length + 1 + back.length)
    (trees : List ParseTree) (state : Construction)
    (h : state.tree.nodes.toList = brood front content place back count) :
    (adoptAll front.length (List.range' first count).getLast? trees state).tree.nodes.toList =
      brood front content place back (count + trees.length) := by
  -- Along the children the number of them grows, and with it who the last one is.
  induction trees generalizing count state with
  | nil => exact h
  | cons tree trees ih =>
      have hlast : some state.tree.size = (List.range' first (count + 1)).getLast? := by
        rw [List.range'_1_concat, List.getLast?_concat, size_eq_of_brood h, hfirst]
      rw [adoptAll, hlast, ih _ (toList_adopt hfirst h), List.length_cons, Nat.add_assoc,
        Nat.add_comm 1]

/-- Each child waits with its place. -/
theorem queued_adoptAll (parent : Nat) (sibling : Option Nat) (trees : List ParseTree)
    (state : Construction) :
    queued (adoptAll parent sibling trees state).waiting =
      queued state.waiting ++ (List.range' state.tree.size trees.length).zip trees := by
  induction trees generalizing sibling state with
  | nil => simp [adoptAll]
  | cons tree trees ih =>
      rw [adoptAll, ih, size_adopt, queued_enqueue, List.length_cons, List.range'_succ,
        List.zip_cons_cons, List.append_assoc, List.singleton_append]

/-- Linking children changes entries only. -/
theorem adoptAll_frame (parent : Nat) (sibling : Option Nat) (trees : List ParseTree)
    (state : Construction) :
    (adoptAll parent sibling trees state).tree.leaves = state.tree.leaves ∧
      (adoptAll parent sibling trees state).tree.eldestCount = state.tree.eldestCount := by
  induction trees generalizing sibling state with
  | nil => exact ⟨rfl, rfl⟩
  | cons tree trees ih =>
      obtain ⟨hleaves, heldest⟩ := adopt_frame state.tree parent sibling
      rw [adoptAll, ← hleaves, ← heldest]
      exact ih _ _

end AdoptAll

section Visit

variable {state : Construction} {done : List Node} {place : Place} {places : List Place}
  {raw : ParseTree} {pending : List ParseTree}

/-- The first tree that waits stands behind the finished entries. -/
theorem Holds.dequeue? (h : state.Holds done places (raw :: pending)) :
    ∃ waiting, state.waiting.dequeue? = some ((done.length, raw), waiting) ∧
      queued waiting = (List.range' (done.length + 1) pending.length).zip pending := by
  have hqueued := h.waiting
  rw [List.length_cons, List.range'_succ, List.zip_cons_cons] at hqueued
  cases hnext : state.waiting.dequeue? with
  | none =>
      rw [queued_of_dequeue?_eq_none hnext] at hqueued
      exact absurd hqueued (by simp)
  | some next =>
      rw [queued_of_dequeue?_eq_some hnext, List.cons.injEq] at hqueued
      obtain ⟨hitem, hrest⟩ := hqueued
      exact ⟨next.2, by rw [← hitem], hrest⟩

/-- A node that got its content has no children yet. -/
theorem Holds.label (h : state.Holds done (place :: places) (raw :: pending))
    (content : NodeContent) :
    (state.tree.label done.length content).nodes.toList =
      brood done content place (places.map Node.awaiting) 0 := by
  rw [SyntaxTree.label, toList_nodes_update h.nodes rfl]
  simp [brood, siblingPlaces, Node.awaiting, Node.assemble]

theorem Holds.dequeue?_eq_none (h : state.Holds done places []) :
    state.waiting.dequeue? = none := by
  cases hnext : state.waiting.dequeue? with
  | none => rfl
  | some next =>
      have hqueued := h.waiting
      rw [queued_of_dequeue?_eq_some hnext] at hqueued
      exact absurd hqueued (by simp)

/-- **One visit** finishes the first entry that waits, and adds one for each child. -/
theorem Holds.visit (h : state.Holds done (place :: places) (raw :: pending))
    {waiting : Std.Queue (Nat × ParseTree)}
    (hwaiting : queued waiting = (List.range' (done.length + 1) pending.length).zip pending)
    (content : NodeContent) {next : Nat} (hnext : next = done.length + 1 + pending.length) :
    ({ state with waiting }.visit done.length raw content).Holds
      (done ++ [Node.assemble content place (List.range' next raw.childCount)])
      (places ++ siblingPlaces done.length next raw.childCount)
      (pending ++ raw.children) := by
  have hplaces : places.length = pending.length := by simpa using h.length_eq
  have hfirst : next = done.length + 1 + (places.map Node.awaiting).length := by
    rw [hnext, List.length_map, hplaces]
  have hsize : (state.tree.label done.length content).size = next := by
    rw [size_eq_of_brood (h.label content), hfirst, Nat.add_zero]
  refine ⟨?_, ?_, ?_⟩
  · have hbrood : ({ state with waiting }.visit done.length raw content).tree.nodes.toList =
        brood done content place (places.map Node.awaiting) raw.childCount := by
      unfold Construction.visit
      split
      · next hleaf =>
          rw [childCount, List.isEmpty_iff.mp hleaf]
          exact h.label content
      · rw [childCount, ← Nat.zero_add raw.children.length]
        exact toList_adoptAll hfirst raw.children
          { tree := (state.tree.label done.length content).countEldest, waiting }
          (h.label content)
    rw [hbrood, brood, ← hfirst, List.map_append, List.append_assoc, List.singleton_append]
  · have hqueued : queued ({ state with waiting }.visit done.length raw content).waiting =
        queued waiting ++ (List.range' next raw.childCount).zip raw.children := by
      unfold Construction.visit
      split
      · next hleaf => simp [List.isEmpty_iff.mp hleaf]
      · rw [queued_adoptAll, ← hsize]
        rfl
    rw [hqueued, hwaiting, List.length_append, List.length_append, List.length_singleton,
      ← List.range'_append_1, List.zip_append (by simp), hnext]
    rfl
  · rw [List.length_append, List.length_append, length_siblingPlaces, hplaces]
    rfl

/-- A visit counts a node either as a leaf or as one with children. -/
theorem visit_frame (state : Construction) (i : Nat) (raw : ParseTree) (content : NodeContent) :
    (state.visit i raw content).tree.leaves =
        state.tree.leaves ++ (if raw.childCount = 0 then #[i] else #[]) ∧
      (state.visit i raw content).tree.eldestCount =
        state.tree.eldestCount + (if raw.childCount = 0 then 0 else 1) := by
  unfold Construction.visit
  split
  · next hleaf =>
      have hzero : raw.childCount = 0 := by rw [childCount, List.isEmpty_iff.mp hleaf]; rfl
      rw [if_pos hzero, if_pos hzero]
      exact ⟨rfl, rfl⟩
  · next hinner =>
      have hpos : raw.childCount ≠ 0 := by
        intro hzero
        exact hinner (List.isEmpty_iff.mpr (List.length_eq_zero_iff.mp hzero))
      obtain ⟨hleaves, heldest⟩ := adoptAll_frame i none raw.children
        { state with tree := (state.tree.label i content).countEldest }
      rw [if_neg hpos, if_neg hpos]
      exact ⟨hleaves, heldest⟩

end Visit

/-! ### The loop -/

theorem finish_of_dequeue?_eq_none (normalizer : Normalizer) (lines : List String)
    {state : Construction} (h : state.waiting.dequeue? = none) :
    state.finish normalizer lines = .ok state.tree := by
  rw [finish]
  split
  · rfl
  · next hsome => rw [h] at hsome; cases hsome

theorem finish_of_dequeue?_eq_some (normalizer : Normalizer) (lines : List String)
    {state : Construction} {i : Nat} {raw : ParseTree} {waiting : Std.Queue (Nat × ParseTree)}
    (h : state.waiting.dequeue? = some ((i, raw), waiting)) :
    state.finish normalizer lines =
      (NodeContent.read normalizer lines raw).bind fun content =>
        ({ state with waiting }.visit i raw content).finish normalizer lines := by
  rw [finish]
  split
  · next hnone => rw [h] at hnone; cases hnone
  · next hsome =>
      rw [h] at hsome
      cases hsome
      cases NodeContent.read normalizer lines raw <;> rfl

/-- The tree that comes out of the loop when the trees that wait have the given
contents. -/
def result (state : Construction) (done : List Node) (places : List Place)
    (pending : List ParseTree) (contents : List NodeContent) : SyntaxTree :=
  let counts := childCounts pending
  let next := done.length + pending.length
  { nodes := (done ++ assembleAll contents (places ++ placesFrom done.length next counts)
      (childRuns next counts)).toArray
    leaves := state.tree.leaves ++ (leavesFrom done.length counts).toArray
    eldestCount := state.tree.eldestCount + counts.countP (· ≠ 0) }

theorem Holds.result_nil {state : Construction} {done : List Node} {places : List Place}
    (h : state.Holds done places []) (contents : List NodeContent) :
    state.result done places [] contents = state.tree := by
  have hplaces : places = [] := List.length_eq_zero_iff.mp h.length_eq
  have hnodes : done = state.tree.nodes.toList := by rw [h.nodes, hplaces]; simp
  cases contents <;> simp [result, assembleAll, leavesFrom, hplaces, hnodes]

/-- What comes out does not change when a tree that waits is visited. -/
theorem result_visit (state : Construction) (done : List Node) (place : Place)
    (places : List Place) (raw : ParseTree) (pending : List ParseTree)
    (waiting : Std.Queue (Nat × ParseTree)) (content : NodeContent) {next : Nat}
    (hnext : next = done.length + 1 + pending.length) (contents : List NodeContent) :
    ({ state with waiting }.visit done.length raw content).result
        (done ++ [Node.assemble content place (List.range' next raw.childCount)])
        (places ++ siblingPlaces done.length next raw.childCount)
        (pending ++ raw.children) contents =
      state.result done (place :: places) (raw :: pending) (content :: contents) := by
  obtain ⟨hleaves, heldest⟩ := visit_frame { state with waiting } done.length raw content
  have hhere : done.length + (raw :: pending).length = next := by
    rw [hnext, List.length_cons]
    omega
  have hthere : (done ++ [Node.assemble content place (List.range' next raw.childCount)]).length +
      (pending ++ raw.children).length = next + raw.childCount := by
    rw [hnext, List.length_append, List.length_append, List.length_singleton, childCount]
    omega
  simp only [result, hhere, hthere, hleaves, heldest, childCounts_cons, SyntaxTree.mk.injEq]
  refine ⟨?_, ?_, ?_⟩
  · rw [placesFrom_cons, childRuns_cons, List.cons_append, assembleAll, List.length_append,
      List.length_singleton, List.append_assoc, List.append_assoc, List.singleton_append]
  · rw [List.length_append, List.length_singleton, leavesFrom]
    split <;> simp
  · rw [List.countP_cons]
    by_cases hzero : raw.childCount = 0
    · simp [hzero]
    · simp only [hzero, if_false, ne_eq, not_false_eq_true, decide_true, if_true]
      omega

/-- **The closed form of the loop**: what is still to come follows from the trees that
wait, read in the order of the queue. -/
theorem Holds.finish_eq (normalizer : Normalizer) (lines : List String)
    {pending : List ParseTree} {state : Construction} {done : List Node} {places : List Place}
    (h : state.Holds done places pending) :
    state.finish normalizer lines =
      ((queueOrder pending).mapM (NodeContent.read normalizer lines)).map
        (state.result done places pending) := by
  -- The queue of the loop and the order of the nodes unfold together.
  induction pending using queueOrder.induct generalizing state done places with
  | case1 =>
      rw [finish_of_dequeue?_eq_none normalizer lines h.dequeue?_eq_none, queueOrder_nil,
        List.mapM_nil]
      exact congrArg Except.ok (h.result_nil []).symm
  | case2 raw pending ih =>
      cases places with
      | nil => exact absurd h.length_eq (by simp)
      | cons place places =>
          obtain ⟨waiting, hdequeue, hwaiting⟩ := h.dequeue?
          rw [finish_of_dequeue?_eq_some normalizer lines hdequeue, queueOrder_cons,
            List.mapM_cons]
          cases hread : NodeContent.read normalizer lines raw with
          | error cause => rfl
          | ok content =>
              have hvisit : state.result done (place :: places) (raw :: pending) ∘ (content :: ·) =
                  _ := funext fun contents =>
                (result_visit state done place places raw pending waiting content rfl
                  contents).symm
              refine (ih (h.visit hwaiting content rfl)).trans ?_
              rw [← hvisit]
              cases (queueOrder (pending ++ raw.children)).mapM
                (NodeContent.read normalizer lines) <;> rfl

end Construction

/-- **The syntax tree of a parse tree is the layout of what its nodes say**, read in
level order up to the first node that does not fit. -/
theorem SyntaxTree.build_eq_layout (normalizer : Normalizer) (raw : ParseTree)
    (lines : List String) :
    SyntaxTree.build normalizer raw lines =
      (raw.levelOrder.mapM (NodeContent.read normalizer lines)).map fun contents =>
        .layout contents (raw.levelOrder.map childCount) := by
  rw [build, (Construction.holds_start raw).finish_eq, levelOrder_eq_queueOrder]
  congr 1
  funext contents
  simp [Construction.result, Construction.start, sprout, layout, childCounts]

end SyntaxPaths
