import SyntaxPaths.Proofs.ParseTree.LevelOrder
import SyntaxPaths.SyntaxTree.Build

/-!
# The layout of a built tree

All links of a built tree follow from the numbers of children of its nodes in level
order, since **the children of the nodes in the table, put one after the other, are
the table without the root.**

* `Place.child`, `siblingPlaces`, `placesFrom` — the links of the nodes to their
  parents and siblings
* `childRuns` — the places of the children of each node
* `SyntaxTree.layout` — the whole table
* `firstChild` — where the children of a node begin

The table is put together from lists.  What stands in a place is found by
`node_layout`.  Every place but the first is that of child number `k` of some node `p`
(`exists_child`), and its links are those of `Place.child`
(`SyntaxTree.getElem?_places_child`).
-/

namespace SyntaxPaths

open ParseTree

/-! ### Places -/

/-- The links of a node to its parent and its siblings. -/
structure Place where
  /-- Whether the node is a first child. -/
  isEldest : Bool
  /-- The parent. -/
  parent : Option Nat
  /-- The parent of a first child, and the left sibling of another. -/
  guardian : Option Nat
  /-- The next child of the same parent. -/
  rightSibling : Option Nat
  deriving Inhabited

/-- The root has neither parent nor siblings. -/
def Place.root : Place where
  isEldest := false
  parent := none
  guardian := none
  rightSibling := none

/-- The links of child number `k` of `count` children, which stand in the places
from `first` on. -/
def Place.child (parent first count k : Nat) : Place where
  isEldest := k == 0
  parent := some parent
  guardian := some (if k = 0 then parent else first + k - 1)
  rightSibling := if k + 1 < count then some (first + k + 1) else none

/-- The links of a node in a table. -/
def Node.place (node : Node) : Place where
  isEldest := node.isEldest
  parent := node.parent
  guardian := node.guardian
  rightSibling := node.rightSibling

/-- The links of all children of one node. -/
def siblingPlaces (parent first count : Nat) : List Place :=
  (List.range count).map (Place.child parent first count)

/-- The links of the children of the nodes in the places from `i` on, whose
numbers of children are given, where the first child of all stands in place
`first`. -/
def placesFrom : (i first : Nat) → List Nat → List Place
  | _, _, [] => []
  | i, first, count :: counts =>
    siblingPlaces i first count ++ placesFrom (i + 1) (first + count) counts

/-- The places of the children of each node, where the first child of all stands
in place `first`. -/
def childRuns : (first : Nat) → List Nat → List (List Nat)
  | _, [] => []
  | first, count :: counts => List.range' first count :: childRuns (first + count) counts

/-- The places from `i` on that have no children. -/
def leavesFrom : (i : Nat) → List Nat → List Nat
  | _, [] => []
  | i, count :: counts =>
    if count = 0 then i :: leavesFrom (i + 1) counts else leavesFrom (i + 1) counts

@[simp] theorem length_siblingPlaces (parent first count : Nat) :
    (siblingPlaces parent first count).length = count := by
  simp [siblingPlaces]

@[simp] theorem placesFrom_nil (i first : Nat) : placesFrom i first [] = [] := rfl

theorem placesFrom_cons (i first count : Nat) (counts : List Nat) :
    placesFrom i first (count :: counts) =
      siblingPlaces i first count ++ placesFrom (i + 1) (first + count) counts := rfl

@[simp] theorem childRuns_nil (first : Nat) : childRuns first [] = [] := rfl

theorem childRuns_cons (first count : Nat) (counts : List Nat) :
    childRuns first (count :: counts) =
      List.range' first count :: childRuns (first + count) counts := rfl

/-- Only the first child of a node is an eldest one. -/
theorem countP_isEldest_siblingPlaces (parent first count : Nat) :
    (siblingPlaces parent first count).countP Place.isEldest = if count = 0 then 0 else 1 := by
  cases count with
  | zero => rfl
  | succ count =>
      simp [siblingPlaces, List.range_succ_eq_map, List.countP_map, Function.comp_def,
        Place.child]

/-- There are as many eldest children as nodes with children. -/
theorem countP_isEldest_placesFrom (i first : Nat) (counts : List Nat) :
    (placesFrom i first counts).countP Place.isEldest = counts.countP (· ≠ 0) := by
  induction counts generalizing i first with
  | nil => rfl
  | cons count counts ih =>
      rw [placesFrom_cons, List.countP_append, countP_isEldest_siblingPlaces, ih,
        List.countP_cons, Nat.add_comm]
      by_cases hzero : count = 0 <;> simp [hzero]

/-- There is one link to a parent per child. -/
theorem length_placesFrom (i first : Nat) (counts : List Nat) :
    (placesFrom i first counts).length = counts.sum := by
  induction counts generalizing i first with
  | nil => rfl
  | cons count counts ih => rw [placesFrom_cons, List.length_append, length_siblingPlaces, ih,
      List.sum_cons]

@[simp] theorem length_childRuns (first : Nat) (counts : List Nat) :
    (childRuns first counts).length = counts.length := by
  induction counts generalizing first with
  | nil => rfl
  | cons count counts ih => rw [childRuns_cons, List.length_cons, List.length_cons, ih]

/-! ### Entries -/

/-- The entry of a node. -/
def Node.assemble (content : NodeContent) (place : Place) (children : List Nat) : Node where
  kind := content.kind
  value := content.value
  span := content.span
  isEldest := place.isEldest
  parent := place.parent
  offspring := children.toArray
  guardian := place.guardian
  leftChild := children.head?
  rightSibling := place.rightSibling

/-- The entries of the nodes with the given contents, links and children. -/
def assembleAll : List NodeContent → List Place → List (List Nat) → List Node
  | content :: contents, place :: places, run :: runs =>
    Node.assemble content place run :: assembleAll contents places runs
  | _, _, _ => []

theorem assembleAll_cons (content : NodeContent) (contents : List NodeContent) (place : Place)
    (places : List Place) (run : List Nat) (runs : List (List Nat)) :
    assembleAll (content :: contents) (place :: places) (run :: runs) =
      Node.assemble content place run :: assembleAll contents places runs := rfl

theorem getElem?_assembleAll {contents : List NodeContent} {places : List Place}
    {runs : List (List Nat)} {i : Nat} {content : NodeContent} {place : Place} {run : List Nat}
    (hcontent : contents[i]? = some content) (hplace : places[i]? = some place)
    (hrun : runs[i]? = some run) :
    (assembleAll contents places runs)[i]? = some (.assemble content place run) := by
  induction contents generalizing places runs i with
  | nil => simp at hcontent
  | cons first contents ih =>
      cases places with
      | nil => simp at hplace
      | cons firstPlace places =>
          cases runs with
          | nil => simp at hrun
          | cons firstRun runs =>
              rw [assembleAll_cons]
              cases i with
              | zero =>
                  rw [List.getElem?_cons_zero, Option.some.injEq] at hcontent hplace hrun ⊢
                  rw [hcontent, hplace, hrun]
              | succ i =>
                  rw [List.getElem?_cons_succ] at hcontent hplace hrun ⊢
                  exact ih hcontent hplace hrun

theorem length_assembleAll {contents : List NodeContent} {places : List Place}
    {runs : List (List Nat)} (hplaces : places.length = contents.length)
    (hruns : runs.length = contents.length) :
    (assembleAll contents places runs).length = contents.length := by
  induction contents generalizing places runs with
  | nil => rfl
  | cons content contents ih =>
      obtain ⟨place, places, rfl⟩ := List.exists_cons_of_length_eq_add_one hplaces
      obtain ⟨run, runs, rfl⟩ := List.exists_cons_of_length_eq_add_one hruns
      rw [assembleAll_cons, List.length_cons, List.length_cons,
        ih (Nat.succ.inj hplaces) (Nat.succ.inj hruns)]

theorem map_place_assembleAll {contents : List NodeContent} {places : List Place}
    {runs : List (List Nat)} (hplaces : places.length = contents.length)
    (hruns : runs.length = contents.length) :
    (assembleAll contents places runs).map Node.place = places := by
  induction contents generalizing places runs with
  | nil =>
      rw [List.length_eq_zero_iff.mp hplaces]
      rfl
  | cons content contents ih =>
      obtain ⟨place, places, rfl⟩ := List.exists_cons_of_length_eq_add_one hplaces
      obtain ⟨run, runs, rfl⟩ := List.exists_cons_of_length_eq_add_one hruns
      rw [assembleAll_cons, List.map_cons, ih (Nat.succ.inj hplaces) (Nat.succ.inj hruns)]
      rfl

/-- **The table of the nodes with the given contents and numbers of children**, both
in level order. -/
def SyntaxTree.layout (contents : List NodeContent) (counts : List Nat) : SyntaxTree where
  nodes := (assembleAll contents (Place.root :: placesFrom 0 1 counts) (childRuns 1 counts)).toArray
  leaves := (leavesFrom 0 counts).toArray
  eldestCount := counts.countP (· ≠ 0)

/-! ### Positions -/

/-- Where the children of node `i` begin. -/
def firstChild (counts : List Nat) (i : Nat) : Nat :=
  1 + (counts.take i).sum

/-- The children of the nodes before node `i`, and those of node `i`, stand before
those of the next one. -/
theorem firstChild_succ {counts : List Nat} {i count : Nat} (h : counts[i]? = some count) :
    firstChild counts (i + 1) = firstChild counts i + count := by
  rw [firstChild, firstChild, List.take_add_one, h, Option.toList_some, List.sum_append,
    List.sum_singleton, Nat.add_assoc]

/-- The children of a node stand before those of any later one. -/
theorem firstChild_add_le_firstChild {counts : List Nat} {i j count : Nat}
    (h : counts[i]? = some count) (hlt : i < j) :
    firstChild counts i + count ≤ firstChild counts j := by
  obtain ⟨k, rfl⟩ := Nat.exists_eq_add_of_lt hlt
  have hsplit : counts.take (i + 1 + k) = counts.take (i + 1) ++ (counts.drop (i + 1)).take k :=
    List.take_add
  rw [← firstChild_succ h, firstChild, firstChild, Nat.add_right_comm i k 1, hsplit,
    List.sum_append]
  omega

theorem getElem?_childRuns {counts : List Nat} {i count : Nat} (first : Nat)
    (h : counts[i]? = some count) :
    (childRuns first counts)[i]? = some (List.range' (first + (counts.take i).sum) count) := by
  induction counts generalizing first i with
  | nil => simp at h
  | cons head counts ih =>
      cases i with
      | zero =>
          rw [List.getElem?_cons_zero, Option.some.injEq] at h
          simp [childRuns_cons, h]
      | succ i =>
          rw [List.getElem?_cons_succ] at h
          rw [childRuns_cons, List.getElem?_cons_succ, ih _ h, List.take_succ_cons, List.sum_cons,
            Nat.add_assoc]

theorem getElem?_placesFrom {counts : List Nat} {p count k : Nat} (i first : Nat)
    (h : counts[p]? = some count) (hk : k < count) :
    (placesFrom i first counts)[(counts.take p).sum + k]? =
      some (Place.child (i + p) (first + (counts.take p).sum) count k) := by
  induction counts generalizing i first p with
  | nil => simp at h
  | cons head counts ih =>
      cases p with
      | zero =>
          rw [List.getElem?_cons_zero, Option.some.injEq] at h
          subst h
          rw [placesFrom_cons, List.getElem?_append_left (by simpa using hk)]
          simp [siblingPlaces, hk]
      | succ p =>
          rw [List.getElem?_cons_succ] at h
          rw [placesFrom_cons, List.take_succ_cons, List.sum_cons, Nat.add_assoc,
            List.getElem?_append_right (by simp), length_siblingPlaces, Nat.add_sub_cancel_left,
            ih _ _ h, Nat.add_assoc i, Nat.add_comm 1 p, Nat.add_assoc first]

/-- Every place but the first belongs to a child. -/
theorem exists_child {counts : List Nat} {c : Nat} (h : c < counts.sum) :
    ∃ p count k, counts[p]? = some count ∧ k < count ∧ c = (counts.take p).sum + k := by
  induction counts generalizing c with
  | nil => simp at h
  | cons head counts ih =>
      rw [List.sum_cons] at h
      -- The child is one of the first node, or one of the others.
      by_cases hc : c < head
      · exact ⟨0, head, c, rfl, hc, by simp⟩
      · obtain ⟨p, count, k, hcount, hk, heq⟩ := ih (c := c - head) (by omega)
        refine ⟨p + 1, count, k, hcount, hk, ?_⟩
        rw [List.take_succ_cons, List.sum_cons]
        omega

theorem leavesFrom_eq_filter (i : Nat) (counts : List Nat) :
    leavesFrom i counts =
      (List.range' i counts.length).filter fun j => counts[j - i]? = some 0 := by
  induction counts generalizing i with
  | nil => rfl
  | cons count counts ih =>
      -- Behind the first node both sides count from one place further.
      have hrest : (List.range' (i + 1) counts.length).filter
            (fun j => (count :: counts)[j - i]? = some 0) =
          (List.range' (i + 1) counts.length).filter (fun j => counts[j - (i + 1)]? = some 0) := by
        refine List.filter_congr fun j hj => ?_
        have hle := (List.mem_range'_1.mp hj).1
        rw [show j - i = j - (i + 1) + 1 by omega, List.getElem?_cons_succ]
      rw [leavesFrom, ih, List.length_cons, List.range'_succ, List.filter_cons, hrest]
      by_cases hzero : count = 0 <;> simp [hzero]

/-! ### Entries of a layout -/

/-- Numbers of children as a level order has them: every node but the root is a
child, and comes behind its parent. -/
structure IsLevelOrder (counts : List Nat) : Prop where
  /-- Every node but the root is a child. -/
  length_eq : counts.length = 1 + counts.sum
  /-- The children of a node stand behind it. -/
  lt_firstChild : ∀ i < counts.length, i < firstChild counts i

theorem isLevelOrder_childCounts (raw : ParseTree) :
    IsLevelOrder (raw.levelOrder.map childCount) := by
  have hsum := sum_childCounts [raw]
  have hlength := length_childCounts [raw]
  have hlt := fun i => @lt_sum_take_childCounts [raw] i
  rw [levelOrder_eq_queueOrder, ← childCounts]
  exact ⟨by rw [hlength, ← hsum, List.length_singleton], hlt⟩

/-- The children of a node have places in the table. -/
theorem IsLevelOrder.firstChild_add_le {counts : List Nat} (horder : IsLevelOrder counts)
    {p count : Nat} (h : counts[p]? = some count) :
    firstChild counts p + count ≤ counts.length := by
  have hsplit : counts.sum = (counts.take (p + 1)).sum + (counts.drop (p + 1)).sum := by
    rw [← List.sum_append, List.take_append_drop]
  rw [← firstChild_succ h, firstChild, horder.length_eq, hsplit]
  omega

namespace SyntaxTree

section Layout

variable {contents : List NodeContent} {counts : List Nat}

theorem length_places (horder : IsLevelOrder counts) (hlength : contents.length = counts.length) :
    (Place.root :: placesFrom 0 1 counts).length = contents.length := by
  rw [List.length_cons, length_placesFrom, hlength, horder.length_eq, Nat.add_comm]

theorem length_runs (hlength : contents.length = counts.length) :
    (childRuns 1 counts).length = contents.length := by
  rw [length_childRuns, hlength]

theorem size_layout (horder : IsLevelOrder counts) (hlength : contents.length = counts.length) :
    (layout contents counts).size = counts.length := by
  rw [size, layout, List.size_toArray,
    length_assembleAll (length_places horder hlength) (length_runs hlength), hlength]

/-- The entry of a node is made of its content, the links of its place, and its
children. -/
theorem node_layout {i count : Nat} {content : NodeContent} {place : Place}
    (hcontent : contents[i]? = some content) (hcount : counts[i]? = some count)
    (hplace : (Place.root :: placesFrom 0 1 counts)[i]? = some place) :
    (layout contents counts).node i =
      .assemble content place (List.range' (firstChild counts i) count) := by
  have hentry := getElem?_assembleAll hcontent hplace (getElem?_childRuns 1 hcount)
  rw [node, layout, List.getElem?_toArray, hentry, Option.getD_some, firstChild]

/-- The links of child number `k` of node `p`. -/
theorem getElem?_places_child {p count k : Nat} (hcount : counts[p]? = some count)
    (hk : k < count) :
    (Place.root :: placesFrom 0 1 counts)[firstChild counts p + k]? =
      some (Place.child p (firstChild counts p) count k) := by
  rw [firstChild, Nat.add_assoc 1, Nat.add_comm 1, List.getElem?_cons_succ,
    getElem?_placesFrom 0 1 hcount hk, Nat.zero_add, Nat.add_comm 1]

theorem countP_isEldest_layout (horder : IsLevelOrder counts)
    (hlength : contents.length = counts.length) :
    (layout contents counts).nodes.countP Node.isEldest = (layout contents counts).eldestCount := by
  have hplaces := map_place_assembleAll (length_places horder hlength) (length_runs hlength)
  have hcount := congrArg (List.countP Place.isEldest) hplaces
  have hview : Place.isEldest ∘ Node.place = Node.isEldest := rfl
  rw [List.countP_map, hview, List.countP_cons, countP_isEldest_placesFrom] at hcount
  simpa [layout, Place.root] using hcount

end Layout

end SyntaxTree

end SyntaxPaths
