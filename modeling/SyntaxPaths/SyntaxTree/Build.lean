import SyntaxPaths.Normalizer
import SyntaxPaths.ParseTree
import SyntaxPaths.SyntaxTree
import SyntaxPaths.SyntaxTree.BuildError
import SyntaxPaths.Text.Blank
import SyntaxPaths.Text.Slice
import SyntaxPaths.Text.Subtoken

/-!
# Building a syntax tree

A syntax tree is built from a parse tree, the lines of the source text and a
normalizer.  A queue holds the nodes of the parse tree that are still to be visited,
each with its place in the table.  When a node is visited it is given its kind, its
value and its span; then its children get places at the end of the table, are linked
to it and to each other, and wait at the end of the queue.

## Main definitions

* `coveredText` — the source text that a span selects, or why it selects none
* `NodeContent.read` — kind, value and span of a node
* `SyntaxTree.adopt` — one more child of a node, with all its links
* `Construction` — a tree that is being built, and what still waits
* `SyntaxTree.build` — the whole tree

## Design notes

**Half-finished entries.**  A node in the queue has its links to its parent and its
siblings, but no content yet and no children.  It gets these when it is visited.

**The first failure wins.**  The nodes are read in the order of the queue, and
building stops at the first one that does not fit; within a node a reversed span is
noticed first, then a missing line, then bad columns.
-/

namespace SyntaxPaths

open Text

/-- The text that the span of a node selects.  A node that goes on over further
lines is represented by the rest of its first line; where it stops is then not
looked at. -/
def coveredText (kind : String) (span : Span) (lines : List String) :
    Except BuildError String :=
  if span.stop.isBefore span.start then
    .error (.endBeforeStart kind span.start span.stop)
  else
    match lines[span.start.row]? with
    | none => .error (.lineOutOfRange span.start.row lines.length)
    | some line =>
      let chars := line.toList
      let stop := if span.start.row = span.stop.row then span.stop.column else byteLength chars
      match slice span.start.column stop chars with
      | none => .error (.invalidColumns span.start.row span.start.column stop (byteLength chars))
      | some text => .ok (String.ofList text)

/-- What a node says, apart from its links. -/
structure NodeContent where
  /-- The kind of the node, in lowercase. -/
  kind : String
  /-- The normalized text of the node. -/
  value : String
  /-- The text that the node covers. -/
  span : Span
  deriving DecidableEq, Repr, Inhabited

/-- The value of a node that covers the given text. -/
def Normalizer.value (normalizer : Normalizer) (isTerminal : Bool) (text : String) : String :=
  if isTerminal then normalizer.formalize (tokenize text) else normalizer.desensitize text

/-- A kind as it is compared: without surrounding blanks and in lowercase. -/
def normalKind (kind : String) : String :=
  lowercase (trim kind)

/-- What the root of a parse tree says, or why it does not fit. -/
def NodeContent.read (normalizer : Normalizer) (lines : List String) (tree : ParseTree) :
    Except BuildError NodeContent :=
  let kind := normalKind tree.kind
  (coveredText kind tree.span lines).map fun text =>
    { kind, value := normalizer.value tree.children.isEmpty text, span := tree.span }

/-! ### Entries and links -/

namespace SyntaxTree

/-- The tree of one empty node. -/
def sprout : SyntaxTree where
  nodes := #[default]
  leaves := #[]
  eldestCount := 0

/-- The tree with one more empty node, in the place behind all others. -/
def grow (tree : SyntaxTree) : SyntaxTree :=
  { tree with nodes := tree.nodes.push default }

/-- The tree with a changed entry. -/
def update (tree : SyntaxTree) (i : Nat) (change : Node → Node) : SyntaxTree :=
  { tree with nodes := tree.nodes.modify i change }

/-- The tree with one more child of a node, to the right of the given sibling, or
the first child if there is none. -/
def adopt (tree : SyntaxTree) (parent : Nat) (sibling : Option Nat) : SyntaxTree :=
  let child := tree.size
  let tree := tree.grow
  let tree :=
    match sibling with
    | some sibling =>
      (tree.update child fun node => { node with guardian := some sibling }).update sibling
        fun node => { node with rightSibling := some child }
    | none =>
      (tree.update child fun node =>
        { node with guardian := some parent, isEldest := true }).update parent
          fun node => { node with leftChild := some child }
  (tree.update child fun node => { node with parent := some parent }).update parent
    fun node => { node with offspring := node.offspring.push child }

/-- The tree in which a node has its content. -/
def label (tree : SyntaxTree) (i : Nat) (content : NodeContent) : SyntaxTree :=
  tree.update i fun node =>
    { node with kind := content.kind, value := content.value, span := content.span }

/-- The tree in which a node was found to be a leaf. -/
def addLeaf (tree : SyntaxTree) (i : Nat) : SyntaxTree :=
  { tree with leaves := tree.leaves.push i }

/-- The tree in which one more node was found to have children. -/
def countEldest (tree : SyntaxTree) : SyntaxTree :=
  { tree with eldestCount := tree.eldestCount + 1 }

end SyntaxTree

/-! ### The queue -/

/-- The items of a queue, the next one first. -/
def queued {α : Type} (queue : Std.Queue α) : List α :=
  queue.dList ++ queue.eList.reverse

section Queue

variable {α : Type}

@[simp] theorem queued_empty : queued (∅ : Std.Queue α) = [] := rfl

@[simp] theorem queued_enqueue (item : α) (queue : Std.Queue α) :
    queued (queue.enqueue item) = queued queue ++ [item] := by
  simp [queued, Std.Queue.enqueue]

/-- An empty queue has no next item. -/
theorem queued_of_dequeue?_eq_none {queue : Std.Queue α} (h : queue.dequeue? = none) :
    queued queue = [] := by
  obtain ⟨back, front⟩ := queue
  cases front with
  | cons item front => simp [Std.Queue.dequeue?] at h
  | nil =>
      cases hback : back.reverse with
      | cons item rest => simp [Std.Queue.dequeue?, hback] at h
      | nil => simp [queued, hback]

/-- The next item stands in front of all others. -/
theorem queued_of_dequeue?_eq_some {queue rest : Std.Queue α} {item : α}
    (h : queue.dequeue? = some (item, rest)) : queued queue = item :: queued rest := by
  obtain ⟨back, front⟩ := queue
  cases front with
  | cons next front =>
      simp only [Std.Queue.dequeue?, Option.some.injEq, Prod.mk.injEq] at h
      obtain ⟨rfl, rfl⟩ := h
      rfl
  | nil =>
      cases hback : back.reverse with
      | nil => simp [Std.Queue.dequeue?, hback] at h
      | cons next others =>
          simp only [Std.Queue.dequeue?, hback, Option.some.injEq, Prod.mk.injEq] at h
          obtain ⟨rfl, rfl⟩ := h
          simp [queued, hback]

end Queue

/-! ### The loop -/

/-- A tree that is being built. -/
structure Construction where
  /-- The nodes that have places, the last ones still without content. -/
  tree : SyntaxTree
  /-- The nodes without content, each with its place. -/
  waiting : Std.Queue (Nat × ParseTree)

namespace Construction

/-- The parse trees that wait, the next one first. -/
def pending (state : Construction) : List ParseTree :=
  (queued state.waiting).map Prod.snd

/-- The root waits for its content. -/
def start (root : ParseTree) : Construction where
  tree := .sprout
  waiting := (∅ : Std.Queue _).enqueue (SyntaxTree.root, root)

/-- The given parse trees become children of a node, to the right of the given
sibling, and wait. -/
def adoptAll (parent : Nat) : (sibling : Option Nat) → List ParseTree → Construction →
    Construction
  | _, [], state => state
  | sibling, tree :: trees, state =>
    let child := state.tree.size
    adoptAll parent (some child) trees
      { tree := state.tree.adopt parent sibling
        waiting := state.waiting.enqueue (child, tree) }

/-- A node gets its content and its children. -/
def visit (state : Construction) (i : Nat) (raw : ParseTree) (content : NodeContent) :
    Construction :=
  let tree := state.tree.label i content
  if raw.children.isEmpty then { state with tree := tree.addLeaf i }
  else adoptAll i none raw.children { state with tree := tree.countEldest }

theorem pending_adoptAll (parent : Nat) (sibling : Option Nat) (trees : List ParseTree)
    (state : Construction) :
    (adoptAll parent sibling trees state).pending = state.pending ++ trees := by
  induction trees generalizing sibling state with
  | nil => simp [adoptAll]
  | cons tree trees ih =>
      rw [adoptAll, ih]
      simp [pending]

/-- A visited node is followed in the queue by its children, at the end. -/
theorem pending_visit (state : Construction) (i : Nat) (raw : ParseTree)
    (content : NodeContent) :
    (state.visit i raw content).pending = state.pending ++ raw.children := by
  unfold visit
  split
  · next h => simp [pending, List.isEmpty_iff.mp h]
  · exact pending_adoptAll i none raw.children _

/-- Visits the nodes that wait, until none is left. -/
def finish (normalizer : Normalizer) (lines : List String) (state : Construction) :
    Except BuildError SyntaxTree :=
  match _hnext : state.waiting.dequeue? with
  | none => .ok state.tree
  | some ((i, raw), waiting) =>
    match NodeContent.read normalizer lines raw with
    | .error cause => .error cause
    | .ok content =>
      ({ state with waiting }.visit i raw content).finish normalizer lines
termination_by ParseTree.forestSize state.pending
decreasing_by
  rw [pending_visit, pending, pending, queued_of_dequeue?_eq_some _hnext]
  simp only [List.map_cons, ParseTree.forestSize_append, ParseTree.forestSize_cons,
    ParseTree.size_eq raw]
  omega

end Construction

/-- **The syntax tree of a parse tree**, or the failure of the first node that does
not fit the source. -/
def SyntaxTree.build (normalizer : Normalizer) (tree : ParseTree) (lines : List String) :
    Except BuildError SyntaxTree :=
  (Construction.start tree).finish normalizer lines

end SyntaxPaths
