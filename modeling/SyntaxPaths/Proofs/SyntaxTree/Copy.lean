import SyntaxPaths.Proofs.Label
import SyntaxPaths.Proofs.SyntaxTree.Links
import SyntaxPaths.Proofs.Text.Slice

/-!
# A built tree as a copy of its parse tree

Node `i` of a built tree is the copy of node `i` of the parse tree in level order
(`isCopy_of_build`).  What a node says is read from its original alone, and from the part of
the source text that its span covers (`covers_of_coveredText`); that the links have the shape of
the parse tree comes from the layout, one child at a time (`HasLayout.child_bind`) and then along
any route (`HasLayout.descend_bind`).
-/

namespace SyntaxPaths

open ParseTree Text

/-- The subtree to which a route of child numbers leads. -/
def ParseTree.descend (raw : ParseTree) (route : List Nat) : Option ParseTree :=
  route.foldlM (fun tree k => tree.children[k]?) raw

/-! ### Covered text -/

/-- **A span covers a text** of the given lines: the part of its first line from its start on, up
to its stop if that lies on the same line, and else up to the end of the line. -/
def Span.Covers (span : Span) (lines : List String) (text : String) : Prop :=
  ∃ front back, lines[span.start.row]? = some (front ++ text ++ back) ∧
    front.utf8ByteSize = span.start.column ∧
    if span.start.row = span.stop.row then (front ++ text).utf8ByteSize = span.stop.column
    else back = ""

/-- **What is read of a node** is the text that its span covers. -/
theorem covers_of_coveredText {kind : String} {span : Span} {lines : List String} {text : String}
    (h : coveredText kind span lines = .ok text) : span.Covers lines text := by
  unfold coveredText at h
  split at h
  · cases h
  · cases hline : lines[span.start.row]? with
    | none =>
        rw [hline] at h
        cases h
    | some line =>
        simp only [hline] at h
        split at h
        · cases h
        · next chars hslice =>
            obtain rfl : String.ofList chars = text := Except.ok.inj h
            obtain ⟨front, back, hchars, hstart, hstop⟩ := slice_eq_some_iff.mp hslice
            refine ⟨String.ofList front, String.ofList back, ?_, ?_, ?_⟩
            · rw [hline, ← String.ofList_append, ← String.ofList_append, ← hchars,
                String.ofList_toList]
            · rw [utf8ByteSize_eq_byteLength, String.toList_ofList, hstart]
            · split
              · next hrow =>
                  rw [← String.ofList_append, utf8ByteSize_eq_byteLength, String.toList_ofList,
                    hstop, if_pos hrow]
              · next hrow =>
                  -- The part up to the end of the line leaves nothing behind it.
                  rw [if_neg hrow, hchars, byteLength_append (front ++ chars)] at hstop
                  have hnil : back = [] := byteLength_eq_zero_iff.mp (by omega)
                  rw [hnil, String.ofList_nil]

namespace SyntaxTree

/-- **A copy of a parse tree**, in level order. -/
structure IsCopy (normalizer : Normalizer) (lines : List String) (raw : ParseTree)
    (tree : SyntaxTree) : Prop where
  /-- There is one node per node of the parse tree. -/
  size_eq : tree.size = raw.size
  /-- The level order lists them all. -/
  length_levelOrder : raw.levelOrder.length = tree.size
  /-- The kind is that of the original, without surrounding blanks and in lowercase. -/
  kind_eq {i : Nat} {source : ParseTree} : raw.levelOrder[i]? = some source →
    (tree.node i).kind = lowercase (trim source.kind)
  /-- The mark is that of the original, and of no other span. -/
  mark_eq_iff {i : Nat} {source : ParseTree} : raw.levelOrder[i]? = some source →
    ∀ span : Span, (tree.node i).mark = span.mark ↔ span = source.span
  /-- The value is the normalized text that the original covers. -/
  value_eq {i : Nat} {source : ParseTree} : raw.levelOrder[i]? = some source →
    ∃ text, coveredText (normalKind source.kind) source.span lines = .ok text ∧
      source.span.Covers lines text ∧
      (tree.node i).value =
        if source.children.isEmpty then normalizer.formalize (tokenize text)
        else normalizer.desensitize text
  /-- The children are copies of the children. -/
  children_eq {i : Nat} {source : ParseTree} : raw.levelOrder[i]? = some source →
    (tree.node i).children.map (fun c => raw.levelOrder[c]?) = source.children.map some
  /-- Every route leads to the copy of the subtree to which it leads in the parse
  tree, or in both trees nowhere. -/
  descend_eq (route : List Nat) :
    (tree.descend route).bind (fun i => raw.levelOrder[i]?) = raw.descend route
  /-- The terminals are the nodes without children, in the order of their places. -/
  terminals_eq : tree.terminals = (List.range tree.size).filter fun i =>
    (tree.node i).children.isEmpty
  /-- The nodes with children are counted. -/
  eldestCount_eq : tree.eldestCount = (List.range tree.size).countP fun i =>
    !(tree.node i).children.isEmpty

theorem getElem?_levelOrder_child {raw source : ParseTree} {i k : Nat}
    (h : raw.levelOrder[i]? = some source) (hk : k < source.childCount) :
    raw.levelOrder[firstChild (raw.levelOrder.map childCount) i + k]? = source.children[k]? := by
  rw [levelOrder_eq_queueOrder] at h ⊢
  exact getElem?_queueOrder_child [raw] h hk

namespace HasLayout

variable {tree : SyntaxTree} {raw source : ParseTree} {i : Nat}

/-- **One child**: it is the copy of the child of the original. -/
theorem child_bind (h : tree.HasLayout (raw.levelOrder.map childCount))
    (hsource : raw.levelOrder[i]? = some source) (k : Nat) :
    (tree.child? i k).bind (fun c => raw.levelOrder[c]?) = source.children[k]? := by
  have hcount : (raw.levelOrder.map childCount)[i]? = some source.childCount := by
    rw [List.getElem?_map, hsource, Option.map_some]
  rw [child?, h.children_eq hcount]
  by_cases hk : k < source.childCount
  · rw [List.getElem?_range' hk, Nat.one_mul, Option.bind_some,
      getElem?_levelOrder_child hsource hk]
  · rw [List.getElem?_eq_none (by rw [List.length_range']; omega), Option.bind_none,
      List.getElem?_eq_none (Nat.not_lt.mp hk)]

/-- A child has a place in the table, so there is an original of it. -/
theorem lt_of_child (h : tree.HasLayout (raw.levelOrder.map childCount)) {k c : Nat}
    (hchild : tree.child? i k = some c) : c < raw.levelOrder.length := by
  have hsize := (h.isLinked.lt_child hchild).2
  rwa [h.size_eq, List.length_map] at hsize

/-- All children: they are the copies of the children of the original. -/
theorem map_children (h : tree.HasLayout (raw.levelOrder.map childCount))
    (hsource : raw.levelOrder[i]? = some source) :
    (tree.node i).children.map (fun c => raw.levelOrder[c]?) = source.children.map some := by
  refine List.ext_getElem? fun k => ?_
  have hchild := h.child_bind hsource k
  rw [List.getElem?_map, List.getElem?_map, ← hchild, ← child?]
  cases hc : tree.child? i k with
  | none => rfl
  | some c =>
      rw [Option.map_some, Option.bind_some, List.getElem?_eq_getElem (h.lt_of_child hc),
        Option.map_some]

/-- **A route** from a node: it leads to the copy of where it leads from the
original. -/
theorem descend_bind (h : tree.HasLayout (raw.levelOrder.map childCount))
    (hsource : raw.levelOrder[i]? = some source) (route : List Nat) :
    (route.foldlM tree.child? i).bind (fun c => raw.levelOrder[c]?) = source.descend route := by
  induction route generalizing i source with
  | nil => exact hsource
  | cons k route ih =>
      have hchild := h.child_bind hsource k
      rw [ParseTree.descend, List.foldlM_cons, List.foldlM_cons, ← hchild]
      cases hc : tree.child? i k with
      | none => rfl
      | some c =>
          have hnext := List.getElem?_eq_getElem (h.lt_of_child hc)
          rw [Option.bind_some, hnext]
          exact ih hnext

end HasLayout

/-- What was read of a node is its kind, its span, and the normalized text that it
covers. -/
theorem read_eq_ok {normalizer : Normalizer} {lines : List String} {source : ParseTree}
    {content : NodeContent} (h : NodeContent.read normalizer lines source = .ok content) :
    content.kind = normalKind source.kind ∧ content.span = source.span ∧
      ∃ text, coveredText (normalKind source.kind) source.span lines = .ok text ∧
        content.value = normalizer.value source.children.isEmpty text := by
  simp only [NodeContent.read] at h
  cases htext : coveredText (normalKind source.kind) source.span lines with
  | error cause => rw [htext] at h; cases h
  | ok text =>
      rw [htext] at h
      obtain rfl := Except.ok.inj h
      exact ⟨rfl, rfl, text, rfl, rfl⟩

/-- **What a node says** was read from its original. -/
theorem node_of_build {normalizer : Normalizer} {raw source : ParseTree}
    {lines : List String} {tree : SyntaxTree} (h : build normalizer raw lines = .ok tree) {i : Nat}
    (hsource : raw.levelOrder[i]? = some source) :
    (tree.node i).kind = normalKind source.kind ∧ (tree.node i).span = source.span ∧
      ∃ text, coveredText (normalKind source.kind) source.span lines = .ok text ∧
        (tree.node i).value = normalizer.value source.children.isEmpty text := by
  obtain ⟨contents, hread, rfl⟩ := exists_layout_of_build h
  obtain ⟨hlength, hget⟩ := getElem?_of_mapM_eq_ok hread
  obtain ⟨content, hcontent, hsays⟩ := hget i source hsource
  have hcount : (raw.levelOrder.map childCount)[i]? = some source.childCount := by
    rw [List.getElem?_map, hsource, Option.map_some]
  obtain ⟨content', place, hcontent', -, hnode⟩ := exists_node_layout
    (isLevelOrder_childCounts raw) (by rw [hlength, List.length_map]) hcount
  obtain rfl : content = content' := Option.some.inj (hcontent.symm.trans hcontent')
  rw [hnode]
  exact read_eq_ok hsays

/-- **Every built tree is a copy of its parse tree.** -/
theorem isCopy_of_build {normalizer : Normalizer} {raw : ParseTree} {lines : List String}
    {tree : SyntaxTree} (h : build normalizer raw lines = .ok tree) :
    tree.IsCopy normalizer lines raw := by
  have hlayout := hasLayout_of_build h
  have hlength : raw.levelOrder.length = tree.size := by
    rw [hlayout.size_eq, List.length_map]
  exact
    { size_eq := by rw [← hlength, ParseTree.length_levelOrder]
      length_levelOrder := hlength
      kind_eq := fun hsource => (node_of_build h hsource).1
      mark_eq_iff := by
        intro i source hsource span
        obtain ⟨-, hspan, -⟩ := node_of_build h hsource
        rw [Node.mark, hspan]
        exact ⟨fun hmark => (Span.mark_inj hmark).symm, fun hspan => hspan ▸ rfl⟩
      value_eq := by
        intro i source hsource
        obtain ⟨-, -, text, htext, hvalue⟩ := node_of_build h hsource
        exact ⟨text, htext, covers_of_coveredText htext, hvalue⟩
      children_eq := hlayout.map_children
      descend_eq := by
        intro route
        have hroot : raw.levelOrder[root]? = some raw := by
          rw [levelOrder_eq_queueOrder, queueOrder_cons, root, List.getElem?_cons_zero]
        exact hlayout.descend_bind hroot route
      terminals_eq := hlayout.terminals_eq_filter
      eldestCount_eq := hlayout.eldestCount_eq_countP }

end SyntaxTree

/-- The parse tree of the lines `f(é` and `b)`: a call that goes on over both. -/
def ParseTree.splitCall : ParseTree :=
  .node "Call " ⟨⟨0, 0⟩, ⟨1, 2⟩⟩
    [.node "identifier" (.columns 0 1) [], .node "identifier" (.columns 2 4) [],
      .node "identifier" ⟨⟨1, 0⟩, ⟨1, 1⟩⟩ []]

namespace SyntaxTree

/-- The tree of the lines `f(é` and `b)`. -/
def splitCall : SyntaxTree :=
  .layout
    [⟨"call", "f(é", ⟨⟨0, 0⟩, ⟨1, 2⟩⟩⟩, ⟨"identifier", "f", .columns 0 1⟩,
      ⟨"identifier", "é", .columns 2 4⟩, ⟨"identifier", "b", ⟨⟨1, 0⟩, ⟨1, 1⟩⟩⟩]
    [3, 0, 0, 0]

/-- The call covers two lines, and has the first one as its value. -/
theorem isCopy_splitCall :
    build .verbatim .splitCall ["f(é", "b)"] = .ok .splitCall ∧
      splitCall.IsCopy .verbatim ["f(é", "b)"] .splitCall := by
  have hbuilt : build .verbatim .splitCall ["f(é", "b)"] = .ok .splitCall := by
    decide +kernel
  exact ⟨hbuilt, isCopy_of_build hbuilt⟩

end SyntaxTree

end SyntaxPaths
