import SyntaxPaths.Proofs.SyntaxTree.Copy
import SyntaxPaths.Proofs.Text.Slice

/-!
# Parse trees that do not fit their source

A tree can be built exactly if no node of the parse tree has a bad span, and otherwise the
first bad one in level order is blamed (`rejectsFirstBad_build`).  This holds of every parse
tree, for inner nodes and leaves alike.

* **Bad spans** (`Span.IsBad`) are told by coordinates alone: the span is reversed, or it
  begins in a line that does not exist, or its columns are not boundaries of characters in
  the line.  What a node is called and what is made of its text play no part.
* **What is said of a bad node** (`Faults`).  A span can be bad in more than one way; the
  faults are looked for in the order above, and the first one is reported.
-/

namespace SyntaxPaths

open ParseTree Text

/-! ### Bad spans -/

/-- A span stops before it starts: in an earlier row, or in the same row at an earlier
column. -/
def Span.IsReversed (span : Span) : Prop :=
  span.stop.row < span.start.row ∨
    (span.stop.row = span.start.row ∧ span.stop.column < span.start.column)

/-- The columns of a span select a part of its first line: they are at most the length of the
line and lie between characters.  Where a span of several rows stops is not looked at. -/
def Span.Selects (span : Span) (line : String) : Prop :=
  (⟨span.start.column⟩ : String.Pos.Raw).IsValid line ∧
    (span.start.row = span.stop.row → (⟨span.stop.column⟩ : String.Pos.Raw).IsValid line)

/-- **A bad span** selects no text of the given lines. -/
def Span.IsBad (lines : List String) (span : Span) : Prop :=
  span.IsReversed ∨ lines.length ≤ span.start.row ∨
    ∃ line ∈ lines[span.start.row]?, ¬ span.Selects line

instance (span : Span) : Decidable span.IsReversed :=
  inferInstanceAs (Decidable (_ ∨ _))

instance (span : Span) (line : String) : Decidable (span.Selects line) :=
  inferInstanceAs (Decidable (_ ∧ _))

instance (lines : List String) (span : Span) : Decidable (span.IsBad lines) :=
  inferInstanceAs (Decidable (_ ∨ _))

/-- A letter of two bytes cannot be cut.  Behind it a span may begin and go on, to wherever it
says that it stops. -/
example :
    Span.IsBad ["é"] { start := ⟨0, 1⟩, stop := ⟨0, 2⟩ } ∧
      ¬ Span.IsBad ["é"] { start := ⟨0, 2⟩, stop := ⟨7, 1⟩ } := by
  decide

theorem Point.isBefore_eq_true_iff {p q : Point} :
    p.isBefore q = true ↔ p.row < q.row ∨ (p.row = q.row ∧ p.column < q.column) := by
  simp [Point.isBefore]

theorem Span.isBefore_iff {span : Span} :
    span.stop.isBefore span.start = true ↔ span.IsReversed :=
  Point.isBefore_eq_true_iff

/-- The column up to which a span goes in its first line: to the end of the line, unless it
stops there. -/
def Span.lastColumn (span : Span) (line : String) : Nat :=
  if span.start.row = span.stop.row then span.stop.column else line.utf8ByteSize

theorem Span.ite_stop_column (span : Span) (line : String) :
    (if span.start.row = span.stop.row then span.stop.column else byteLength line.toList) =
      span.lastColumn line := by
  rw [← utf8ByteSize_eq_byteLength]
  rfl

/-- **The columns select a part of the line** exactly if the slice between them exists. -/
theorem Span.isSome_slice_iff {span : Span} (h : ¬ span.IsReversed) (line : String) :
    (slice span.start.column (span.lastColumn line) line.toList).isSome = true ↔
      span.Selects line := by
  rw [Text.isSome_slice_iff, isBoundary_toList, isBoundary_toList]
  unfold Selects lastColumn
  by_cases hrow : span.start.row = span.stop.row
  · -- On one row the columns stand in their order.
    have hle : span.start.column ≤ span.stop.column := by
      unfold IsReversed at h
      omega
    simp [hrow, hle]
  · -- Otherwise the part goes up to the end of the line, which is always a boundary.
    have hend : (⟨line.utf8ByteSize⟩ : String.Pos.Raw).IsValid line := by
      rw [← isBoundary_toList, utf8ByteSize_eq_byteLength]
      exact isBoundary_byteLength line.toList
    simp only [hrow, if_false, false_implies, and_true, hend]
    exact ⟨fun hall => hall.2, fun hvalid => ⟨hvalid.le_utf8ByteSize, hvalid⟩⟩

/-! ### What is said of a bad node -/

/-- **The fault of a node**, with its coordinates: that its span is reversed, or else that its
line does not exist, or else that its columns select nothing. -/
inductive Faults (lines : List String) (node : ParseTree) : BuildError → Prop where
  /-- The span is reversed. -/
  | endBeforeStart : node.span.IsReversed →
      Faults lines node
        (.endBeforeStart (normalKind node.kind) node.span.start node.span.stop)
  /-- The span is in order, but there is no such line. -/
  | lineOutOfRange : ¬ node.span.IsReversed → lines.length ≤ node.span.start.row →
      Faults lines node (.lineOutOfRange node.span.start.row lines.length)
  /-- The span is in order and the line exists, but the columns select nothing of it. -/
  | invalidColumns {line : String} : ¬ node.span.IsReversed →
      lines[node.span.start.row]? = some line → ¬ node.span.Selects line →
      Faults lines node
        (.invalidColumns node.span.start.row node.span.start.column
          (node.span.lastColumn line) line.utf8ByteSize)

/-- What is done with a result does not change a failure. -/
theorem map_eq_error_iff {α β ε : Type} {f : α → β} {result : Except ε α} {cause : ε} :
    result.map f = .error cause ↔ result = .error cause := by
  cases result with
  | error cause' => simp only [Except.map, Except.error.injEq]
  | ok value => exact ⟨nofun, nofun⟩

section Faults

variable {normalizer : Normalizer} {lines : List String} {node : ParseTree} {cause : BuildError}

/-- **A node has a fault exactly if its span is bad.** -/
theorem exists_faults_iff : (∃ cause, Faults lines node cause) ↔ node.span.IsBad lines := by
  constructor
  · rintro ⟨cause, hfault⟩
    cases hfault with
    | endBeforeStart hreversed => exact Or.inl hreversed
    | lineOutOfRange _ hrow => exact Or.inr (Or.inl hrow)
    | invalidColumns _ hline hselects => exact Or.inr (Or.inr ⟨_, hline, hselects⟩)
  · intro hbad
    by_cases hreversed : node.span.IsReversed
    · exact ⟨_, .endBeforeStart hreversed⟩
    · rcases hbad with h | hrow | ⟨line, hline, hselects⟩
      · exact absurd h hreversed
      · exact ⟨_, .lineOutOfRange hreversed hrow⟩
      · exact ⟨_, .invalidColumns hreversed hline hselects⟩

/-- The text of a node that has a fault is refused for it. -/
theorem Faults.coveredText_eq_error (h : Faults lines node cause) :
    coveredText (normalKind node.kind) node.span lines = .error cause := by
  unfold coveredText
  cases h with
  | endBeforeStart hreversed => rw [if_pos (Span.isBefore_iff.mpr hreversed)]
  | lineOutOfRange hordered hrow =>
      rw [if_neg (mt Span.isBefore_iff.mp hordered), List.getElem?_eq_none hrow]
  | @invalidColumns line hordered hline hselects =>
      have hslice : slice node.span.start.column (node.span.lastColumn line) line.toList = none :=
        Option.not_isSome_iff_eq_none.mp (mt (Span.isSome_slice_iff hordered line).mp hselects)
      rw [if_neg (mt Span.isBefore_iff.mp hordered), hline]
      simp only [Span.ite_stop_column, hslice, utf8ByteSize_eq_byteLength]

/-- Text is refused only for a fault. -/
theorem faults_of_coveredText_eq_error
    (h : coveredText (normalKind node.kind) node.span lines = .error cause) :
    Faults lines node cause := by
  unfold coveredText at h
  split at h
  · next hreversed =>
      cases h
      exact .endBeforeStart (Span.isBefore_iff.mp hreversed)
  · next hordered =>
      replace hordered := mt Span.isBefore_iff.mpr hordered
      split at h
      · next hline =>
          cases h
          exact .lineOutOfRange hordered (List.getElem?_eq_none_iff.mp hline)
      · next line hline =>
          simp only [Span.ite_stop_column] at h
          split at h
          · next hslice =>
              cases h
              rw [← utf8ByteSize_eq_byteLength]
              refine .invalidColumns hordered hline fun hselects => ?_
              have hsome := (Span.isSome_slice_iff hordered line).mpr hselects
              rw [hslice] at hsome
              cases hsome
          · cases h

/-- **A node cannot be read exactly if it has a fault**, and that is what is reported. -/
theorem read_eq_error_iff :
    NodeContent.read normalizer lines node = .error cause ↔ Faults lines node cause :=
  map_eq_error_iff.trans
    ⟨faults_of_coveredText_eq_error, fun hfault => hfault.coveredText_eq_error⟩

/-- What is not bad can be read. -/
theorem exists_read_eq_ok_iff :
    (∃ content, NodeContent.read normalizer lines node = .ok content) ↔
      ¬ node.span.IsBad lines := by
  rw [← exists_faults_iff]
  cases hread : NodeContent.read normalizer lines node with
  | error cause =>
      constructor
      · rintro ⟨content, h⟩
        cases h
      · intro hnot
        exact absurd ⟨cause, read_eq_error_iff.mp hread⟩ hnot
  | ok content =>
      refine ⟨?_, fun _ => ⟨content, rfl⟩⟩
      rintro - ⟨cause, hfault⟩
      cases hread.symm.trans (read_eq_error_iff.mpr hfault)

end Faults

/-! ### The first failure -/

section FirstFailure

variable {α β ε : Type} {read : α → Except ε β} {cause : ε}

/-- Reading in order stops at an item that cannot be read, if all before it can. -/
theorem mapM_append_cons_eq_error {before : List α} {item : α}
    (hbefore : ∀ earlier ∈ before, ∃ image, read earlier = .ok image)
    (hitem : read item = .error cause) (after : List α) :
    (before ++ item :: after).mapM read = .error cause := by
  induction before with
  | nil =>
      rw [List.nil_append, List.mapM_cons, hitem]
      rfl
  | cons earlier before ih =>
      obtain ⟨⟨image, hread⟩, hbefore⟩ := List.forall_mem_cons.mp hbefore
      rw [List.cons_append, List.mapM_cons, hread, ih hbefore]
      rfl

/-- Where reading in order fails, there is a first item that cannot be read. -/
theorem exists_append_cons_of_mapM_eq_error {items : List α} (h : items.mapM read = .error cause) :
    ∃ before item after, items = before ++ item :: after ∧
      (∀ earlier ∈ before, ∃ image, read earlier = .ok image) ∧ read item = .error cause := by
  induction items with
  | nil => cases h
  | cons first items ih =>
      rw [List.mapM_cons] at h
      cases hfirst : read first with
      | error cause' =>
          rw [hfirst] at h
          cases h
          exact ⟨[], first, items, rfl, nofun, hfirst⟩
      | ok image =>
          rw [hfirst] at h
          cases hrest : items.mapM read with
          | ok images =>
              rw [hrest] at h
              cases h
          | error cause' =>
              rw [hrest] at h
              cases h
              obtain ⟨before, item, after, rfl, hbefore, hitem⟩ := ih hrest
              exact ⟨first :: before, item, after, rfl,
                List.forall_mem_cons.mpr ⟨⟨image, hfirst⟩, hbefore⟩, hitem⟩

end FirstFailure

/-! ### All nodes of a parse tree -/

namespace ParseTree

variable {raw node : ParseTree}

/-- A route leads to the tree itself, or goes on from one of the children. -/
theorem exists_descend_iff : (∃ route, raw.descend route = some node) ↔
    node = raw ∨ ∃ child ∈ raw.children, ∃ route, child.descend route = some node := by
  constructor
  · rintro ⟨route, hroute⟩
    cases route with
    | nil =>
        cases hroute
        exact Or.inl rfl
    | cons k route =>
        rw [descend, List.foldlM_cons] at hroute
        obtain ⟨child, hchild, hrest⟩ := Option.bind_eq_some_iff.mp hroute
        exact Or.inr ⟨child, List.mem_of_getElem? hchild, route, hrest⟩
  · rintro (rfl | ⟨child, hchild, route, hroute⟩)
    · exact ⟨[], rfl⟩
    · obtain ⟨k, hk⟩ := List.getElem?_of_mem hchild
      refine ⟨k :: route, ?_⟩
      rw [descend, List.foldlM_cons, hk]
      exact hroute

/-- A queue visits what can be reached from the trees that wait. -/
theorem mem_queueOrder_iff {forest : List ParseTree} :
    node ∈ queueOrder forest ↔ ∃ tree ∈ forest, ∃ route, tree.descend route = some node := by
  induction forest using queueOrder.induct with
  | case1 => simp
  | case2 tree forest ih =>
      rw [queueOrder_cons, List.mem_cons, ih, List.exists_mem_cons_iff, exists_descend_iff]
      simp only [List.mem_append, or_and_right, exists_or]
      exact (or_congr_right or_comm).trans or_assoc.symm

/-- **The level order lists all nodes**: those to which a route leads. -/
theorem mem_levelOrder_iff :
    node ∈ raw.levelOrder ↔ ∃ route, raw.descend route = some node := by
  rw [levelOrder_eq_queueOrder, mem_queueOrder_iff]
  constructor
  · rintro ⟨tree, htree, hroute⟩
    rwa [List.mem_singleton.mp htree] at hroute
  · intro hroute
    exact ⟨raw, List.mem_singleton_self raw, hroute⟩

end ParseTree

/-! ### What cannot be built -/

/-- **What building makes of a parse tree that does not fit its source.** -/
structure RejectsFirstBad (normalizer : Normalizer) (raw : ParseTree) (lines : List String) :
    Prop where
  /-- A tree cannot be built exactly if some node, inner node or leaf, has a bad span. -/
  fails_iff : (∃ cause, SyntaxTree.build normalizer raw lines = .error cause) ↔
    ∃ route node, raw.descend route = some node ∧ node.span.IsBad lines
  /-- The failure is the fault of the first node in level order that has a bad span. -/
  error_iff (cause : BuildError) : SyntaxTree.build normalizer raw lines = .error cause ↔
    ∃ before node after, raw.levelOrder = before ++ node :: after ∧
      (∀ earlier ∈ before, ¬ earlier.span.IsBad lines) ∧ node.span.IsBad lines ∧
        Faults lines node cause

namespace SyntaxTree

variable {normalizer : Normalizer} {raw : ParseTree} {lines : List String} {cause : BuildError}

/-- Building fails where reading the nodes in level order fails. -/
theorem build_eq_error_iff :
    build normalizer raw lines = .error cause ↔
      raw.levelOrder.mapM (NodeContent.read normalizer lines) = .error cause := by
  rw [build_eq_layout, map_eq_error_iff]

/-- **The failure is the fault of the first bad node** in level order. -/
theorem build_eq_error_iff_exists :
    build normalizer raw lines = .error cause ↔
      ∃ before node after, raw.levelOrder = before ++ node :: after ∧
        (∀ earlier ∈ before, ¬ earlier.span.IsBad lines) ∧ node.span.IsBad lines ∧
          Faults lines node cause := by
  rw [build_eq_error_iff]
  constructor
  · intro h
    obtain ⟨before, node, after, hsplit, hbefore, hnode⟩ := exists_append_cons_of_mapM_eq_error h
    have hfault := read_eq_error_iff.mp hnode
    exact ⟨before, node, after, hsplit,
      fun earlier hmem => exists_read_eq_ok_iff.mp (hbefore earlier hmem),
      exists_faults_iff.mp ⟨cause, hfault⟩, hfault⟩
  · rintro ⟨before, node, after, hsplit, hbefore, -, hfault⟩
    rw [hsplit]
    exact mapM_append_cons_eq_error
      (fun earlier hmem => exists_read_eq_ok_iff.mpr (hbefore earlier hmem))
      (read_eq_error_iff.mpr hfault) after

/-- **Nothing is built from a parse tree with a bad node**, and everything from one without. -/
theorem exists_build_eq_error_iff :
    (∃ cause, build normalizer raw lines = .error cause) ↔
      ∃ node ∈ raw.levelOrder, node.span.IsBad lines := by
  constructor
  · rintro ⟨cause, h⟩
    obtain ⟨before, node, after, hsplit, -, hbad, -⟩ := build_eq_error_iff_exists.mp h
    exact ⟨node, hsplit ▸ List.mem_append_right before List.mem_cons_self, hbad⟩
  · rintro ⟨node, hmem, hbad⟩
    cases hread : raw.levelOrder.mapM (NodeContent.read normalizer lines) with
    | error cause => exact ⟨cause, build_eq_error_iff.mpr hread⟩
    | ok contents =>
        -- All nodes were read, and among them the bad one.
        obtain ⟨i, hi⟩ := List.getElem?_of_mem hmem
        obtain ⟨content, -, hcontent⟩ := (getElem?_of_mapM_eq_ok hread).2 i node hi
        exact absurd hbad (exists_read_eq_ok_iff.mp ⟨content, hcontent⟩)

/-- **Building fails exactly on a parse tree with a bad span**, and reports the fault of the
first node that has one. -/
theorem rejectsFirstBad_build (normalizer : Normalizer) (raw : ParseTree)
    (lines : List String) : RejectsFirstBad normalizer raw lines where
  fails_iff := by
    rw [exists_build_eq_error_iff]
    constructor
    · rintro ⟨node, hmem, hbad⟩
      obtain ⟨route, hroute⟩ := mem_levelOrder_iff.mp hmem
      exact ⟨route, node, hroute, hbad⟩
    · rintro ⟨route, node, hroute, hbad⟩
      exact ⟨node, mem_levelOrder_iff.mpr ⟨route, hroute⟩, hbad⟩
  error_iff := fun _ => build_eq_error_iff_exists

end SyntaxTree

end SyntaxPaths
