import SyntaxPaths.Proofs.Text.Pieces
import SyntaxPaths.Session

/-!
# What a leaf path is made of

A leaf path is recorded by the pieces of its rendering, not by the parts that were
rendered.  This file says how far the two differ.

* **Parts.**  The anchors are those of two root paths.  What stands between them are labels
  of the two, and tokens for moves in styles that write these (`Merge.middle_subset`).
* **Pieces.**  A part without separators is read back as it is.  Any other part *spills*:
  its pieces are read as if they were parts of the path.  So an endpoint is an anchor or
  spilled (`endpoints_subset`), and an inner piece is an inner part or spilled
  (`interior_subset`).
-/

namespace SyntaxPaths

open Text

/-! ### Parts -/

namespace Merge

variable {u v : List String} {merge : Merge}

/-- A merge splits both lists: they share a beginning that ends in the summit. -/
theorem exists_append_of_merge? (h : merge? u v = some merge) :
    ∃ shared, u = shared ++ merge.summit :: merge.upward.reverse ∧
      v = shared ++ merge.summit :: merge.downward := by
  induction u generalizing v with
  | nil =>
      rw [merge?_nil_left] at h
      cases h
  | cons a u ih =>
      cases v with
      | nil =>
          rw [merge?_nil_right] at h
          cases h
      | cons b v =>
          rw [merge?_cons_cons] at h
          split at h
          · next hlabel =>
              subst hlabel
              cases hrest : merge? u v with
              | none =>
                  rw [hrest] at h
                  cases h
                  exact ⟨[], by simp, rfl⟩
              | some deeper =>
                  rw [hrest] at h
                  cases h
                  obtain ⟨shared, hu, hv⟩ := ih hrest
                  exact ⟨a :: shared, congrArg (a :: ·) hu, congrArg (a :: ·) hv⟩
          · cases h

/-- Every label on the way is a label of one of the lists. -/
theorem middle_labels_subset (h : merge? u v = some merge) : merge.middle .labels ⊆ u ++ v := by
  obtain ⟨shared, rfl, rfl⟩ := exists_append_of_merge? h
  intro label hlabel
  rcases List.mem_append.mp hlabel with hup | hdown
  · refine List.mem_append_left _ (List.mem_append_right _ (List.mem_cons_of_mem _ ?_))
    exact List.mem_reverse.mpr hup
  · exact List.mem_append_right _ (List.mem_append_right _ hdown)

end Merge

/-- The tokens for moves that a style writes. -/
def PathStyle.markers : PathStyle → List String
  | .labels => []
  | .moves | .labelsAndMoves => [Merge.up, Merge.down]

namespace Merge

theorem middle_moves_subset (merge : Merge) : merge.middle .moves ⊆ PathStyle.moves.markers := by
  intro token htoken
  rcases List.mem_append.mp htoken with hmem | hmem
  · obtain rfl := List.eq_of_mem_replicate hmem
    exact List.mem_cons_self
  · obtain rfl := List.eq_of_mem_replicate hmem
    exact List.mem_cons_of_mem _ List.mem_cons_self

/-- **In every style** labels on the way are written, or tokens for moves. -/
theorem middle_subset (merge : Merge) (style : PathStyle) :
    merge.middle style ⊆ merge.middle .labels ++ style.markers := by
  cases style with
  | labels => exact List.subset_append_left _ _
  | moves => exact List.subset_append_of_subset_right _ merge.middle_moves_subset
  | labelsAndMoves =>
      intro token htoken
      simp only [middle, PathStyle.markers, List.mem_append, List.mem_cons, List.mem_flatMap,
        List.not_mem_nil, or_false] at htoken ⊢
      rcases htoken with ⟨label, hmem, rfl | rfl⟩ | rfl | ⟨label, hmem, rfl | rfl⟩ <;> simp [*]

end Merge

/-- A leaf path has the anchors of its two root paths, and the middle of their merge. -/
theorem exists_merge_of_leafPath? {shape : LeafPathShape} {u v : RootPath} {path : LeafPath}
    (h : leafPath? shape u v = some path) :
    ∃ merge, merge? u.ancestors v.ancestors = some merge ∧ path.source = u.anchor ∧
      path.middle = merge.middle shape.style ∧ path.target = v.anchor := by
  obtain ⟨merge, hmerge, h⟩ := Option.bind_eq_some_iff.mp h
  split at h
  · cases h
    exact ⟨merge, hmerge, rfl, rfl, rfl⟩
  · cases h

/-! ### Pieces -/

theorem endpoints_cons_concat (first : String) (inner : List String) (last : String) :
    endpoints (first :: (inner ++ [last])) = [first, last] := by
  rw [endpoints, ← List.cons_append, List.dropLast_concat, List.getLast?_concat]
  rfl

theorem interior_cons_concat (first : String) (inner : List String) (last : String) :
    interior (first :: (inner ++ [last])) = inner := by
  rw [interior, ← List.cons_append, List.dropLast_concat]
  rfl

namespace LeafPath

variable (path : LeafPath)

/-- The parts that are rendered. -/
def parts : List String :=
  path.source :: path.middle ++ [path.target]

/-- The pieces of all parts that hold a separator. -/
def spilled : List String :=
  (path.parts.filter (separator ∈ ·.toList)).flatMap (pieces separator)

/-- The pieces of a path are those of its parts. -/
theorem tokens_eq :
    path.tokens = pieces separator path.source ++
      (path.middle.flatMap (pieces separator) ++ pieces separator path.target) := by
  rw [tokens, render, List.cons_append, pieces_join, List.flatMap_cons, List.flatMap_append,
    List.flatMap_singleton]

variable {path}

theorem pieces_subset_spilled {part : String} (h : part ∈ path.parts)
    (hseparator : separator ∈ part.toList) : pieces separator part ⊆ path.spilled := by
  intro piece hpiece
  exact List.mem_flatMap.mpr
    ⟨part, List.mem_filter.mpr ⟨h, decide_eq_true hseparator⟩, hpiece⟩

/-- **A piece is a part or spilled.** -/
theorem mem_append_spilled {labels : List String} {part piece : String} (h : part ∈ path.parts)
    (hlabel : part ∈ labels) (hpiece : piece ∈ pieces separator part) :
    piece ∈ labels ++ path.spilled := by
  by_cases hseparator : separator ∈ part.toList
  · exact List.mem_append_right _ (pieces_subset_spilled h hseparator hpiece)
  · rw [pieces_eq_singleton hseparator] at hpiece
    obtain rfl := List.mem_singleton.mp hpiece
    exact List.mem_append_left _ hlabel

/-- A part with several pieces is spilled altogether. -/
theorem pieces_subset_spilled_of_lt {part : String} (h : part ∈ path.parts)
    (hlt : 1 < (pieces separator part).length) : pieces separator part ⊆ path.spilled := by
  by_cases hseparator : separator ∈ part.toList
  · exact pieces_subset_spilled h hseparator
  · rw [pieces_eq_singleton hseparator] at hlt
    cases Nat.lt_irrefl 1 hlt

theorem spilled_eq_nil (h : ∀ part ∈ path.parts, separator ∉ part.toList) : path.spilled = [] := by
  rw [spilled, List.filter_eq_nil_iff.mpr fun part hpart => by simpa using h part hpart]
  rfl

theorem source_mem_parts : path.source ∈ path.parts := List.mem_cons_self

theorem target_mem_parts : path.target ∈ path.parts :=
  List.mem_append_right _ (List.mem_singleton_self _)

theorem mem_parts_of_mem_middle {part : String} (h : part ∈ path.middle) : part ∈ path.parts :=
  List.mem_append_left _ (List.mem_cons_of_mem _ h)

/-- The ends of a path are the first piece of its source and the last one of its target. -/
theorem exists_tokens_eq (path : LeafPath) :
    ∃ first rest init last, pieces separator path.source = first :: rest ∧
      pieces separator path.target = init ++ [last] ∧
      path.tokens =
        first :: ((rest ++ (path.middle.flatMap (pieces separator) ++ init)) ++ [last]) := by
  obtain ⟨first, rest, hsource⟩ :=
    List.exists_cons_of_ne_nil (pieces_ne_nil separator path.source)
  obtain hnil | ⟨init, last, htarget⟩ := List.eq_nil_or_concat (pieces separator path.target)
  · exact absurd hnil (pieces_ne_nil separator path.target)
  · rw [List.concat_eq_append] at htarget
    refine ⟨first, rest, init, last, hsource, htarget, ?_⟩
    rw [tokens_eq, hsource, htarget]
    simp only [List.cons_append, List.append_assoc]

/-- **The ends of a path** are its anchors, or spilled. -/
theorem endpoints_subset (path : LeafPath) :
    endpoints path.tokens ⊆ [path.source, path.target] ++ path.spilled := by
  obtain ⟨first, rest, init, last, hsource, htarget, htokens⟩ := path.exists_tokens_eq
  have hfirst : first ∈ pieces separator path.source := hsource ▸ List.mem_cons_self
  have hlast : last ∈ pieces separator path.target := htarget ▸ List.mem_concat_self
  rw [htokens, endpoints_cons_concat]
  refine List.cons_subset.mpr ⟨?_, List.cons_subset.mpr ⟨?_, List.nil_subset _⟩⟩
  · exact mem_append_spilled source_mem_parts List.mem_cons_self hfirst
  · exact mem_append_spilled target_mem_parts (List.mem_cons_of_mem _ List.mem_cons_self) hlast

/-- **What stands between them** is a label or move of the path, or spilled. -/
theorem interior_subset (path : LeafPath) :
    interior path.tokens ⊆ path.middle ++ path.spilled := by
  obtain ⟨first, rest, init, last, hsource, htarget, htokens⟩ := path.exists_tokens_eq
  rw [htokens, interior_cons_concat]
  intro token htoken
  rcases List.mem_append.mp htoken with hrest | hbehind
  · -- A piece behind the first one of the source.
    refine List.mem_append_right _ (pieces_subset_spilled_of_lt source_mem_parts ?_ ?_)
    · rw [hsource, List.length_cons]
      exact Nat.lt_add_of_pos_left (List.length_pos_of_mem hrest)
    · rw [hsource]
      exact List.mem_cons_of_mem _ hrest
  · rcases List.mem_append.mp hbehind with hmiddle | hinit
    · obtain ⟨part, hpart, hpiece⟩ := List.mem_flatMap.mp hmiddle
      exact mem_append_spilled (mem_parts_of_mem_middle hpart) hpart hpiece
    · -- A piece in front of the last one of the target.
      refine List.mem_append_right _ (pieces_subset_spilled_of_lt target_mem_parts ?_ ?_)
      · rw [htarget, List.length_append, List.length_singleton]
        exact Nat.lt_add_of_pos_left (List.length_pos_of_mem hinit)
      · rw [htarget]
        exact List.mem_append_left _ hinit

end LeafPath

end SyntaxPaths
