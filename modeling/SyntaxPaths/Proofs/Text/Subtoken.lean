import SyntaxPaths.Proofs.Text.Pieces
import SyntaxPaths.Text.Subtoken

/-!
# Texts without sub-tokens

No word is empty, and lowercasing makes none empty.  So a text has no sub-tokens exactly if
it is made of underscores (`tokenize_eq_empty_iff`).
-/

namespace SyntaxPaths.Text

/-! ### Lowercasing -/

theorem lowerChar_ne_nil (c : Char) : lowerChar c ≠ [] := by
  unfold lowerChar
  split
  · exact List.cons_ne_nil _ _
  · split
    · exact List.cons_ne_nil _ _
    · split <;> exact List.cons_ne_nil _ _

theorem lowerCharBetween_ne_nil (before : List Char) (c : Char) (after : List Char) :
    lowerCharBetween before c after ≠ [] := by
  unfold lowerCharBetween
  split
  · exact List.cons_ne_nil _ _
  · exact lowerChar_ne_nil c

/-- Lowercasing makes no text empty. -/
theorem lowered_eq_nil_iff {cs : List Char} : lowered cs = [] ↔ cs = [] := by
  cases cs with
  | nil => exact Iff.rfl
  | cons c cs =>
      rw [lowered, loweredAfter_cons, List.append_eq_nil_iff]
      refine iff_of_false ?_ (List.cons_ne_nil c cs)
      rintro ⟨hfirst, -⟩
      exact lowerCharBetween_ne_nil _ c cs hfirst

/-! ### Words -/

theorem nil_notMem_consPiece {c : Char} {parts : List (List Char)} (h : [] ∉ parts) :
    [] ∉ consPiece c parts := by
  cases parts with
  | nil => simp [consPiece]
  | cons piece rest =>
      have hrest : [] ∉ rest := fun hmem => h (List.mem_cons_of_mem piece hmem)
      simpa [consPiece] using hrest

/-- No piece is empty. -/
theorem nil_notMem_camelPieces (cs : List Char) : [] ∉ camelPieces cs := by
  fun_induction camelPieces cs with
  | case1 => exact List.not_mem_nil
  | case2 c => simp
  | case3 a b rest _ ih => simp [ih]
  | case4 a b rest _ ih => exact nil_notMem_consPiece ih

/-- Only the empty text has no pieces. -/
theorem camelPieces_eq_nil_iff {cs : List Char} : camelPieces cs = [] ↔ cs = [] := by
  constructor
  · intro h
    rw [← flatten_camelPieces cs, h, List.flatten_nil]
  · rintro rfl
    rfl

theorem nil_notMem_words (cs : List Char) : [] ∉ words cs := by
  rw [words, List.mem_flatMap]
  rintro ⟨piece, -, hmem⟩
  exact nil_notMem_camelPieces piece hmem

/-- **A text has no words** if it is made of underscores. -/
theorem words_eq_nil_iff {cs : List Char} : words cs = [] ↔ ∀ c ∈ cs, c = '_' := by
  have hflatten := flatten_cut (· == '_') cs
  rw [words, List.flatMap_eq_nil_iff]
  simp only [camelPieces_eq_nil_iff]
  rw [← List.flatten_eq_nil_iff, hflatten, List.filter_eq_nil_iff]
  simp

/-- **A text has no sub-tokens** exactly if it is made of underscores. -/
theorem tokenize_eq_empty_iff {s : String} : tokenize s = "" ↔ ∀ c ∈ s.toList, c = '_' := by
  rw [← words_eq_nil_iff, tokenize, join_eq_empty_iff, List.map_eq_nil_iff]
  refine or_iff_left fun hsingle => ?_
  -- A single empty sub-token would be an empty word.
  obtain ⟨word, hword, hempty⟩ := List.map_eq_singleton_iff.mp hsingle
  have hnil : word = [] := by
    have hchars := congrArg String.toList hempty
    rw [String.toList_ofList] at hchars
    exact lowered_eq_nil_iff.mp hchars
  refine nil_notMem_words s.toList ?_
  rw [hword, hnil]
  exact List.mem_singleton_self []

end SyntaxPaths.Text
