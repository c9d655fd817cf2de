import Mathlib.Data.List.Basic
import SyntaxPaths.Text.Pieces

/-!
# Pieces of joined texts

Cutting a text at its dividers is cutting each of its parts, as long as the parts are
divided: nothing is cut across a divider (`cut_append_cons`).  So the pieces of a joined
text are the pieces of its parts, one part after the other (`pieces_join`), and a piece is a
whole part exactly if that has no divider (`eq_iff_of_mem_pieces`).

Pieces hold all characters but the dividers (`flatten_cut`).  So a text of dividers alone has
empty pieces only (`filter_pieces_eq_nil_iff`), and no other text has.
-/

namespace SyntaxPaths.Text

/-- Pieces are cut as the library cuts lists. -/
theorem cut_eq_splitOnP (divides : Char → Bool) (cs : List Char) :
    cut divides cs = cs.splitOnP divides := by
  induction cs with
  | nil => rfl
  | cons c cs ih =>
      rw [cut, ih, List.splitOnP_cons_eq_if_modifyHead]
      split
      · rfl
      · cases hpieces : cs.splitOnP divides with
        | nil => exact absurd hpieces (ih ▸ cut_ne_nil divides cs)
        | cons piece rest => rfl

/-- **Nothing is cut across a divider.** -/
theorem cut_append_cons {divides : Char → Bool} {d : Char} (h : divides d = true)
    (front back : List Char) :
    cut divides (front ++ d :: back) = cut divides front ++ cut divides back := by
  rw [cut_eq_splitOnP, cut_eq_splitOnP, cut_eq_splitOnP, List.splitOnP_append_cons front back h]

/-- **A text without dividers** is its only piece. -/
theorem pieces_eq_singleton {divider : Char} {s : String} (h : divider ∉ s.toList) :
    pieces divider s = [s] := by
  have hwhole : ∀ c ∈ s.toList, (c == divider) = false := by
    intro c hc
    exact beq_eq_false_iff_ne.mpr fun heq => h (heq ▸ hc)
  rw [pieces, cut_eq_splitOnP, List.splitOnP_eq_singleton hwhole, List.map_singleton,
    String.ofList_toList]

/-- **Without dividers in the back part**, it goes to the last piece of the front part. -/
theorem exists_cut_append {divides : Char → Bool} {back : List Char}
    (h : ∀ c ∈ back, divides c = false) (front : List Char) :
    ∃ init last, cut divides front = init ++ [last] ∧
      cut divides (front ++ back) = init ++ [last ++ back] := by
  induction front with
  | nil =>
      refine ⟨[], [], rfl, ?_⟩
      rw [List.nil_append, cut_eq_splitOnP, List.splitOnP_eq_singleton h]
      rfl
  | cons c front ih =>
      obtain ⟨init, last, hfront, hwhole⟩ := ih
      rw [List.cons_append]
      by_cases hc : divides c = true
      · rw [cut_cons_of_divides hc, cut_cons_of_divides hc, hfront, hwhole]
        exact ⟨[] :: init, last, rfl, rfl⟩
      · rw [cut, cut, if_neg hc, if_neg hc, hfront, hwhole]
        cases init with
        | nil => exact ⟨[], c :: last, rfl, rfl⟩
        | cons piece init => exact ⟨(c :: piece) :: init, last, rfl, rfl⟩

theorem exists_pieces_append {divider : Char} {back : String} (h : divider ∉ back.toList)
    (front : String) : ∃ init last, pieces divider front = init ++ [last] ∧
      pieces divider (front ++ back) = init ++ [last ++ back] := by
  have hback : ∀ c ∈ back.toList, (c == divider) = false := by
    intro c hc
    exact beq_eq_false_iff_ne.mpr fun heq => h (heq ▸ hc)
  obtain ⟨init, last, hfront, hwhole⟩ := exists_cut_append hback front.toList
  refine ⟨init.map String.ofList, String.ofList last, ?_, ?_⟩
  · rw [pieces, hfront, List.map_append, List.map_singleton]
  · rw [pieces, String.toList_append, hwhole, List.map_append, List.map_singleton,
      String.ofList_append, String.ofList_toList]

theorem pieces_ne_nil (divider : Char) (s : String) : pieces divider s ≠ [] :=
  fun h => cut_ne_nil _ s.toList (List.map_eq_nil_iff.mp h)

/-- Between two parts of a joined text stands a separator. -/
theorem toList_join_cons_cons (part next : String) (parts : List String) :
    (join (part :: next :: parts)).toList =
      part.toList ++ separator :: (join (next :: parts)).toList := by
  simp [join, String.intercalate_cons_cons]

/-- A character of a joined text is the separator, or a character of one of its parts. -/
theorem mem_toList_join {parts : List String} {c : Char} (h : c ∈ (join parts).toList) :
    c = separator ∨ ∃ part ∈ parts, c ∈ part.toList := by
  induction parts with
  | nil => cases h
  | cons part parts ih =>
      cases parts with
      | nil =>
          rw [join, String.intercalate_singleton] at h
          exact Or.inr ⟨part, List.mem_cons_self, h⟩
      | cons next parts =>
          rw [toList_join_cons_cons, List.mem_append, List.mem_cons] at h
          rcases h with hpart | hseparator | hrest
          · exact Or.inr ⟨part, List.mem_cons_self, hpart⟩
          · exact Or.inl hseparator
          · refine (ih hrest).imp_right ?_
            rintro ⟨other, hother, hc⟩
            exact ⟨other, List.mem_cons_of_mem part hother, hc⟩

/-- **The pieces of a joined text** are the pieces of its parts. -/
theorem pieces_join (part : String) (parts : List String) :
    pieces separator (join (part :: parts)) = (part :: parts).flatMap (pieces separator) := by
  induction parts generalizing part with
  | nil => rw [join, String.intercalate_singleton, List.flatMap_singleton]
  | cons next parts ih =>
      rw [List.flatMap_cons, ← ih next, pieces, toList_join_cons_cons, cut_append_cons (by rfl),
        List.map_append, pieces, pieces]

theorem pieces_join_of_ne_nil {parts : List String} (h : parts ≠ []) :
    pieces separator (join parts) = parts.flatMap (pieces separator) := by
  obtain ⟨part, rest, rfl⟩ := List.exists_cons_of_ne_nil h
  exact pieces_join part rest

/-- **A text is its pieces, joined.** -/
theorem join_pieces (s : String) : join (pieces separator s) = s := by
  have hsplit : cut (· == separator) s.toList = s.toList.splitOn separator :=
    cut_eq_splitOnP _ _
  have hchars : (pieces separator s).map String.toList = s.toList.splitOn separator := by
    rw [pieces, hsplit, List.map_map]
    simp [Function.comp_def]
  rw [← String.toList_inj, join, String.toList_intercalate, hchars, String.toList_singleton,
    List.intercalate_splitOn]

/-- Parts may be cut before they are joined. -/
theorem join_flatMap_pieces (parts : List String) :
    join (parts.flatMap (pieces separator)) = join parts := by
  cases parts with
  | nil => rfl
  | cons part parts => rw [← pieces_join, join_pieces]

/-- A joined text is empty if there are no parts, or a single one that is empty. -/
theorem join_eq_empty_iff {parts : List String} : join parts = "" ↔ parts = [] ∨ parts = [""] := by
  cases parts with
  | nil => simp [join]
  | cons part parts =>
      cases parts with
      | nil => simp [join]
      | cons next parts =>
          simp [← String.toList_eq_nil_iff, toList_join_cons_cons]

/-- **Cutting loses the dividers** and nothing else. -/
theorem flatten_cut (divides : Char → Bool) (cs : List Char) :
    (cut divides cs).flatten = cs.filter (!divides ·) := by
  induction cs with
  | nil => rfl
  | cons c cs ih =>
      by_cases hc : divides c = true
      · rw [cut_cons_of_divides hc, List.flatten_cons, List.nil_append, ih]
        simp [hc]
      · cases hcut : cut divides cs with
        | nil => exact absurd hcut (cut_ne_nil divides cs)
        | cons piece rest =>
            rw [hcut, List.flatten_cons] at ih
            simp [cut, hc, hcut, ih]

/-- A piece holds no divider. -/
theorem not_mem_of_mem_pieces {divider : Char} {s piece : String}
    (h : piece ∈ pieces divider s) : divider ∉ piece.toList := by
  intro hc
  obtain ⟨cs, hcs, rfl⟩ := List.mem_map.mp h
  rw [String.toList_ofList] at hc
  have hmem := List.mem_flatten.mpr ⟨cs, hcs, hc⟩
  rw [flatten_cut] at hmem
  simp at hmem

/-- Pieces are not cut again. -/
theorem flatMap_pieces_pieces (divider : Char) (s : String) :
    (pieces divider s).flatMap (pieces divider) = pieces divider s := by
  have hwhole : ∀ piece ∈ pieces divider s, pieces divider piece = [piece] :=
    fun piece hpiece => pieces_eq_singleton (not_mem_of_mem_pieces hpiece)
  rw [List.flatMap_congr hwhole, List.flatMap_singleton']

/-- A piece is the whole text exactly if that has no divider. -/
theorem eq_iff_of_mem_pieces {divider : Char} {s piece : String}
    (h : piece ∈ pieces divider s) : piece = s ↔ divider ∉ s.toList := by
  constructor
  · rintro rfl
    exact not_mem_of_mem_pieces h
  · intro hnot
    rw [pieces_eq_singleton hnot] at h
    exact List.mem_singleton.mp h

/-- A text has one piece exactly if it has no divider. -/
theorem length_pieces_eq_one_iff {divider : Char} {s : String} :
    (pieces divider s).length = 1 ↔ divider ∉ s.toList := by
  constructor
  · intro h hmem
    have hpos : 0 < s.toList.countP (· == divider) :=
      List.countP_pos_iff.mpr ⟨divider, hmem, beq_self_eq_true divider⟩
    rw [pieces, List.length_map, length_cut] at h
    omega
  · intro h
    rw [pieces_eq_singleton h, List.length_singleton]

/-- The empty text is its only piece, and no other text has one empty piece. -/
theorem pieces_eq_singleton_empty_iff (divider : Char) {s : String} :
    pieces divider s = [""] ↔ s = "" := by
  constructor
  · intro h
    have hnot : divider ∉ s.toList := length_pieces_eq_one_iff.mp (congrArg List.length h)
    rw [pieces_eq_singleton hnot] at h
    exact List.singleton_inj.mp h
  · rintro rfl
    rfl

/-- **A text of dividers alone** has no piece that is not empty. -/
theorem filter_pieces_eq_nil_iff {divider : Char} {s : String} :
    (pieces divider s).filter (!·.isEmpty) = [] ↔ ∀ c ∈ s.toList, c = divider := by
  have hflatten := flatten_cut (· == divider) s.toList
  rw [List.filter_eq_nil_iff, pieces, List.forall_mem_map]
  constructor
  · intro h c hc
    by_contra hne
    have hmem : c ∈ (cut (· == divider) s.toList).flatten := by
      rw [hflatten, List.mem_filter]
      exact ⟨hc, by simp [hne]⟩
    obtain ⟨piece, hpiece, hin⟩ := List.mem_flatten.mp hmem
    have hempty : piece = [] := by simpa using h piece hpiece
    rw [hempty] at hin
    cases hin
  · intro h piece hpiece
    have hnone : (cut (· == divider) s.toList).flatten = [] := by
      rw [hflatten, List.filter_eq_nil_iff]
      intro c hc
      simp [h c hc]
    simp [List.flatten_eq_nil_iff.mp hnone piece hpiece]

end SyntaxPaths.Text
