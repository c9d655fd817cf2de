import Mathlib.Data.List.Forall2
import SyntaxPaths.Proofs.Text.Settled

/-!
# The words of a text

Which words a text has is said here by the places where it is cut, and not by a walk through it.
Underscores divide the text into blocks.  Inside a block there is a cut between two letters
exactly where a word starts (`IsWordStart`): at a capital behind a small letter, and at a capital
behind another one if a small letter follows.

* **Cuts decide the pieces.**  Two lists of pieces that are not empty are equal if they have
  their cuts at the same places (`eq_of_cutsAfter_iff`), so a text has only one list of words.
* **The words that `tokenize` lowers** are this list (`isWordList_words`).  The look ahead is
  settled letter by letter: a first letter either stands alone in front of a cut, or joins the
  first piece of the rest and moves all other cuts by one place (`cutsAfter_consPiece`).

The joined text can be cut again into the same words, unless the text had separators of its own
(`exists_readsWords`).
-/

namespace SyntaxPaths.Text

/-! ### Cuts -/

section Cuts

variable {α : Type} {parts parts' : List (List α)} {piece front : List α}

/-- One of the pieces ends where `front` ends, or `front` is empty. -/
def CutsAfter (parts : List (List α)) (front : List α) : Prop :=
  ∃ init, init <+: parts ∧ init.flatten = front

theorem cutsAfter_nil (parts : List (List α)) : CutsAfter parts [] :=
  ⟨[], List.nil_prefix, rfl⟩

theorem cutsAfter_flatten (parts : List (List α)) : CutsAfter parts parts.flatten :=
  ⟨parts, List.prefix_rfl, rfl⟩

theorem cutsAfter_head (piece : List α) (parts : List (List α)) :
    CutsAfter (piece :: parts) piece :=
  ⟨[piece], List.prefix_append [piece] parts, List.flatten_singleton⟩

theorem cutsAfter_nil_iff : CutsAfter [] front ↔ front = [] := by
  constructor
  · rintro ⟨init, hinit, rfl⟩
    rw [List.prefix_nil.mp hinit, List.flatten_nil]
  · rintro rfl
    exact cutsAfter_nil []

/-- The first cut lies behind the first piece. -/
theorem cutsAfter_cons_iff :
    CutsAfter (piece :: parts) front ↔
      front = [] ∨ ∃ back, front = piece ++ back ∧ CutsAfter parts back := by
  constructor
  · rintro ⟨init, hinit, rfl⟩
    rcases List.prefix_cons_iff.mp hinit with rfl | ⟨rest, rfl, hrest⟩
    · exact Or.inl rfl
    · exact Or.inr ⟨rest.flatten, List.flatten_cons, rest, hrest, rfl⟩
  · rintro (rfl | ⟨back, rfl, init, hinit, rfl⟩)
    · exact cutsAfter_nil _
    · exact ⟨piece :: init, (List.prefix_cons_inj piece).mpr hinit, List.flatten_cons⟩

theorem cutsAfter_cons_append (hpiece : piece ≠ []) :
    CutsAfter (piece :: parts) (piece ++ front) ↔ CutsAfter parts front := by
  simp [cutsAfter_cons_iff, hpiece]

/-- A cut behind the first piece is none in front of its end. -/
theorem prefix_of_cutsAfter_cons (hfront : front ≠ []) (h : CutsAfter (piece :: parts) front) :
    piece <+: front := by
  rcases cutsAfter_cons_iff.mp h with hnil | ⟨back, rfl, -⟩
  · exact absurd hnil hfront
  · exact List.prefix_append piece back

/-- **Cuts decide the pieces**, if none of them is empty. -/
theorem eq_of_cutsAfter_iff (hparts : [] ∉ parts) (hparts' : [] ∉ parts')
    (h : ∀ front, CutsAfter parts front ↔ CutsAfter parts' front) : parts = parts' := by
  induction parts generalizing parts' with
  | nil =>
      have hwhole := (h parts'.flatten).mpr (cutsAfter_flatten parts')
      rw [cutsAfter_nil_iff, List.flatten_eq_nil_iff] at hwhole
      refine (List.eq_nil_iff_forall_not_mem.mpr fun piece hpiece => ?_).symm
      exact hparts' (hwhole piece hpiece ▸ hpiece)
  | cons piece parts ih =>
      obtain ⟨hpiece, hrest⟩ := List.ne_and_not_mem_of_not_mem_cons hparts
      cases parts' with
      | nil =>
          have hnone := (h piece).mp (cutsAfter_head piece parts)
          exact absurd (cutsAfter_nil_iff.mp hnone) hpiece.symm
      | cons piece' parts' =>
          obtain ⟨hpiece', hrest'⟩ := List.ne_and_not_mem_of_not_mem_cons hparts'
          -- Each list has a cut behind the first piece of the other one.
          have hcut' := (h piece).mp (cutsAfter_head piece parts)
          have hcut := (h piece').mpr (cutsAfter_head piece' parts')
          have hprefix' := prefix_of_cutsAfter_cons hpiece.symm hcut'
          have hprefix := prefix_of_cutsAfter_cons hpiece'.symm hcut
          obtain rfl := hprefix.eq_of_length_le hprefix'.length_le
          have htail : parts = parts' := by
            apply ih hrest hrest'
            intro front
            rw [← cutsAfter_cons_append hpiece.symm, h, cutsAfter_cons_append hpiece.symm]
          rw [htail]

/-- What lies in front of a cut is the beginning of the whole. -/
theorem CutsAfter.prefix_flatten (h : CutsAfter parts front) : front <+: parts.flatten := by
  obtain ⟨init, ⟨rest, rfl⟩, rfl⟩ := h
  rw [List.flatten_append]
  exact List.prefix_append _ _

end Cuts

/-! ### Places where a word starts -/

/-- **A word starts** between the two texts: at a capital behind a small letter, or at a capital
behind another one that is followed by a small letter. -/
def IsWordStart (front back : List Char) : Prop :=
  ∃ a ∈ front.getLast?, ∃ b ∈ back.head?,
    (a.isLower = true ∧ b.isUpper = true) ∨
      (a.isUpper = true ∧ b.isUpper = true ∧ ∃ c ∈ back[1]?, c.isLower = true)

/-- The look ahead of two letters tells whether a word starts. -/
theorem isWordStart_singleton {a b : Char} {rest : List Char} :
    IsWordStart [a] (b :: rest) ↔ startsWord a b rest = true := by
  cases rest <;> simp [IsWordStart, startsWord, and_assoc]

/-- Only the last letter in front of it counts. -/
theorem isWordStart_cons {front : List Char} (hfront : front ≠ []) (a : Char)
    (back : List Char) : IsWordStart (a :: front) back ↔ IsWordStart front back := by
  obtain ⟨b, front, rfl⟩ := List.exists_cons_of_ne_nil hfront
  rw [IsWordStart, IsWordStart, List.getLast?_cons_cons]

/-- **A text in words**: pieces that are not empty, with a cut inside the text exactly where a
word starts. -/
structure IsCutAtWords (cs : List Char) (parts : List (List Char)) : Prop where
  flatten_eq : parts.flatten = cs
  nil_notMem : [] ∉ parts
  cutsAfter_iff : ∀ front back, front ≠ [] → back ≠ [] → front ++ back = cs →
    (CutsAfter parts front ↔ IsWordStart front back)

/-- **There is one way** to cut a text in words. -/
theorem IsCutAtWords.unique {cs : List Char} {parts parts' : List (List Char)}
    (h : IsCutAtWords cs parts) (h' : IsCutAtWords cs parts') : parts = parts' := by
  apply eq_of_cutsAfter_iff h.nil_notMem h'.nil_notMem
  intro front
  by_cases hprefix : front <+: cs
  · obtain ⟨back, hback⟩ := hprefix
    by_cases hfront : front = []
    · rw [hfront]
      exact iff_of_true (cutsAfter_nil parts) (cutsAfter_nil parts')
    by_cases hlast : back = []
    · rw [hlast, List.append_nil] at hback
      rw [hback]
      have hwhole := cutsAfter_flatten parts
      have hwhole' := cutsAfter_flatten parts'
      rw [h.flatten_eq] at hwhole
      rw [h'.flatten_eq] at hwhole'
      exact iff_of_true hwhole hwhole'
    · rw [h.cutsAfter_iff front back hfront hlast hback,
        h'.cutsAfter_iff front back hfront hlast hback]
  · refine iff_of_false (fun hcuts => hprefix ?_) (fun hcuts => hprefix ?_)
    · exact h.flatten_eq ▸ hcuts.prefix_flatten
    · exact h'.flatten_eq ▸ hcuts.prefix_flatten

/-! ### The look ahead -/

/-- **A letter in front of the first piece** moves the cuts by one place. -/
theorem cutsAfter_consPiece {parts : List (List Char)} {front : List Char} (c : Char)
    (hfront : front ≠ []) :
    CutsAfter (consPiece c parts) (c :: front) ↔ CutsAfter parts front := by
  cases parts with
  | nil => simp [consPiece, cutsAfter_cons_iff, cutsAfter_nil_iff, hfront]
  | cons piece parts =>
      rw [consPiece, cutsAfter_cons_iff, cutsAfter_cons_iff]
      simp [hfront]

/-- There is no cut behind a letter that joins the first piece. -/
theorem not_cutsAfter_consPiece {parts : List (List Char)} (c : Char) (hne : parts ≠ [])
    (hparts : [] ∉ parts) : ¬CutsAfter (consPiece c parts) [c] := by
  obtain ⟨piece, parts, rfl⟩ := List.exists_cons_of_ne_nil hne
  have hpiece := (List.ne_and_not_mem_of_not_mem_cons hparts).1
  intro hcuts
  have hlength := (prefix_of_cutsAfter_cons (List.cons_ne_nil c []) hcuts).length_le
  rw [List.length_cons, List.length_singleton] at hlength
  exact hpiece (List.length_eq_zero_iff.mp (by omega)).symm

/-- **The pieces are cut where words start.** -/
theorem cutsAfter_camelPieces {front back : List Char} (hfront : front ≠ []) (hback : back ≠ []) :
    CutsAfter (camelPieces (front ++ back)) front ↔ IsWordStart front back := by
  induction front with
  | nil => exact absurd rfl hfront
  | cons a front ih =>
      cases front with
      | nil =>
          obtain ⟨b, rest, rfl⟩ := List.exists_cons_of_ne_nil hback
          rw [isWordStart_singleton, List.singleton_append, camelPieces_cons_cons]
          by_cases hstarts : startsWord a b rest = true
          · rw [if_pos hstarts]
            refine iff_of_true ?_ hstarts
            exact cutsAfter_head [a] _
          · rw [if_neg hstarts]
            refine iff_of_false (not_cutsAfter_consPiece a ?_ (nil_notMem_camelPieces _)) hstarts
            rw [Ne, camelPieces_eq_nil_iff]
            exact List.cons_ne_nil b rest
      | cons b front =>
          have hrest := ih (List.cons_ne_nil b front)
          rw [isWordStart_cons (List.cons_ne_nil b front), ← hrest, List.cons_append,
            List.cons_append, camelPieces_cons_cons]
          split
          · exact cutsAfter_cons_append (List.cons_ne_nil a [])
          · exact cutsAfter_consPiece a (List.cons_ne_nil b front)

theorem isCutAtWords_camelPieces (cs : List Char) : IsCutAtWords cs (camelPieces cs) where
  flatten_eq := flatten_camelPieces cs
  nil_notMem := nil_notMem_camelPieces cs
  cutsAfter_iff _ _ hfront hback heq := heq ▸ cutsAfter_camelPieces hfront hback

/-! ### Words -/

/-- **The words of a text**: its blocks between underscores, each cut in words. -/
def IsWordList (cs : List Char) (parts : List (List Char)) : Prop :=
  ∃ blocks, List.Forall₂ IsCutAtWords (cs.splitOn '_') blocks ∧ parts = blocks.flatten

theorem IsWordList.unique {cs : List Char} {parts parts' : List (List Char)}
    (h : IsWordList cs parts) (h' : IsWordList cs parts') : parts = parts' := by
  obtain ⟨blocks, hblocks, rfl⟩ := h
  obtain ⟨blocks', hblocks', rfl⟩ := h'
  have hunique : Relator.RightUnique IsCutAtWords := fun _ _ _ => IsCutAtWords.unique
  rw [hunique.forall₂ hblocks hblocks']

/-- **The words that are lowered** are the words of the text. -/
theorem isWordList_words (cs : List Char) : IsWordList cs (words cs) := by
  refine ⟨(cut (· == '_') cs).map camelPieces, ?_, ?_⟩
  · rw [List.forall₂_map_right_iff, cut_eq_splitOnP, List.splitOn]
    exact List.forall₂_same.mpr fun block _ => isCutAtWords_camelPieces block
  · rw [words, List.flatMap_def]

/-- **What a text of sub-tokens says about the words** it was made from. -/
structure ReadsWords (s : String) (parts : List (List Char)) : Prop where
  /-- They are words of the text. -/
  isWordList : IsWordList s.toList parts
  /-- The text has no other words. -/
  unique : ∀ other, IsWordList s.toList other → other = parts
  /-- Nothing is lost but the underscores. -/
  flatten_eq : parts.flatten = s.toList.filter (· != '_')
  /-- The sub-tokens are the lowercase forms of the words. -/
  tokenize_eq : tokenize s = join (parts.map fun word => String.ofList (lowered word))
  /-- No underscore is left. -/
  notMem_underscore : '_' ∉ (tokenize s).toList
  /-- No capital of ASCII is left. -/
  isUpper_eq_false : ∀ c ∈ (tokenize s).toList, c.isUpper = false
  /-- No sub-token is empty. -/
  ne_empty : ∀ word ∈ parts, String.ofList (lowered word) ≠ ""
  /-- Without separators in the text, its sub-tokens can be told apart. -/
  pieces_eq : separator ∉ s.toList → parts ≠ [] →
    pieces separator (tokenize s) = parts.map fun word => String.ofList (lowered word)

/-- A word without separators is not cut when its text is read back. -/
theorem pieces_lowered {word : List Char} (h : separator ∉ word) :
    pieces separator (String.ofList (lowered word)) = [String.ofList (lowered word)] := by
  apply pieces_eq_singleton
  rw [String.toList_ofList]
  intro hmem
  rcases mem_lowered hmem (by decide) with hword | hletter
  · exact h hword
  · exact absurd hletter (by decide)

/-- **Sub-tokens can be read back**, unless the text has separators of its own. -/
theorem pieces_tokenize {s : String} (hseparator : separator ∉ s.toList)
    (hwords : words s.toList ≠ []) :
    pieces separator (tokenize s) =
      (words s.toList).map fun word => String.ofList (lowered word) := by
  have hwhole : ∀ word ∈ words s.toList,
      pieces separator (String.ofList (lowered word)) = [String.ofList (lowered word)] :=
    fun word hword => pieces_lowered fun hmem => hseparator (mem_of_mem_words hword hmem).1
  rw [tokenize, pieces_join_of_ne_nil (mt List.map_eq_nil_iff.mp hwords), List.flatMap_map,
    List.flatMap_congr hwhole, ← List.map_eq_flatMap]

/-- **Sub-tokens and words.**  Every text has one list of words.  They hold all its characters
but the underscores, `tokenize` joins their lowercase forms, and these can be read back. -/
theorem exists_readsWords (s : String) : ∃ parts, ReadsWords s parts := by
  refine ⟨words s.toList, ?_⟩
  exact {
    isWordList := isWordList_words s.toList
    unique := fun other hother => hother.unique (isWordList_words s.toList)
    flatten_eq := flatten_words s.toList
    tokenize_eq := rfl
    notMem_underscore := fun hmem => (settled_of_mem_tokenize hmem).1 rfl
    isUpper_eq_false := fun c hc => (settled_of_mem_tokenize hc).2.isUpper_eq_false
    ne_empty := by
      intro word hword hempty
      rw [← String.toList_eq_nil_iff, String.toList_ofList, lowered_eq_nil_iff] at hempty
      exact nil_notMem_words s.toList (hempty ▸ hword)
    pieces_eq := pieces_tokenize }

end SyntaxPaths.Text
