import SyntaxPaths.Label
import SyntaxPaths.Proofs.Text.Decimal

/-!
# What a mark keeps apart

A marked label is read back from its end: behind its last delimiter stand the four
coordinates, each up to the next divider.  So it tells both the label and the span, even
if the label itself holds delimiters, dividers or digits (`append_mark_inj`).  A stem is
read from the front, and tells the label only if that holds no delimiter (`stem_eq_self`).
-/

namespace SyntaxPaths

open Text

/-! ### Coordinates -/

theorem digits_inj {m n : Nat} (h : digits m = digits n) : m = n := by
  have hread := congrArg (fun cs => Nat.ofDigitChars 10 cs 0) h
  simpa [digits] using hread

/-- Neither a delimiter nor a divider stands among digits. -/
theorem not_mem_digits {c : Char} (h : c.isDigit = false) (n : Nat) : c ∉ digits n := by
  intro hmem
  exact ne_of_class (isDigit_of_mem_digits hmem) h rfl

/-- Two texts with a divider agree up to the first divider and behind it. -/
theorem append_cons_inj {α : Type} {d : α} {front front' back back' : List α}
    (hfront : d ∉ front) (hfront' : d ∉ front')
    (h : front ++ d :: back = front' ++ d :: back') : front = front' ∧ back = back' := by
  induction front generalizing front' with
  | nil =>
      cases front' with
      | nil => exact ⟨rfl, (List.cons.inj h).2⟩
      | cons item front' =>
          obtain ⟨rfl, -⟩ := List.cons.inj h
          exact absurd List.mem_cons_self hfront'
  | cons item front ih =>
      cases front' with
      | nil =>
          obtain ⟨rfl, -⟩ := List.cons.inj h
          exact absurd List.mem_cons_self hfront
      | cons item' front' =>
          obtain ⟨rfl, hrest⟩ := List.cons.inj h
          obtain ⟨rfl, rfl⟩ := ih (fun hmem => hfront (List.mem_cons_of_mem _ hmem))
            (fun hmem => hfront' (List.mem_cons_of_mem _ hmem)) hrest
          exact ⟨rfl, rfl⟩

/-- The coordinates of a span, with dividers between them. -/
def Span.coordinates (span : Span) : List Char :=
  digits span.start.row ++ coordinateDivider :: (digits span.start.column ++
    coordinateDivider :: (digits span.stop.row ++ coordinateDivider :: digits span.stop.column))

theorem Span.markChars_eq (span : Span) :
    span.markChars = markDelimiter :: span.coordinates := by
  simp [markChars, coordinates]

/-- The coordinates of a span hold no delimiter of marks. -/
theorem Span.not_mem_coordinates (span : Span) : markDelimiter ∉ span.coordinates := by
  have hdigits := not_mem_digits (show markDelimiter.isDigit = false by decide)
  have hdivider : markDelimiter ≠ coordinateDivider := by decide
  simp [coordinates, hdigits, hdivider]

/-- A mark holds digits, dividers and a delimiter, and no other character. -/
theorem Span.not_mem_mark (span : Span) {c : Char} (hdigit : c.isDigit = false)
    (hdelimiter : c ≠ markDelimiter) (hdivider : c ≠ coordinateDivider) :
    c ∉ span.mark.toList := by
  have hdigits := not_mem_digits hdigit
  rw [toList_mark, markChars_eq]
  simp [coordinates, hdigits, hdelimiter, hdivider]

theorem Span.coordinates_inj {s t : Span} (h : s.coordinates = t.coordinates) : s = t := by
  have hdigits := not_mem_digits (show coordinateDivider.isDigit = false by decide)
  obtain ⟨hrow, h⟩ := append_cons_inj (hdigits _) (hdigits _) h
  obtain ⟨hcolumn, h⟩ := append_cons_inj (hdigits _) (hdigits _) h
  obtain ⟨hrow', hcolumn'⟩ := append_cons_inj (hdigits _) (hdigits _) h
  obtain ⟨⟨row, column⟩, ⟨row', column'⟩⟩ := s
  obtain rfl := digits_inj hrow
  obtain rfl := digits_inj hcolumn
  obtain rfl := digits_inj hrow'
  obtain rfl := digits_inj hcolumn'
  rfl

/-! ### Labels -/

namespace Label

theorem beforeLastDelimiter_eq_none {cs : List Char} (h : markDelimiter ∉ cs) :
    beforeLastDelimiter cs = none := by
  induction cs with
  | nil => rfl
  | cons c cs ih =>
      rw [List.mem_cons, not_or] at h
      rw [beforeLastDelimiter_cons, ih h.2]
      exact if_neg (Ne.symm h.1)

/-- The last delimiter is the one behind which no other stands. -/
theorem beforeLastDelimiter_append_cons {back : List Char} (h : markDelimiter ∉ back)
    (front : List Char) : beforeLastDelimiter (front ++ markDelimiter :: back) = some front := by
  induction front with
  | nil =>
      rw [List.nil_append, beforeLastDelimiter_cons, beforeLastDelimiter_eq_none h]
      exact if_pos rfl
  | cons c front ih => rw [List.cons_append, beforeLastDelimiter_cons, ih]

/-- **Taking the mark away gives the label back.** -/
theorem unmark_append_mark (label : String) (span : Span) :
    unmark (label ++ span.mark) = label := by
  have hlast := beforeLastDelimiter_append_cons span.not_mem_coordinates label.toList
  rw [← Span.markChars_eq, ← Span.toList_mark, ← String.toList_append] at hlast
  rw [unmark, hlast]
  exact String.ofList_toList

theorem exists_beforeLastDelimiter {cs : List Char} (h : markDelimiter ∈ cs) :
    ∃ front, beforeLastDelimiter cs = some front ∧ front.length < cs.length := by
  induction cs with
  | nil => cases h
  | cons c cs ih =>
      rw [beforeLastDelimiter_cons]
      by_cases hcs : markDelimiter ∈ cs
      · obtain ⟨front, hfront, hlt⟩ := ih hcs
        rw [hfront]
        exact ⟨c :: front, rfl, Nat.succ_lt_succ hlt⟩
      · obtain rfl := (List.mem_cons.mp h).resolve_right hcs
        rw [beforeLastDelimiter_eq_none hcs]
        exact ⟨[], if_pos rfl, Nat.succ_pos _⟩

/-- Where there is no delimiter, nothing is taken away. -/
theorem unmark_eq_self {s : String} (h : markDelimiter ∉ s.toList) : unmark s = s := by
  rw [unmark, beforeLastDelimiter_eq_none h]

/-- Where there is one, something is. -/
theorem length_unmark_lt {s : String} (h : markDelimiter ∈ s.toList) :
    (unmark s).length < s.length := by
  obtain ⟨front, hfront, hlt⟩ := exists_beforeLastDelimiter h
  rw [← String.length_toList, ← String.length_toList, toList_unmark, hfront]
  exact hlt

theorem length_unmark_le (s : String) : (unmark s).length ≤ s.length := by
  by_cases hmem : markDelimiter ∈ s.toList
  · exact Nat.le_of_lt (length_unmark_lt hmem)
  · exact Nat.le_of_eq (congrArg String.length (unmark_eq_self hmem))

/-- A stem ends at the first delimiter, so a mark behind it does not change it. -/
theorem stem_append_mark (label : String) (span : Span) :
    stem (label ++ span.mark) = stem label := by
  have hfirst (front back : List Char) :
      (front ++ markDelimiter :: back).takeWhile (· ≠ markDelimiter) =
        front.takeWhile (· ≠ markDelimiter) := by
    induction front with
    | nil => rfl
    | cons c front ih => rw [List.cons_append, List.takeWhile_cons, List.takeWhile_cons, ih]
  rw [stem, String.toList_append, Span.toList_mark, Span.markChars_eq, hfirst, stem]

/-- A label without a delimiter is its own stem. -/
theorem stem_eq_self {label : String} (h : markDelimiter ∉ label.toList) : stem label = label := by
  have hne : ∀ c ∈ label.toList, decide (c ≠ markDelimiter) = true := by
    intro c hc
    exact decide_eq_true fun heq => h (heq ▸ hc)
  have hall : (label.toList ++ []).takeWhile (· ≠ markDelimiter) = label.toList ++ [] :=
    List.takeWhile_append_of_pos hne
  rw [List.append_nil] at hall
  rw [stem, hall, String.ofList_toList]

/-- **A marked label tells the label and the span.** -/
theorem append_mark_inj {label label' : String} {s t : Span}
    (h : label ++ s.mark = label' ++ t.mark) : label = label' ∧ s = t := by
  have hlabel : label = label' := by
    rw [← unmark_append_mark label s, h, unmark_append_mark]
  subst hlabel
  have hmark := congrArg String.toList h
  rw [String.toList_append, String.toList_append, List.append_cancel_left_eq, Span.toList_mark,
    Span.toList_mark, Span.markChars_eq, Span.markChars_eq] at hmark
  exact ⟨rfl, Span.coordinates_inj (List.cons.inj hmark).2⟩

/-- **Marks are faithful**: the label comes back when its mark is taken away, and marked labels
agree exactly if the labels and both points do. -/
theorem marksFaithfully (label label' : String) (start stop start' stop' : Point) :
    unmark (label ++ (Span.mk start stop).mark) = label ∧
      (label ++ (Span.mk start stop).mark = label' ++ (Span.mk start' stop').mark ↔
        label = label' ∧ start = start' ∧ stop = stop') := by
  constructor
  · exact unmark_append_mark label ⟨start, stop⟩
  · constructor
    · intro h
      obtain ⟨hlabel, hspan⟩ := append_mark_inj h
      obtain ⟨hstart, hstop⟩ := Span.mk.inj hspan
      exact ⟨hlabel, hstart, hstop⟩
    · rintro ⟨rfl, rfl, rfl⟩
      rfl

/-- Of a label that looks marked itself, only the mark behind it is taken away. -/
example : unmark ("a|b@0~0~0~3" ++ (Span.mk ⟨0, 0⟩ ⟨0, 3⟩).mark) = "a|b@0~0~0~3" := by
  decide +kernel

end Label

theorem Span.mark_inj {s t : Span} (h : s.mark = t.mark) : s = t :=
  (Label.append_mark_inj (congrArg ("" ++ ·) h)).2

end SyntaxPaths
