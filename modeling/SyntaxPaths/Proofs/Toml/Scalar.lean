import SyntaxPaths.Proofs.Text.Decimal
import SyntaxPaths.Toml.Document

/-!
# Values at the end of a line

Of all the forms that a value can have, two are written by this library: a number in decimal,
and a plain text between quotation marks.  Both are read back, with the end of the line left
over (`value_digits`, `value_quoted`).

A value is tried as a string, a date and a floating-point number before it is tried as an
integer.  A number in decimal is none of them: behind its digits the line ends, and no other
character follows that a date or a fraction would need (`expect_digits`).
-/

namespace SyntaxPaths.Toml

open Text

/-! ### Digits at the end of a line -/

section Digits

variable {ds : List Char} (h : ∀ c ∈ ds, c.isDigit = true) (rest : List Char)
include h

/-- Behind digits no other character is found before the end of the line. -/
theorem expect_digits {w : Char} (hdigit : w.isDigit = false) (hend : w ≠ '\n')
    (wanted : List Char) : expect (w :: wanted) (ds ++ '\n' :: rest) = none := by
  cases ds with
  | nil => exact if_neg (Ne.symm hend)
  | cons d ds =>
      have hne : d ≠ w := ne_of_class (h d List.mem_cons_self) hdigit
      exact if_neg hne

theorem manyDigits_append :
    manyDigits Char.isDigit (ds ++ '\n' :: rest) = (ds, '\n' :: rest) := by
  induction ds with
  | nil => rfl
  | cons d ds ih =>
      obtain ⟨hd, hds⟩ := List.forall_mem_cons.mp h
      rw [List.cons_append]
      unfold manyDigits
      split
      · next heq => cases heq
      · next heq =>
          obtain ⟨rfl, -⟩ := List.cons.inj heq
          cases hd
      · next heq =>
          obtain ⟨rfl, rfl⟩ := List.cons.inj heq
          rw [if_pos hd, ih hds]

theorem someDigits_append (hne : ds ≠ []) :
    someDigits Char.isDigit (ds ++ '\n' :: rest) = some (ds, '\n' :: rest) := by
  obtain ⟨d, ds, rfl⟩ := List.exists_cons_of_ne_nil hne
  obtain ⟨hd, hds⟩ := List.forall_mem_cons.mp h
  rw [List.cons_append, someDigits, if_pos hd, manyDigits_append hds]

/-- Digits of a fixed number are taken from the front of others. -/
theorem exists_of_fixedDigits {count low high value : Nat} {cs : List Char}
    (hfixed : fixedDigits count low high (ds ++ '\n' :: rest) = some (value, cs)) :
    ∃ ds' : List Char, (∀ c ∈ ds', c.isDigit = true) ∧ cs = ds' ++ '\n' :: rest := by
  rw [fixedDigits] at hfixed
  split at hfixed
  · next hall =>
      obtain ⟨-, rfl⟩ := Prod.mk.inj (Option.some.inj hfixed)
      simp only [Bool.and_eq_true, List.all_eq_true, decide_eq_true_eq] at hall
      have hle : count ≤ ds.length := by
        refine Nat.not_lt.mp fun hgt => ?_
        -- The end of the line would be among the digits.
        have hmem : '\n' ∈ (ds ++ '\n' :: rest).take count := by
          rw [List.take_append, List.mem_append]
          refine Or.inr ?_
          obtain ⟨k, hk⟩ : ∃ k, count - ds.length = k + 1 := ⟨count - ds.length - 1, by omega⟩
          rw [hk, List.take_succ_cons]
          exact List.mem_cons_self
        exact absurd (hall.1.1.2 _ hmem) (by decide)
      refine ⟨ds.drop count, fun c hc => h c (List.mem_of_mem_drop hc), ?_⟩
      exact List.drop_append_of_le_length hle
  · cases hfixed

theorem date_digits : date (ds ++ '\n' :: rest) = none := by
  simp only [date, Option.bind_eq_bind, Option.bind_eq_none_iff, Prod.forall]
  intro year cs hyear
  obtain ⟨ds', hds', rfl⟩ := exists_of_fixedDigits h rest hyear
  intro cs hcs
  rw [expect_digits hds' rest (by decide) (by decide)] at hcs
  cases hcs

theorem timeOfDay_digits : timeOfDay (ds ++ '\n' :: rest) = none := by
  simp only [timeOfDay, Option.bind_eq_bind, Option.bind_eq_none_iff, Prod.forall]
  intro hour cs hhour
  obtain ⟨ds', hds', rfl⟩ := exists_of_fixedDigits h rest hhour
  intro cs hcs
  rw [expect_digits hds' rest (by decide) (by decide)] at hcs
  cases hcs

theorem dateTime_digits : dateTime (ds ++ '\n' :: rest) = none := by
  rw [dateTime, date_digits h, timeOfDay_digits h]
  rfl

end Digits

/-! ### Numbers in decimal -/

section Number

variable (n : Nat) (rest : List Char)

theorem sign_digits : sign (digits n ++ '\n' :: rest) = (false, digits n ++ '\n' :: rest) := by
  obtain ⟨d, ds, hdigits, hd⟩ := exists_digits_eq_cons n
  rw [hdigits, List.cons_append]
  unfold sign
  split
  · next heq => cases heq; cases hd
  · next heq => cases heq; cases hd
  · rfl

/-- Behind a zero in front the line ends. -/
theorem eq_of_digits_append_eq {x : Char} {cs : List Char}
    (h : digits n ++ '\n' :: rest = '0' :: x :: cs) : x = '\n' := by
  obtain rfl := eq_zero_of_digits_append_eq_cons h
  exact (List.cons.inj (List.cons.inj h).2).1.symm

theorem decimalDigits_digits :
    decimalDigits (digits n ++ '\n' :: rest) = some (digits n, '\n' :: rest) := by
  unfold decimalDigits
  split
  · next cs heq =>
      obtain rfl := eq_zero_of_digits_append_eq_cons heq
      rw [← (List.cons.inj heq).2]
      rfl
  · exact someDigits_append (fun c => isDigit_of_mem_digits) rest (digits_ne_nil n)

theorem quotedString_digits : quotedString (digits n ++ '\n' :: rest) = none := by
  obtain ⟨d, ds, hdigits, hd⟩ := exists_digits_eq_cons n
  rw [hdigits, List.cons_append, quotedString, if_neg]
  rw [Bool.or_eq_true, decide_eq_true_iff, decide_eq_true_iff]
  rintro (rfl | rfl)
  · cases hd
  · cases hd

/-- A number in decimal is no floating-point number. -/
theorem float_digits : float (digits n ++ '\n' :: rest) = none := by
  have hdigits : ∀ c ∈ digits n, c.isDigit = true := fun c => isDigit_of_mem_digits
  have hfinite : finiteFloat (digits n ++ '\n' :: rest) = none := by
    simp only [finiteFloat, sign_digits, decimalDigits_digits, Option.bind_some]
    rfl
  have hspecial : specialFloat (digits n ++ '\n' :: rest) = none := by
    simp only [specialFloat, sign_digits]
    rw [expect_digits hdigits rest (by decide) (by decide),
      expect_digits hdigits rest (by decide) (by decide)]
    rfl
  rw [float, hfinite, hspecial]

theorem anyInteger_digits :
    anyInteger (digits n ++ '\n' :: rest) = some ((n : Int), '\n' :: rest) := by
  unfold anyInteger
  split
  · next heq => cases eq_of_digits_append_eq n rest heq
  · next heq => cases eq_of_digits_append_eq n rest heq
  · next heq => cases eq_of_digits_append_eq n rest heq
  · rw [sign_digits]
    simp only [decimalDigits_digits, Option.map_some, numberOfDigits_digits]
    rfl

/-- A number is read back if it fits in 64 bits with a sign. -/
theorem integer_digits (h : n < Nat.pow 2 63) :
    integer (digits n ++ '\n' :: rest) = some ((n : Int), '\n' :: rest) := by
  have hrange : isIntegerInRange n = true := by
    have hbound : Nat.pow 2 63 = 9223372036854775808 := by decide
    rw [isIntegerInRange, Bool.and_eq_true, decide_eq_true_iff, decide_eq_true_iff]
    omega
  rw [integer, anyInteger_digits, Option.bind_some]
  exact if_pos hrange

theorem scalar_digits (h : n < Nat.pow 2 63) :
    scalar (digits n ++ '\n' :: rest) = some (.integer n, '\n' :: rest) := by
  rw [scalar, quotedString_digits, dateTime_digits fun c => isDigit_of_mem_digits, float_digits,
    integer_digits n rest h]
  rfl

end Number

/-! ### Quoted texts -/

/-- The characters that stand for themselves between quotation marks. -/
def IsPlainText (text : List Char) : Prop :=
  ∀ c ∈ text, c ≠ quotationMark ∧ c ≠ '\\' ∧ isTextChar c = true

instance (text : List Char) : Decidable (IsPlainText text) :=
  -- The characters of the text are tried, not all characters that there are.
  List.decidableBAll _ text

section Quoted

variable {text : List Char} (h : IsPlainText text) (rest : List Char)
include h

theorem lineBody_append {fuel : Nat} (hfuel : text.length < fuel) :
    lineBody quotationMark fuel (text ++ quotationMark :: rest) = some (text, rest) := by
  induction text generalizing fuel with
  | nil =>
      obtain ⟨fuel, rfl⟩ := Nat.exists_eq_add_one_of_ne_zero (Nat.ne_of_gt hfuel)
      exact if_pos rfl
  | cons c text ih =>
      obtain ⟨fuel, rfl⟩ := Nat.exists_eq_add_one_of_ne_zero (Nat.ne_zero_of_lt hfuel)
      obtain ⟨⟨hmark, hescape, htext⟩, hrest⟩ := List.forall_mem_cons.mp h
      rw [List.cons_append, lineBody, if_neg hmark, if_neg (by simp [hescape]), if_pos htext,
        ih hrest (Nat.lt_of_succ_lt_succ hfuel)]
      rfl

theorem quotedString_append :
    quotedString (quotationMark :: text ++ quotationMark :: '\n' :: rest) =
      some (String.ofList text, '\n' :: rest) := by
  have hblock : expect [quotationMark, quotationMark, quotationMark]
      (quotationMark :: text ++ quotationMark :: '\n' :: rest) = none := by
    cases text with
    | nil => rfl
    | cons c text =>
        have hc : c ≠ quotationMark := (h c List.mem_cons_self).1
        rw [List.cons_append, expect_cons_cons, if_pos rfl, List.cons_append, expect_cons_cons,
          if_neg hc]
  have hbody : lineBody quotationMark ((text ++ quotationMark :: '\n' :: rest).length + 1)
      (text ++ quotationMark :: '\n' :: rest) = some (text, '\n' :: rest) := by
    apply lineBody_append h
    rw [List.length_append]
    omega
  rw [List.cons_append, quotedString, if_pos (by decide), stringBetween, ← List.cons_append, hblock]
  rw [List.cons_append, expect_cons_cons, if_pos rfl, expect_nil, Option.bind_some, lineString,
    hbody]
  rfl

theorem scalar_quoted :
    scalar (quotationMark :: text ++ quotationMark :: '\n' :: rest) =
      some (.string (String.ofList text), '\n' :: rest) := by
  rw [scalar, quotedString_append h]
  rfl

end Quoted

/-! ### Values -/

theorem value_cons {c : Char} (hbracket : c ≠ '[') (hbrace : c ≠ '{') (depth : Nat)
    (cs : List Char) : value (depth + 1) (c :: cs) = scalar (c :: cs) := by
  unfold value
  split
  · next heq => exact absurd (List.cons.inj heq).1 hbracket
  · next heq => exact absurd (List.cons.inj heq).1 hbrace
  · rfl

theorem skipBlanks_cons {c : Char} (h : isLineBlank c = false) (cs : List Char) :
    skipBlanks (c :: cs) = c :: cs := by
  rw [skipBlanks, List.dropWhile_cons_of_neg (Bool.eq_false_iff.mp h)]

/-- A text stands for a value that goes up to the end of the line. -/
structure ReadsAs (text : List Char) (item : Item) : Prop where
  /-- It does not begin with blanks. -/
  skipBlanks_eq (rest : List Char) : skipBlanks (text ++ '\n' :: rest) = text ++ '\n' :: rest
  /-- It is read as the value, and nothing else of the line is. -/
  value_eq (rest : List Char) :
    value (nestingLimit - 1) (text ++ '\n' :: rest) = some (item, '\n' :: rest)

/-- **A number in decimal** stands for the number, if that fits in 64 bits with a sign. -/
theorem readsAs_digits {n : Nat} (h : n < Nat.pow 2 63) : ReadsAs (digits n) (.integer n) := by
  obtain ⟨d, ds, hdigits, hd⟩ := exists_digits_eq_cons n
  have hne : ∀ c : Char, c.isDigit = false → d ≠ c := fun c hc => ne_of_class hd hc
  constructor
  · intro rest
    rw [hdigits, List.cons_append]
    apply skipBlanks_cons
    rw [isLineBlank, beq_eq_false_iff_ne.mpr (hne ' ' rfl), beq_eq_false_iff_ne.mpr (hne '\t' rfl)]
    rfl
  · intro rest
    have hscalar := scalar_digits n rest h
    rw [hdigits, List.cons_append] at hscalar ⊢
    rw [nestingLimit, value_cons (hne '[' rfl) (hne '{' rfl), hscalar]

/-- **A plain text between quotation marks** stands for the text. -/
theorem readsAs_quoted {text : List Char} (h : IsPlainText text) :
    ReadsAs (quotationMark :: text ++ [quotationMark]) (.string (String.ofList text)) := by
  constructor
  · intro rest
    exact skipBlanks_cons (by decide) _
  · intro rest
    have hscalar := scalar_quoted h rest
    rw [List.append_assoc, List.singleton_append]
    rw [List.cons_append] at hscalar ⊢
    rw [nestingLimit, value_cons (by decide) (by decide), hscalar]

end SyntaxPaths.Toml
