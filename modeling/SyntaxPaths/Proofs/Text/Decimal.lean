import SyntaxPaths.Text.Decimal
import SyntaxPaths.Text.Reader

/-!
# Reading decimals back

The digits of a number stand for that number (`numberOfDigits_digits`).  Only zero begins with
a zero (`eq_zero_of_digits_append_eq_cons`), so there are no leading zeros to be skipped.
-/

namespace SyntaxPaths.Text

/-- Characters of different classes differ. -/
theorem ne_of_class {p : Char → Bool} {c d : Char} (hc : p c = true) (hd : p d = false) :
    c ≠ d := by
  rintro rfl
  rw [hc] at hd
  cases hd

theorem isDigit_of_mem_digits {c : Char} {n : Nat} (h : c ∈ digits n) : c.isDigit = true :=
  Nat.isDigit_of_mem_toDigits (by decide) (by decide) h

theorem digits_ne_nil (n : Nat) : digits n ≠ [] :=
  Nat.toDigits_ne_nil

/-- A number begins with a digit. -/
theorem exists_digits_eq_cons (n : Nat) : ∃ d ds, digits n = d :: ds ∧ d.isDigit = true := by
  obtain ⟨d, ds, hdigits⟩ := List.exists_cons_of_ne_nil (digits_ne_nil n)
  have hmem : d ∈ digits n := by
    rw [hdigits]
    exact List.mem_cons_self
  exact ⟨d, ds, hdigits, isDigit_of_mem_digits hmem⟩

/-- In base ten, digits are read as the library reads them. -/
theorem foldl_digits_eq_ofDigitChars {cs : List Char} (h : ∀ c ∈ cs, c.isDigit = true) (n : Nat) :
    cs.foldl (fun n c => 10 * n + (hexDigit? c).getD 0) n = Nat.ofDigitChars 10 cs n := by
  induction cs generalizing n with
  | nil => rfl
  | cons c cs ih =>
      obtain ⟨hc, hcs⟩ := List.forall_mem_cons.mp h
      rw [List.foldl_cons, ih hcs, Nat.ofDigitChars_cons, hexDigit?, if_pos hc]
      rfl

/-- **The digits of a number stand for it.** -/
theorem numberOfDigits_digits (n : Nat) : numberOfDigits 10 (digits n) = n := by
  rw [numberOfDigits, foldl_digits_eq_ofDigitChars fun c => isDigit_of_mem_digits]
  exact Nat.ofDigitChars_ten_toDigits

theorem eq_zero_of_digits_eq_cons {n : Nat} {cs : List Char} (h : digits n = '0' :: cs) :
    n = 0 := by
  induction n using Nat.strongRecOn generalizing cs with
  | ind n ih =>
      rw [digits, Nat.toDigits_eq_if (by decide)] at h
      split at h
      · exact Nat.digitChar_eq_zero.mp (List.cons.inj h).1
      · next hlarge =>
          -- The first digit is that of the tenth part, which is smaller, and not zero.
          obtain ⟨c, rest, hcons, -⟩ := exists_digits_eq_cons (n / 10)
          rw [← digits, hcons] at h
          obtain ⟨rfl, -⟩ := List.cons.inj h
          have hzero := ih (n / 10) (by omega) hcons
          omega

/-- **There are no leading zeros**, whatever stands behind the number. -/
theorem eq_zero_of_digits_append_eq_cons {n : Nat} {rest cs : List Char}
    (h : digits n ++ rest = '0' :: cs) : n = 0 := by
  obtain ⟨d, ds, hdigits, -⟩ := exists_digits_eq_cons n
  rw [hdigits] at h
  obtain ⟨rfl, -⟩ := List.cons.inj h
  exact eq_zero_of_digits_eq_cons hdigits

end SyntaxPaths.Text
