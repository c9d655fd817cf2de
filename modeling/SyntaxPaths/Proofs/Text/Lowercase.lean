import Mathlib.Data.List.Basic
import SyntaxPaths.Text.Blank
import SyntaxPaths.Text.Lowercase

/-!
# What lowercasing brings into a text

Lowercasing can turn a letter of another script into an ASCII character: the Kelvin sign
becomes `k`, and `İ` becomes `i` with a combining dot.  These are small letters, and other
ASCII characters do not arise (`mem_lowered`).  So dividers, delimiters and separators are in
a lowered text only if they were in the text before (`not_mem_lowercase_trim`).
-/

namespace SyntaxPaths.Text

/-! ### The table of capitals -/

/-- The code point of `k`, the only ASCII character that the table leads to. -/
def smallK : Nat := 0x6B

/-- A run of capitals leads to code points of characters outside ASCII, or is the single
capital that leads to `k`. -/
def LoweringRun.IsForeign (run : LoweringRun) : Prop :=
  (0x80 ≤ run.first + run.shift ∧
      (run.last + run.shift < 0xD800 ∨
        0xDFFF < run.first + run.shift ∧ run.last + run.shift < 0x110000)) ∨
    (run.first = run.last ∧ run.first + run.shift = smallK)

instance (run : LoweringRun) : Decidable run.IsForeign :=
  inferInstanceAs (Decidable (_ ∨ _))

theorem isForeign_of_mem_loweringRuns : ∀ run ∈ loweringRuns, run.IsForeign := by
  decide +kernel

/-- What the table gives is `k` or the code point of a character outside ASCII. -/
theorem loweredPoint_eq_some {n m : Nat} (h : loweredPoint n = some m) :
    m = smallK ∨ 0x80 ≤ m ∧ m.isValidChar := by
  obtain ⟨run, hfind, rfl⟩ := Option.map_eq_some_iff.mp h
  have hholds := List.find?_some hfind
  have hforeign := isForeign_of_mem_loweringRuns run (List.mem_of_find?_eq_some hfind)
  simp only [LoweringRun.holds, Bool.and_eq_true, decide_eq_true_eq] at hholds
  obtain ⟨⟨hfirst, hlast⟩, -⟩ := hholds
  unfold LoweringRun.lower Nat.isValidChar
  rcases hforeign with ⟨houtside, hvalid⟩ | ⟨hsingle, hk⟩
  · right
    omega
  · left
    omega

/-! ### Characters and texts -/

theorem toNat_ofNat {n : Nat} (h : n.isValidChar) : (Char.ofNat n).toNat = n := by
  unfold Char.ofNat
  rw [dif_pos h]
  rfl

/-- In ASCII, what is no small letter after lowercasing was not changed. -/
theorem toLower_ofNat : ∀ n < 0x80,
    (Char.ofNat n).toLower = Char.ofNat n ∨ (Char.ofNat n).toLower.isLower = true := by
  decide

/-- **An ASCII character** in the lowercase form of a character is that character itself, or a
small letter. -/
theorem mem_lowerChar {c d : Char} (h : d ∈ lowerChar c) (hascii : d.toNat < 0x80) :
    d = c ∨ d.isLower = true := by
  unfold lowerChar at h
  split at h
  · next hbelow =>
      obtain rfl := List.mem_singleton.mp h
      have hsmall := toLower_ofNat c.toNat hbelow
      rwa [Char.ofNat_toNat] at hsmall
  · split at h
    · rcases List.mem_cons.mp h with rfl | h
      · exact Or.inr rfl
      · obtain rfl := List.mem_singleton.mp h
        exact absurd hascii (by decide)
    · split at h
      · next n hpoint =>
          obtain rfl := List.mem_singleton.mp h
          rcases loweredPoint_eq_some hpoint with rfl | ⟨houtside, hvalid⟩
          · exact Or.inr rfl
          · rw [toNat_ofNat hvalid] at hascii
            exact absurd hascii (Nat.not_lt.mpr houtside)
      · exact Or.inl (List.mem_singleton.mp h)

theorem mem_lowerCharBetween {before after : List Char} {c d : Char}
    (h : d ∈ lowerCharBetween before c after) (hascii : d.toNat < 0x80) :
    d = c ∨ d.isLower = true := by
  unfold lowerCharBetween at h
  split at h
  · obtain rfl := List.mem_singleton.mp h
    split at hascii
    · exact absurd hascii (by decide)
    · exact absurd hascii (by decide)
  · exact mem_lowerChar h hascii

theorem mem_loweredAfter {before cs : List Char} {d : Char} (h : d ∈ loweredAfter before cs)
    (hascii : d.toNat < 0x80) : d ∈ cs ∨ d.isLower = true := by
  induction cs generalizing before with
  | nil => cases h
  | cons c cs ih =>
      rw [loweredAfter_cons, List.mem_append] at h
      rcases h with h | h
      · rcases mem_lowerCharBetween h hascii with rfl | hletter
        · exact Or.inl List.mem_cons_self
        · exact Or.inr hletter
      · exact (ih h).imp_left (List.mem_cons_of_mem c)

/-- **An ASCII character of a lowered text** was in the text, or is a small letter. -/
theorem mem_lowered {cs : List Char} {d : Char} (h : d ∈ lowered cs) (hascii : d.toNat < 0x80) :
    d ∈ cs ∨ d.isLower = true :=
  mem_loweredAfter h hascii

theorem trimmed_subset (cs : List Char) : trimmed cs ⊆ cs := by
  intro c hc
  have hback := (List.dropWhile_suffix isBlank).subset (List.mem_reverse.mp hc)
  exact (List.dropWhile_suffix isBlank).subset (List.mem_reverse.mp hback)

/-- Neither trimming nor lowercasing brings an ASCII character into a text, apart from small
letters. -/
theorem not_mem_lowercase_trim {s : String} {d : Char} (hascii : d.toNat < 0x80)
    (hlower : d.isLower = false) (h : d ∉ s.toList) : d ∉ (lowercase (trim s)).toList := by
  intro hmem
  rw [toList_lowercase, toList_trim] at hmem
  rcases mem_lowered hmem hascii with hmem | hletter
  · exact h (trimmed_subset s.toList hmem)
  · rw [hlower] at hletter
    cases hletter

end SyntaxPaths.Text
