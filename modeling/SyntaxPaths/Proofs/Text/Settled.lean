import SyntaxPaths.Proofs.Text.Lowercase
import SyntaxPaths.Proofs.Text.Subtoken

/-!
# Settled texts

A character is settled if lowercasing leaves it as it is, whatever stands around it
(`IsSettled`).  What lowercasing gives is settled (`isSettled_of_mem_lowered`), so that lowering
a text a second time changes nothing (`lowered_lowered`).

* **No capital leads to another one.**  The small letters of a run either lie apart from every
  run, or take turns with the capitals of one (`LoweringRun.misses`).  This is checked for the
  whole table (`misses_of_mem_loweringRuns`).
* **No context is left.**  Only a capital sigma is lowered with a look at its neighbours, and
  neither of its small letters is one.  So it does no harm that words are lowered on their own
  and are then neighbours in one text.

A text of sub-tokens has no underscore and no capital of ASCII, hence no place where a new word
starts.  It is one word that is settled throughout, and such texts are exactly those that
`tokenize` leaves alone (`tokenize_eq_self_iff`).
-/

namespace SyntaxPaths.Text

/-! ### The table of capitals -/

/-- The capital `İ`, with two characters as its lowercase form, as a run of its own. -/
def dottedCapital : LoweringRun where
  first := 0x130
  last := 0x130
  stride := 1
  shift := 0

/-- No small letter of the run is a capital of the other one: the two lie apart, or every second
code point is a small letter of the first and the others are capitals of the second. -/
def LoweringRun.misses (run other : LoweringRun) : Bool :=
  Nat.blt (run.lower run.last) other.first || Nat.blt other.last (run.lower run.first) ||
    ((Nat.beq run.stride 2 || Nat.beq run.first run.last) && Nat.beq other.stride 2 &&
      Nat.beq ((run.lower run.first + other.first) % 2) 1)

theorem misses_of_mem_loweringRuns :
    (loweringRuns.all fun run => (dottedCapital :: loweringRuns).all run.misses) = true := by
  decide +kernel

/-- **A run leads to no capital** of a run that it misses. -/
theorem LoweringRun.not_holds_of_misses {run other : LoweringRun} (h : run.misses other = true)
    (hforeign : run.IsForeign) {n : Nat} (hn : run.holds n = true) :
    other.holds (run.lower n) = false := by
  have hshift : 0 ≤ (run.first : Int) + run.shift := by
    rcases hforeign with ⟨houtside, -⟩ | ⟨-, hk⟩
    · omega
    · rw [hk]
      exact Int.natCast_nonneg smallK
  simp only [holds, Bool.and_eq_true, decide_eq_true_eq, beq_iff_eq] at hn
  obtain ⟨⟨hfirst, hlast⟩, hstride⟩ := hn
  -- The small letters of the run lie in the same order and as far apart as its capitals.
  have hlower : ∀ k, run.first ≤ k → (run.lower k : Int) = k + run.shift :=
    fun k hk => Int.toNat_of_nonneg (by omega)
  have hsmall := hlower n hfirst
  have hleast := hlower run.first (Nat.le_refl _)
  have hgreatest := hlower run.last (Nat.le_trans hfirst hlast)
  simp only [misses, Bool.or_eq_true, Bool.and_eq_true, Nat.blt_eq, Nat.beq_eq] at h
  rw [Bool.eq_false_iff]
  intro hholds
  simp only [holds, Bool.and_eq_true, decide_eq_true_eq, beq_iff_eq] at hholds
  obtain ⟨⟨hfirst', hlast'⟩, hstride'⟩ := hholds
  rcases h with (hbelow | habove) | ⟨⟨hrun, hother⟩, hturns⟩
  · omega
  · omega
  · rw [hother] at hstride'
    rcases hrun with htwo | hsingle
    · rw [htwo] at hstride
      omega
    · omega

/-- **What the table gives** is not in the table again, and is not `İ`. -/
theorem loweredPoint_of_eq_some {n m : Nat} (h : loweredPoint n = some m) :
    m ≠ 0x130 ∧ loweredPoint m = none := by
  obtain ⟨run, hfind, rfl⟩ := Option.map_eq_some_iff.mp h
  have hmem := List.mem_of_find?_eq_some hfind
  have hholds : run.holds n = true := by simpa using List.find?_some hfind
  have hmisses := List.all_eq_true.mp misses_of_mem_loweringRuns run hmem
  have hnot : ∀ other ∈ dottedCapital :: loweringRuns, other.holds (run.lower n) = false := by
    intro other hother
    exact LoweringRun.not_holds_of_misses (List.all_eq_true.mp hmisses other hother)
      (isForeign_of_mem_loweringRuns run hmem) hholds
  constructor
  · intro hdotted
    have hself := hnot dottedCapital List.mem_cons_self
    rw [hdotted] at hself
    exact absurd hself (by decide)
  · rw [loweredPoint, Option.map_eq_none_iff, List.find?_eq_none]
    intro other hother
    rw [hnot other (List.mem_cons_of_mem _ hother)]
    exact Bool.false_ne_true

/-! ### Characters -/

/-- **Lowercasing leaves the character as it is**, wherever it stands. -/
def IsSettled (c : Char) : Prop :=
  ∀ before after, lowerCharBetween before c after = [c]

theorem isSettled_of_lowerChar_eq {c : Char} (hsigma : c ≠ 'Σ') (h : lowerChar c = [c]) :
    IsSettled c := by
  intro before after
  rw [lowerCharBetween, if_neg hsigma, h]

/-- A character outside ASCII that is no capital is settled. -/
theorem isSettled_of_loweredPoint_eq_none {c : Char} (houtside : 0x80 ≤ c.toNat)
    (hdotted : c.toNat ≠ 0x130) (h : loweredPoint c.toNat = none) :
    IsSettled c := by
  apply isSettled_of_lowerChar_eq
  · rintro rfl
    exact absurd h (by decide +kernel)
  · rw [lowerChar, if_neg (Nat.not_lt.mpr houtside), if_neg hdotted, h]

theorem toLower_toLower_ofNat : ∀ n < 0x80,
    (Char.ofNat n).toLower.toNat < 0x80 ∧ (Char.ofNat n).toLower.isUpper = false ∧
      (Char.ofNat n).toLower.toLower = (Char.ofNat n).toLower := by
  decide

theorem isSettled_toLower {c : Char} (h : c.toNat < 0x80) : IsSettled c.toLower := by
  have hlower := toLower_toLower_ofNat c.toNat h
  rw [Char.ofNat_toNat] at hlower
  obtain ⟨hascii, -, htwice⟩ := hlower
  apply isSettled_of_lowerChar_eq
  · intro hsigma
    rw [hsigma] at hascii
    exact absurd hascii (by decide)
  · rw [lowerChar, if_pos hascii, htwice]

/-- **The lowercase form of a character** is settled. -/
theorem isSettled_of_mem_lowerChar {c d : Char} (h : d ∈ lowerChar c) : IsSettled d := by
  unfold lowerChar at h
  split at h
  · next hbelow =>
      obtain rfl := List.mem_singleton.mp h
      exact isSettled_toLower hbelow
  · next habove =>
      split at h
      · -- The small letter and the dot that make up the lowercase form of `İ`.
        rcases List.mem_cons.mp h with rfl | h
        · exact isSettled_toLower (c := 'i') (by decide)
        · obtain rfl := List.mem_singleton.mp h
          exact isSettled_of_loweredPoint_eq_none (by decide) (by decide) (by decide +kernel)
      · next hdotted =>
          split at h
          · next n hpoint =>
              obtain rfl := List.mem_singleton.mp h
              rcases loweredPoint_eq_some hpoint with rfl | ⟨houtside, hvalid⟩
              · exact isSettled_toLower (c := 'k') (by decide)
              · obtain ⟨hne, hnone⟩ := loweredPoint_of_eq_some hpoint
                rw [← toNat_ofNat hvalid] at houtside hne hnone
                exact isSettled_of_loweredPoint_eq_none houtside hne hnone
          · next hnone =>
              obtain rfl := List.mem_singleton.mp h
              exact isSettled_of_loweredPoint_eq_none (Nat.not_lt.mp habove) hdotted hnone

theorem isSettled_of_mem_lowerCharBetween {before after : List Char} {c d : Char}
    (h : d ∈ lowerCharBetween before c after) : IsSettled d := by
  unfold lowerCharBetween at h
  split at h
  · obtain rfl := List.mem_singleton.mp h
    split
    · exact isSettled_of_loweredPoint_eq_none (by decide) (by decide) (by decide +kernel)
    · exact isSettled_of_loweredPoint_eq_none (by decide) (by decide) (by decide +kernel)
  · exact isSettled_of_mem_lowerChar h

/-- A capital of ASCII is not settled. -/
theorem IsSettled.isUpper_eq_false {c : Char} (h : IsSettled c) : c.isUpper = false := by
  by_cases hascii : c.toNat < 0x80
  · have hlower := (toLower_toLower_ofNat c.toNat hascii).2.1
    rw [Char.ofNat_toNat] at hlower
    have hself := h [] []
    rw [lowerCharBetween, if_neg (by rintro rfl; exact absurd hascii (by decide)), lowerChar,
      if_pos hascii, List.singleton_inj] at hself
    rwa [hself] at hlower
  · rw [Bool.eq_false_iff]
    intro hupper
    have hbounds : 'A'.val ≤ c.val ∧ c.val ≤ 'Z'.val := of_decide_eq_true hupper
    exact hascii (Nat.lt_of_le_of_lt (UInt32.le_iff_toNat_le.mp hbounds.2) (by decide))

/-! ### Texts -/

theorem isSettled_of_mem_loweredAfter {before cs : List Char} {d : Char}
    (h : d ∈ loweredAfter before cs) : IsSettled d := by
  induction cs generalizing before with
  | nil => cases h
  | cons c cs ih =>
      rw [loweredAfter_cons, List.mem_append] at h
      rcases h with h | h
      · exact isSettled_of_mem_lowerCharBetween h
      · exact ih h

/-- **A lowered text is settled** throughout. -/
theorem isSettled_of_mem_lowered {cs : List Char} {d : Char} (h : d ∈ lowered cs) : IsSettled d :=
  isSettled_of_mem_loweredAfter h

theorem loweredAfter_eq_self {cs : List Char} (h : ∀ c ∈ cs, IsSettled c) (before : List Char) :
    loweredAfter before cs = cs := by
  induction cs generalizing before with
  | nil => rfl
  | cons c cs ih =>
      obtain ⟨hc, hcs⟩ := List.forall_mem_cons.mp h
      rw [loweredAfter_cons, hc, ih hcs, List.singleton_append]

/-- **A settled text** is its own lowercase form. -/
theorem lowered_eq_self {cs : List Char} (h : ∀ c ∈ cs, IsSettled c) : lowered cs = cs :=
  loweredAfter_eq_self h []

/-- **Lowercasing twice** is lowercasing once. -/
theorem lowered_lowered (cs : List Char) : lowered (lowered cs) = lowered cs :=
  lowered_eq_self fun _ hc => isSettled_of_mem_lowered hc

/-! ### Sub-tokens -/

/-- Without capitals no word starts inside a text. -/
theorem camelPieces_eq_singleton {cs : List Char} (hne : cs ≠ [])
    (h : ∀ c ∈ cs, c.isUpper = false) : camelPieces cs = [cs] := by
  fun_induction camelPieces cs with
  | case1 => exact absurd rfl hne
  | case2 c => rfl
  | case3 a b rest hstarts ih =>
      have hb := h b (List.mem_cons_of_mem a List.mem_cons_self)
      simp [startsWord, hb] at hstarts
  | case4 a b rest hstarts ih =>
      rw [ih (List.cons_ne_nil b rest) (List.forall_mem_cons.mp h).2]
      rfl

/-- **Words hold all characters** but the underscores. -/
theorem flatten_words (cs : List Char) : (words cs).flatten = cs.filter (· != '_') := by
  calc (words cs).flatten
      = (cut (· == '_') cs).flatMap fun block => (camelPieces block).flatten := by
        rw [words, ← List.flatMap_id, List.flatMap_assoc]
        simp only [List.flatMap_id]
    _ = (cut (· == '_') cs).flatten := by
        simp only [flatten_camelPieces, List.flatMap_id']
    _ = cs.filter (· != '_') := flatten_cut _ cs

theorem mem_of_mem_words {cs word : List Char} {c : Char} (hword : word ∈ words cs)
    (hc : c ∈ word) : c ∈ cs ∧ c ≠ '_' := by
  have hmem := List.mem_flatten.mpr ⟨word, hword, hc⟩
  rw [flatten_words, List.mem_filter, bne_iff_ne] at hmem
  exact hmem

/-- **A character of a text of sub-tokens** is settled, and no underscore. -/
theorem settled_of_mem_tokenize {s : String} {c : Char} (h : c ∈ (tokenize s).toList) :
    c ≠ '_' ∧ IsSettled c := by
  rcases mem_toList_join h with rfl | ⟨part, hpart, hc⟩
  · exact ⟨by decide, isSettled_toLower (c := separator) (by decide)⟩
  · obtain ⟨word, hword, rfl⟩ := List.mem_map.mp hpart
    rw [String.toList_ofList] at hc
    refine ⟨?_, isSettled_of_mem_lowered hc⟩
    rintro rfl
    rcases mem_lowered hc (by decide) with hmem | hletter
    · exact (mem_of_mem_words hword hmem).2 rfl
    · exact absurd hletter (by decide)

/-- **A text is its own text of sub-tokens** exactly if it has no underscore and is settled
throughout. -/
theorem tokenize_eq_self_iff {s : String} :
    tokenize s = s ↔ ∀ c ∈ s.toList, c ≠ '_' ∧ IsSettled c := by
  constructor
  · intro heq c hc
    rw [← heq] at hc
    exact settled_of_mem_tokenize hc
  · intro h
    by_cases hempty : s.toList = []
    · rw [String.toList_eq_nil_iff.mp hempty]
      rfl
    · -- The whole text is one word.
      have hcut : cut (· == '_') s.toList = [s.toList] := by
        rw [cut_eq_splitOnP]
        exact List.splitOnP_eq_singleton fun c hc => beq_eq_false_iff_ne.mpr (h c hc).1
      have hwords : words s.toList = [s.toList] := by
        rw [words, hcut, List.flatMap_singleton]
        exact camelPieces_eq_singleton hempty fun c hc => (h c hc).2.isUpper_eq_false
      rw [tokenize, hwords, List.map_singleton, lowered_eq_self fun c hc => (h c hc).2,
        String.ofList_toList, join, String.intercalate_singleton]

/-- **Sub-tokens are not divided further**, and do not change. -/
theorem tokenize_tokenize (s : String) : tokenize (tokenize s) = tokenize s := by
  rw [tokenize_eq_self_iff]
  intro c hc
  exact settled_of_mem_tokenize hc

-- A sigma keeps the form that it got at the end of its word.
example : tokenize "ΟΣ_ΟΣ" = "ος|ος" ∧ tokenize "ος|ος" = "ος|ος" := by
  decide +kernel

end SyntaxPaths.Text
