import SyntaxPaths.Proofs.Coverage.Counts

/-!
# Coverage depends on sets only

The lists of a session are counted as sets, so coverage is not changed by repeated entries or
by another order (`Session.coverage_congr`), and it grows with the sampled lists
(`Session.linkRatio_mono`, `Session.labelRatio_mono`).

A sample from the labels of the tree covers one at most.  It covers one exactly if it has all
of them: a sum of two counts that are at most those of the tree reaches the sum of these only
where both counts do (`linkCount_eq_iff`), and a subset with as many different items is the
whole set (`distinctCount_eq_iff`).  For links the entries are compared with their marks, for
labels without them.

Link coverage has no lower bound of zero: an empty sample has one link less than none.
-/

namespace SyntaxPaths

/-! ### Lists with the same entries -/

/-- The lists have the same entries, in any order and any number of times. -/
def SameEntries {α : Type} (items items' : List α) : Prop :=
  ∀ item, item ∈ items ↔ item ∈ items'

section Counts

variable {α : Type} [DecidableEq α]

/-- **A part has as many different items as the whole** exactly if no item is left out. -/
theorem distinctCount_eq_iff {items items' : List α} (h : items ⊆ items') :
    distinctCount items = distinctCount items' ↔ SameEntries items items' := by
  constructor
  · intro hcount item
    rw [distinctCount_eq_card, distinctCount_eq_card] at hcount
    have heq := Finset.eq_of_subset_of_card_le (toFinset_subset_toFinset h) hcount.ge
    rw [← List.mem_toFinset, heq, List.mem_toFinset]
  · exact distinctCount_congr

variable {terminals terminals' nonterminals nonterminals' : List String}

/-- **Two kinds of labels** are counted together, but nothing of one kind makes up for what is
missing of the other. -/
theorem linkCount_eq_iff (hterminals : terminals ⊆ terminals')
    (hnonterminals : nonterminals ⊆ nonterminals') :
    linkCount terminals nonterminals = linkCount terminals' nonterminals' ↔
      SameEntries terminals terminals' ∧ SameEntries nonterminals nonterminals' := by
  have hle := distinctCount_mono hterminals
  have hle' := distinctCount_mono hnonterminals
  rw [← distinctCount_eq_iff hterminals, ← distinctCount_eq_iff hnonterminals, linkCount,
    linkCount]
  omega

/-- Labels without marks are counted like labels. -/
theorem labelCount_eq_linkCount (terminals nonterminals : List String) :
    labelCount terminals nonterminals =
      linkCount (terminals.map Label.stem) (nonterminals.map Label.stem) := rfl

theorem labelCount_eq_iff (hterminals : terminals ⊆ terminals')
    (hnonterminals : nonterminals ⊆ nonterminals') :
    labelCount terminals nonterminals = labelCount terminals' nonterminals' ↔
      SameEntries (terminals.map Label.stem) (terminals'.map Label.stem) ∧
        SameEntries (nonterminals.map Label.stem) (nonterminals'.map Label.stem) := by
  rw [labelCount_eq_linkCount, labelCount_eq_linkCount]
  exact linkCount_eq_iff (List.map_subset _ hterminals) (List.map_subset _ hnonterminals)

end Counts

namespace Ratio

theorem toRat_eq_one_iff {ratio : Ratio} (hpos : 0 < ratio.denominator) :
    ratio.toRat = 1 ↔ ratio.numerator = ratio.denominator := by
  rw [toRat, div_eq_one_iff_eq (Nat.cast_ne_zero.mpr hpos.ne')]
  norm_cast

/-- Of two quotients with one divisor, that of the larger number is the larger one. -/
theorem toRat_le_toRat {ratio ratio' : Ratio}
    (hdenominator : ratio.denominator = ratio'.denominator)
    (hnumerator : ratio.numerator ≤ ratio'.numerator) : ratio.toRat ≤ ratio'.toRat := by
  rw [toRat, toRat, hdenominator]
  exact div_le_div_of_nonneg_right (Int.cast_le.mpr hnumerator) (Nat.cast_nonneg _)

end Ratio

namespace Session

/-! ### Two sessions of one tree -/

section Compared

variable {session session' : Session}
  {terminals terminals' nonterminals nonterminals' : List String}
  (hallTerminals : SameEntries session.terminals session'.terminals)
  (hallNonterminals : SameEntries session.nonterminals session'.nonterminals)

include hallTerminals hallNonterminals

theorem allLinks_congr : session.allLinks = session'.allLinks := by
  rw [allLinks, allLinks, linkCount_congr hallTerminals hallNonterminals]

theorem allLabels_congr : session.allLabels = session'.allLabels :=
  labelCount_congr hallTerminals hallNonterminals

theorem linkRatio_congr (hterminals : SameEntries terminals terminals')
    (hnonterminals : SameEntries nonterminals nonterminals') :
    session.linkRatio terminals nonterminals = session'.linkRatio terminals' nonterminals' := by
  rw [linkRatio, linkRatio, linkCount_congr hterminals hnonterminals,
    allLinks_congr hallTerminals hallNonterminals]

theorem labelRatio_congr (hterminals : SameEntries terminals terminals')
    (hnonterminals : SameEntries nonterminals nonterminals') :
    session.labelRatio terminals nonterminals = session'.labelRatio terminals' nonterminals' := by
  rw [labelRatio, labelRatio, labelCount_congr hterminals hnonterminals,
    allLabels_congr hallTerminals hallNonterminals]

/-- **More labels** do not cover fewer links. -/
theorem linkRatio_mono (hterminals : terminals ⊆ terminals')
    (hnonterminals : nonterminals ⊆ nonterminals') :
    (session.linkRatio terminals nonterminals).toRat ≤
      (session'.linkRatio terminals' nonterminals').toRat := by
  refine Ratio.toRat_le_toRat (allLinks_congr hallTerminals hallNonterminals) ?_
  exact Int.sub_le_sub_right (Int.ofNat_le.mpr (linkCount_mono hterminals hnonterminals)) 1

theorem labelRatio_mono (hterminals : terminals ⊆ terminals')
    (hnonterminals : nonterminals ⊆ nonterminals') :
    (session.labelRatio terminals nonterminals).toRat ≤
      (session'.labelRatio terminals' nonterminals').toRat := by
  refine Ratio.toRat_le_toRat (allLabels_congr hallTerminals hallNonterminals) ?_
  exact Int.ofNat_le.mpr (labelCount_mono hterminals hnonterminals)

end Compared

/-- The sessions have the same entries, list by list. -/
structure AgreeInEntries (session session' : Session) : Prop where
  terminals : SameEntries session.terminals session'.terminals
  nonterminals : SameEntries session.nonterminals session'.nonterminals
  rootTerminals : SameEntries session.rootTerminals session'.rootTerminals
  rootNonterminals : SameEntries session.rootNonterminals session'.rootNonterminals
  leafTerminals : SameEntries session.leafTerminals session'.leafTerminals
  leafNonterminals : SameEntries session.leafNonterminals session'.leafNonterminals

/-- The second session is of the same tree, and has at least the same samples. -/
structure SamplesGrow (session session' : Session) : Prop where
  terminals : SameEntries session.terminals session'.terminals
  nonterminals : SameEntries session.nonterminals session'.nonterminals
  rootTerminals : session.rootTerminals ⊆ session'.rootTerminals
  rootNonterminals : session.rootNonterminals ⊆ session'.rootNonterminals
  leafTerminals : session.leafTerminals ⊆ session'.leafTerminals
  leafNonterminals : session.leafNonterminals ⊆ session'.leafNonterminals

/-- **Coverage is one of sets**: sessions with the same entries have the same coverage, or none
for the same reason. -/
theorem coverage_congr {session session' : Session} (hagree : session.AgreeInEntries session')
    (eldestCount : Nat) : session.coverage eldestCount = session'.coverage eldestCount := by
  have hterminals := hagree.terminals
  have hnonterminals := hagree.nonterminals
  rw [Session.coverage, Session.coverage, linkCount_congr hterminals hnonterminals,
    distinctCount_congr hterminals, distinctCount_congr hnonterminals,
    allLinks_congr hterminals hnonterminals,
    linkRatio_congr hterminals hnonterminals hagree.rootTerminals hagree.rootNonterminals,
    linkRatio_congr hterminals hnonterminals hagree.leafTerminals hagree.leafNonterminals,
    labelRatio_congr hterminals hnonterminals hagree.rootTerminals hagree.rootNonterminals,
    labelRatio_congr hterminals hnonterminals hagree.leafTerminals hagree.leafNonterminals]

/-- No ratio of a sample is larger in the first coverage. -/
structure CoversNoMore (coverage coverage' : Coverage Ratio) : Prop where
  rootLinks : coverage.rootLinks.toRat ≤ coverage'.rootLinks.toRat
  leafLinks : coverage.leafLinks.toRat ≤ coverage'.leafLinks.toRat
  rootNodes : coverage.rootNodes.toRat ≤ coverage'.rootNodes.toRat
  leafNodes : coverage.leafNodes.toRat ≤ coverage'.leafNodes.toRat

/-- **Larger samples cover more**, or the same. -/
theorem exists_coverage_of_samplesGrow {session session' : Session} {eldestCount : Nat}
    {coverage : Coverage Ratio} (hgrow : session.SamplesGrow session')
    (h : session.coverage eldestCount = .ok coverage) :
    ∃ coverage', session'.coverage eldestCount = .ok coverage' ∧
      CoversNoMore coverage coverage' := by
  obtain ⟨hcount, rfl⟩ := coverage_eq_ok h
  rw [linkCount_congr hgrow.terminals hgrow.nonterminals] at hcount
  refine ⟨_, coverage_of_two_le hcount eldestCount, ?_⟩
  exact
    { rootLinks := linkRatio_mono hgrow.terminals hgrow.nonterminals hgrow.rootTerminals
        hgrow.rootNonterminals
      leafLinks := linkRatio_mono hgrow.terminals hgrow.nonterminals hgrow.leafTerminals
        hgrow.leafNonterminals
      rootNodes := labelRatio_mono hgrow.terminals hgrow.nonterminals hgrow.rootTerminals
        hgrow.rootNonterminals
      leafNodes := labelRatio_mono hgrow.terminals hgrow.nonterminals hgrow.leafTerminals
        hgrow.leafNonterminals }

/-! ### Samples from the labels of a tree -/

/-- **The two ratios of a sample** lie within their bounds, and each is one only where the
sample has all that the ratio counts. -/
structure MeasuresSample (session : Session) (terminals nonterminals : List String)
    (links labels : Ratio) : Prop where
  /-- No more links are covered than there are. -/
  links_le_one : links.toRat ≤ 1
  /-- All links are covered exactly by all labels with their marks, in both kinds. -/
  links_eq_one_iff : links.toRat = 1 ↔
    SameEntries terminals session.terminals ∧ SameEntries nonterminals session.nonterminals
  /-- No number of labels is negative. -/
  labels_nonneg : 0 ≤ labels.toRat
  /-- No more labels are covered than there are. -/
  labels_le_one : labels.toRat ≤ 1
  /-- All labels are covered exactly by all labels without marks, in both kinds. -/
  labels_eq_one_iff : labels.toRat = 1 ↔
    SameEntries (terminals.map Label.stem) (session.terminals.map Label.stem) ∧
      SameEntries (nonterminals.map Label.stem) (session.nonterminals.map Label.stem)

section Sample

variable {session : Session} {terminals nonterminals : List String}
  (h : 2 ≤ linkCount session.terminals session.nonterminals)
  (hterminals : terminals ⊆ session.terminals)
  (hnonterminals : nonterminals ⊆ session.nonterminals)

include h hterminals hnonterminals

theorem linkRatio_eq_one_iff :
    (session.linkRatio terminals nonterminals).toRat = 1 ↔
      SameEntries terminals session.terminals ∧
        SameEntries nonterminals session.nonterminals := by
  rw [Ratio.toRat_eq_one_iff (allLinks_pos h), ← linkCount_eq_iff hterminals hnonterminals]
  -- One is taken off on both sides, and on the right there is something to take it from.
  show (linkCount terminals nonterminals : Int) - 1 = session.allLinks ↔ _
  rw [allLinks]
  omega

theorem labelRatio_eq_one_iff :
    (session.labelRatio terminals nonterminals).toRat = 1 ↔
      SameEntries (terminals.map Label.stem) (session.terminals.map Label.stem) ∧
        SameEntries (nonterminals.map Label.stem) (session.nonterminals.map Label.stem) := by
  rw [Ratio.toRat_eq_one_iff (allLabels_pos h), ← labelCount_eq_iff hterminals hnonterminals]
  exact Int.ofNat_inj

theorem measuresSample :
    MeasuresSample session terminals nonterminals (session.linkRatio terminals nonterminals)
      (session.labelRatio terminals nonterminals) where
  links_le_one := linkRatio_le_one h hterminals hnonterminals
  links_eq_one_iff := linkRatio_eq_one_iff h hterminals hnonterminals
  labels_nonneg := labelRatio_nonneg
  labels_le_one := labelRatio_le_one h hterminals hnonterminals
  labels_eq_one_iff := labelRatio_eq_one_iff h hterminals hnonterminals

end Sample

/-! ### The coverage of a session -/

/-- **A coverage measures sets**, and samples of labels of the tree against all of them. -/
structure MeasuresSets (session : Session) (eldestCount : Nat) (coverage : Coverage Ratio) :
    Prop where
  /-- All five ratios depend only on which entries the lists have. -/
  coverage_eq (session' : Session) : session.AgreeInEntries session' →
    session'.coverage eldestCount = .ok coverage
  /-- Sampled root paths with labels of the tree. -/
  rootPaths : session.rootTerminals ⊆ session.terminals →
    session.rootNonterminals ⊆ session.nonterminals →
      session.MeasuresSample session.rootTerminals session.rootNonterminals coverage.rootLinks
        coverage.rootNodes
  /-- Sampled leaf paths with labels of the tree. -/
  leafPaths : session.leafTerminals ⊆ session.terminals →
    session.leafNonterminals ⊆ session.nonterminals →
      session.MeasuresSample session.leafTerminals session.leafNonterminals coverage.leafLinks
        coverage.leafNodes
  /-- Further entries in the samples make no ratio smaller. -/
  grows (session' : Session) : session.SamplesGrow session' →
    ∃ coverage', session'.coverage eldestCount = .ok coverage' ∧ CoversNoMore coverage coverage'

/-- Two terminals of one name, one of them in a sampled root path; no leaf path is sampled. -/
def repeatedName : Session where
  terminals := ["x@0~0~0~1", "x@1~0~1~1"]
  nonterminals := ["m@0~0~2~0"]
  rootTerminals := ["x@0~0~0~1"]
  rootNonterminals := ["m@0~0~2~0"]
  leafTerminals := []
  leafNonterminals := []

end Session

end SyntaxPaths
