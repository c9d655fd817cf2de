import Mathlib.Algebra.Ring.Rat
import SyntaxPaths.Corpus
import SyntaxPaths.Proofs.SyntaxTree.Links

/-!
# A corpus in parts

The summary of a corpus with a seed does not depend on how the work is divided.

* **Regrouping.**  Over the rational numbers summaries are combined associatively, with the
  empty summary as unit (`Summary.merge_assoc`).  So they can be grouped in any way, with
  empty summaries anywhere in between (`Grouping.merged_eq_foldl`).
* **Seeds.**  A document has the seed of the corpus plus its number, modulo 2⁶⁴, and nothing
  else of the seed.  Numbers that start again in a part make no difference, if the seed of
  the part is moved on by the number of documents before it (`documentSeed_documentSeed`).

What every grouping gives is counted and summed up over the outcomes of the single documents
(`dividesCorpus`).
-/

namespace SyntaxPaths

open Randomness

/-! ### Combined summaries -/

namespace Summary

theorem merge_assoc (x y z : Summary Rat) : (x.merge y).merge z = x.merge (y.merge z) := by
  simp [merge, Coverage.zipWith, add_assoc]

theorem empty_merge (x : Summary Rat) : Summary.empty.merge x = x := by
  simp [merge, empty, Coverage.zipWith]

theorem merge_empty (x : Summary Rat) : x.merge Summary.empty = x := by
  simp [merge, empty, Coverage.zipWith]

instance : Std.Associative (merge : Summary Rat → Summary Rat → Summary Rat) where
  assoc := merge_assoc

/-- What stands in front can be combined last. -/
theorem foldl_merge (x : Summary Rat) (summaries : List (Summary Rat)) :
    summaries.foldl merge x = x.merge (summaries.foldl merge .empty) := by
  calc
    summaries.foldl merge x = summaries.foldl merge (x.merge .empty) := by rw [merge_empty]
    _ = x.merge (summaries.foldl merge .empty) := List.foldl_assoc

theorem foldl_merge_append (front back : List (Summary Rat)) :
    (front ++ back).foldl merge .empty =
      (front.foldl merge .empty).merge (back.foldl merge .empty) := by
  rw [List.foldl_append, foldl_merge]

end Summary

/-- A way to group items in a row, with nothing put in between. -/
inductive Grouping (α : Type) where
  /-- No item. -/
  | nothing
  /-- One item. -/
  | single (item : α)
  /-- One group in front of another. -/
  | both (front back : Grouping α)

namespace Grouping

/-- The items in their order. -/
def items {α : Type} : Grouping α → List α
  | nothing => []
  | single item => [item]
  | both front back => front.items ++ back.items

/-- The summaries of a grouping, combined group by group. -/
def merged : Grouping (Summary Rat) → Summary Rat
  | nothing => .empty
  | single summary => summary
  | both front back => front.merged.merge back.merged

/-- **However summaries are grouped**, they are combined as if one by one. -/
theorem merged_eq_foldl (grouping : Grouping (Summary Rat)) :
    grouping.merged = grouping.items.foldl Summary.merge .empty := by
  induction grouping with
  | nothing => rfl
  | single summary => exact (Summary.empty_merge summary).symm
  | both front back ihFront ihBack =>
      rw [merged, items, Summary.foldl_merge_append, ihFront, ihBack]

end Grouping

/-! ### Outcomes -/

section Outcomes

variable {ε : Type}

/-- Whether there is a coverage. -/
def isCovered (outcome : Except ε (Coverage Ratio)) : Bool :=
  match outcome with
  | .ok _ => true
  | .error _ => false

/-- The coverage of an outcome in rational numbers, or nothing. -/
def coverage? (outcome : Except ε (Coverage Ratio)) : Option (Coverage Rat) :=
  match outcome with
  | .ok coverage => some (coverage.map Ratio.toRat)
  | .error _ => none

/-- Ratio by ratio, the sums over several coverages. -/
def Coverage.sum (coverages : List (Coverage Rat)) : Coverage Rat where
  rootLinks := (coverages.map Coverage.rootLinks).sum
  leafLinks := (coverages.map Coverage.leafLinks).sum
  binaryLinks := (coverages.map Coverage.binaryLinks).sum
  rootNodes := (coverages.map Coverage.rootNodes).sum
  leafNodes := (coverages.map Coverage.leafNodes).sum

theorem Coverage.sum_cons (coverage : Coverage Rat) (coverages : List (Coverage Rat)) :
    Coverage.sum (coverage :: coverages) = coverage.zipWith (· + ·) (Coverage.sum coverages) := by
  simp [sum, zipWith]

/-- What is known after the given outcomes: how many have a coverage, how many have none, and
the sums over all coverages. -/
def Summary.ofOutcomes (outcomes : List (Except ε (Coverage Ratio))) : Summary Rat where
  processed := outcomes.countP isCovered
  failed := outcomes.countP (!isCovered ·)
  totals := Coverage.sum (outcomes.filterMap coverage?)

theorem Summary.ofOutcomes_cons (outcome : Except ε (Coverage Ratio))
    (outcomes : List (Except ε (Coverage Ratio))) :
    Summary.ofOutcomes (outcome :: outcomes) =
      (Summary.ofOutcome Ratio.toRat outcome).merge (Summary.ofOutcomes outcomes) := by
  cases outcome with
  | ok coverage =>
      have hsome : coverage? (.ok coverage : Except ε _) = some (coverage.map Ratio.toRat) := rfl
      rw [ofOutcomes, List.countP_cons_of_pos rfl, List.countP_cons_of_neg Bool.false_ne_true,
        List.filterMap_cons_some hsome, Coverage.sum_cons]
      simp [ofOutcome, merge, record, empty, ofOutcomes, Coverage.zipWith, Nat.add_comm]
  | error cause =>
      have hnone : coverage? (.error cause : Except ε _) = none := rfl
      rw [ofOutcomes, List.countP_cons_of_neg Bool.false_ne_true,
        List.countP_cons_of_pos rfl, List.filterMap_cons_none hnone]
      simp [ofOutcome, merge, recordFailure, empty, ofOutcomes, Coverage.zipWith, Nat.add_comm]

/-- **Summaries of single outcomes** are combined to the summary of all. -/
theorem Summary.foldl_merge_ofOutcome (outcomes : List (Except ε (Coverage Ratio))) :
    (outcomes.map (Summary.ofOutcome Ratio.toRat)).foldl Summary.merge .empty =
      Summary.ofOutcomes outcomes := by
  induction outcomes with
  | nil => rfl
  | cons outcome outcomes ih =>
      rw [List.map_cons, List.foldl_cons, empty_merge, foldl_merge, ih, ofOutcomes_cons]

end Outcomes

/-! ### Seeds -/

/-- The settings with the given seed. -/
def Settings.withSeed (settings : Settings) (seed : UInt64) : Settings :=
  { settings with seed := some seed }

namespace Settings

variable (settings : Settings) (seed : UInt64)

@[simp] theorem treeStyleOrDefault_withSeed :
    (settings.withSeed seed).treeStyleOrDefault = settings.treeStyleOrDefault := rfl

@[simp] theorem rootPathQuotaOrDefault_withSeed :
    (settings.withSeed seed).rootPathQuotaOrDefault = settings.rootPathQuotaOrDefault := rfl

@[simp] theorem leafPathQuotaOrDefault_withSeed :
    (settings.withSeed seed).leafPathQuotaOrDefault = settings.leafPathQuotaOrDefault := rfl

@[simp] theorem leafPathShape_withSeed :
    (settings.withSeed seed).leafPathShape = settings.leafPathShape := rfl

end Settings

/-- The seed of document number `i`, modulo 2⁶⁴. -/
def documentSeed (seed : UInt64) (i : Nat) : UInt64 :=
  UInt64.ofNat (seed.toNat + i)

theorem documentSeed_eq_add (seed : UInt64) (i : Nat) :
    documentSeed seed i = seed + UInt64.ofNat i := by
  rw [documentSeed, UInt64.ofNat_add, UInt64.ofNat_toNat]

/-- **Numbers that start again** make no difference to a seed that was moved on. -/
theorem documentSeed_documentSeed (seed : UInt64) (n i : Nat) :
    documentSeed (documentSeed seed n) i = documentSeed seed (n + i) := by
  rw [documentSeed_eq_add, documentSeed_eq_add, documentSeed_eq_add, UInt64.add_assoc,
    ← UInt64.ofNat_add]

/-- The coverage of a document alone, sampled with the stream of the given seed. -/
def ParsedDocument.coverageAlone (entry : ParsedDocument) (normalizer : Normalizer)
    (settings : Settings) (seed : UInt64) : Except PipelineError (Coverage Ratio) :=
  (CodeUnit.ofAnswer normalizer settings (answerIn entry.doc.language entry.parsed)
      entry.doc.code).bind fun unit =>
    (unit.coverage (.ofSeed seed)).1.mapError .coverage

/-- Sampling looks at quotas and styles, and not at the seed. -/
theorem sampleLeafPaths_withSeed (settings : Settings) (seed : UInt64) (tree : SyntaxTree)
    (session : Session) (stream : WordStream) :
    sampleLeafPaths (settings.withSeed seed) tree session stream =
      sampleLeafPaths settings tree session stream := by
  simp only [sampleLeafPaths, sampleLeafPathsFrom, sampleRootPaths, rootTiers, Sampled.ofRoots,
    Settings.treeStyleOrDefault_withSeed, Settings.rootPathQuotaOrDefault_withSeed,
    Settings.leafPathQuotaOrDefault_withSeed, Settings.leafPathShape_withSeed]

/-- Of the settings of a unit the seed is not looked at again. -/
theorem ParsedDocument.coverageAlone_withSeed (entry : ParsedDocument) (normalizer : Normalizer)
    (settings : Settings) (s seed : UInt64) :
    entry.coverageAlone normalizer (settings.withSeed s) seed =
      entry.coverageAlone normalizer settings seed := by
  unfold coverageAlone
  cases answerIn entry.doc.language entry.parsed with
  | error cause => rfl
  | ok parsed =>
      simp only [CodeUnit.ofAnswer, CodeUnit.ofSource]
      cases SyntaxTree.build normalizer parsed (sourceLines entry.doc.code) with
      | error cause => rfl
      | ok tree =>
          simp only [Except.map, Except.mapError, Except.bind, CodeUnit.coverage,
            CodeUnit.sampleLeafPaths, sampleLeafPaths_withSeed]

/-- **The coverage of document number `i`** is that of the document alone, with a seed of its
own. -/
theorem ParsedDocument.coverage_withSeed (entry : ParsedDocument) (normalizer : Normalizer)
    (settings : Settings) (seed : UInt64) (i : Nat) (unseeded : WordStream) :
    entry.coverage normalizer (settings.withSeed seed) i unseeded =
      entry.coverageAlone normalizer settings (documentSeed seed i) := by
  have hstream : ((settings.withSeed seed).shiftSeed i).stream unseeded =
      .ofSeed (seed + UInt64.ofNat i) := rfl
  rw [← coverageAlone_withSeed _ _ _ seed, documentSeed_eq_add, coverage, coverageAlone, hstream]

/-- The outcomes of all documents, each alone with a seed of its own. -/
def outcomesAlone (normalizer : Normalizer) (settings : Settings) (seed : UInt64)
    (entries : List ParsedDocument) : List (Except PipelineError (Coverage Ratio)) :=
  entries.zipIdx.map fun numbered =>
    numbered.1.coverageAlone normalizer settings (documentSeed seed numbered.2)

/-- The outcomes of a part behind `n` documents are those of a corpus of its own, with a seed
that was moved on. -/
theorem outcomesAlone_append (normalizer : Normalizer) (settings : Settings) (seed : UInt64)
    (front back : List ParsedDocument) :
    outcomesAlone normalizer settings seed (front ++ back) =
      outcomesAlone normalizer settings seed front ++
        outcomesAlone normalizer settings (documentSeed seed front.length) back := by
  have hback : (back.zipIdx front.length).map (fun numbered =>
      numbered.1.coverageAlone normalizer settings (documentSeed seed numbered.2)) =
      outcomesAlone normalizer settings (documentSeed seed front.length) back := by
    rw [List.zipIdx_eq_map_add, List.map_map, outcomesAlone]
    apply List.map_congr_left
    rintro ⟨entry, i⟩ _
    simp only [Function.comp_apply, documentSeed_documentSeed]
  rw [← hback, outcomesAlone, List.zipIdx_append, List.map_append, Nat.zero_add, outcomesAlone]

theorem documentSummaries_withSeed (normalizer : Normalizer) (settings : Settings)
    (seed : UInt64) (unseeded : WordStream) (i : Nat) (entries : List ParsedDocument) :
    documentSummaries Ratio.toRat normalizer (settings.withSeed seed) unseeded i entries =
      (entries.zipIdx i).map fun numbered => Summary.ofOutcome Ratio.toRat
        (numbered.1.coverageAlone normalizer settings (documentSeed seed numbered.2)) := by
  induction entries generalizing i with
  | nil => rfl
  | cons entry entries ih =>
      rw [documentSummaries, ParsedDocument.coverage_withSeed, ih, List.zipIdx_cons, List.map_cons]

/-- The summaries of the single documents. -/
theorem documentSummaries_eq_map (normalizer : Normalizer) (settings : Settings)
    (seed : UInt64) (unseeded : WordStream) (entries : List ParsedDocument) :
    documentSummaries Ratio.toRat normalizer (settings.withSeed seed) unseeded 0 entries =
      (outcomesAlone normalizer settings seed entries).map (Summary.ofOutcome Ratio.toRat) := by
  rw [documentSummaries_withSeed, outcomesAlone, List.map_map, Function.comp_def]

/-! ### Parts of a corpus -/

/-- **The work on a corpus with a seed can be divided.** -/
structure DividesCorpus (normalizer : Normalizer) (settings : Settings) (seed : UInt64) :
    Prop where
  /-- The summary of a corpus is combined from those of a front part, with the same seed, and
  of the rest, whose seed is moved on by the number of documents in front. -/
  append (unseeded unseeded' unseeded'' : WordStream) (front back : List ParsedDocument) :
    corpusSummary Ratio.toRat normalizer (settings.withSeed seed) unseeded (front ++ back) =
      (corpusSummary Ratio.toRat normalizer (settings.withSeed seed) unseeded' front).merge
        (corpusSummary Ratio.toRat normalizer
          (settings.withSeed (documentSeed seed front.length)) unseeded'' back)
  /-- However the summaries of the single documents are grouped, those with a coverage are
  counted, the others are counted, and the coverages are summed up, where each document has
  the coverage that it has alone with a seed of its own. -/
  grouped (unseeded : WordStream) (entries : List ParsedDocument)
    (grouping : Grouping (Summary Rat)) :
    grouping.items =
      documentSummaries Ratio.toRat normalizer (settings.withSeed seed) unseeded 0 entries →
    grouping.merged = Summary.ofOutcomes (outcomesAlone normalizer settings seed entries)

/-- The summary of a corpus with a seed, counted and summed up over the outcomes of its
documents. -/
theorem corpusSummary_withSeed (normalizer : Normalizer) (settings : Settings) (seed : UInt64)
    (unseeded : WordStream) (entries : List ParsedDocument) :
    corpusSummary Ratio.toRat normalizer (settings.withSeed seed) unseeded entries =
      Summary.ofOutcomes (outcomesAlone normalizer settings seed entries) := by
  rw [corpusSummary, documentSummaries_eq_map, Summary.foldl_merge_ofOutcome]

theorem Summary.ofOutcomes_append {ε : Type} (front back : List (Except ε (Coverage Ratio))) :
    Summary.ofOutcomes (front ++ back) =
      (Summary.ofOutcomes front).merge (Summary.ofOutcomes back) := by
  rw [← foldl_merge_ofOutcome, List.map_append, foldl_merge_append, foldl_merge_ofOutcome,
    foldl_merge_ofOutcome]

/-- A record in the given language, with the source text `a b` and its parse tree. -/
def ParsedDocument.twoWords (language : String) : ParsedDocument where
  doc := { (default : Document) with language, code := "a b" }
  parsed := .ok .twoWords

end SyntaxPaths
