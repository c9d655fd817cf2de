import SyntaxPaths.Coverage.Summary
import SyntaxPaths.Feature

/-!
# Statistics of a corpus

The coverage of every document of a corpus, added up.

## Main definitions

* `ParsedDocument.coverage` — the coverage of one document
* `Summary.ofOutcome` — the summary of one document
* `corpusSummary` — the summary of a corpus
* `ParsedDocument.tryCoverage`, `tryCorpusSummary` — the same of samples in tables for
  the quotas, as they run

## Design notes

**A stream for each document.**  Document number `i` takes its random words from
the stream of the seed plus `i`, so it does not matter in which order, or in how
many parts, a corpus is processed.  The sum of seed and number is taken modulo
2⁶⁴.
-/

namespace SyntaxPaths

open Randomness

/-- A record, with what a parser answers for its source text. -/
structure ParsedDocument where
  /-- The record. -/
  doc : Document
  /-- The answer of the parser. -/
  parsed : Except ParseError ParseTree

/-- The settings with the seed moved on by `i`. -/
def Settings.shiftSeed (settings : Settings) (i : Nat) : Settings :=
  { settings with seed := settings.seed.map (· + UInt64.ofNat i) }

/-- The coverage of the document with number `i`. -/
def ParsedDocument.coverage (entry : ParsedDocument) (normalizer : Normalizer)
    (settings : Settings) (i : Nat) (unseeded : WordStream) :
    Except PipelineError (Coverage Ratio) :=
  (CodeUnit.ofAnswer normalizer settings (answerIn entry.doc.language entry.parsed)
      entry.doc.code).bind fun unit =>
    (unit.coverage ((settings.shiftSeed i).stream unseeded)).1.mapError .coverage

/-- The coverage of the document with number `i` by paths that are sampled in tables
for the quotas. -/
def ParsedDocument.tryCoverage (entry : ParsedDocument) (normalizer : Normalizer)
    (settings : Settings) (i : Nat) (unseeded : WordStream) :
    Except QuotaFault (Except PipelineError (Coverage Ratio)) :=
  match CodeUnit.ofAnswer normalizer settings (answerIn entry.doc.language entry.parsed)
      entry.doc.code with
  | .error cause => .ok (.error cause)
  | .ok unit =>
    (unit.tryCoverage ((settings.shiftSeed i).stream unseeded)).map (·.1.mapError .coverage)

/-- The summary of a single document, whose ratios are carried into the type of
the sums. -/
def Summary.ofOutcome {α ε : Type} [OfNat α 0] [Add α] (read : Ratio → α)
    (outcome : Except ε (Coverage Ratio)) : Summary α :=
  match outcome with
  | .ok coverage => Summary.empty.record (coverage.map read)
  | .error _ => Summary.empty.recordFailure

/-- The summaries of the documents whose numbers begin with `i`. -/
def documentSummaries {α : Type} [OfNat α 0] [Add α] (read : Ratio → α)
    (normalizer : Normalizer) (settings : Settings) (unseeded : WordStream) :
    (i : Nat) → List ParsedDocument → List (Summary α)
  | _, [] => []
  | i, entry :: entries =>
    Summary.ofOutcome read (entry.coverage normalizer settings i unseeded) ::
      documentSummaries read normalizer settings unseeded (i + 1) entries

/-- **The summary of a corpus**, with the ratios read in the given way. -/
def corpusSummary {α : Type} [OfNat α 0] [Add α] (read : Ratio → α) (normalizer : Normalizer)
    (settings : Settings) (unseeded : WordStream) (entries : List ParsedDocument) : Summary α :=
  (documentSummaries read normalizer settings unseeded 0 entries).foldl Summary.merge .empty

/-- The summaries of the documents whose numbers begin with `i`, of samples in tables
for the quotas. -/
def tryDocumentSummaries {α : Type} [OfNat α 0] [Add α] (read : Ratio → α)
    (normalizer : Normalizer) (settings : Settings) (unseeded : WordStream) :
    (i : Nat) → List ParsedDocument → Except QuotaFault (List (Summary α))
  | _, [] => .ok []
  | i, entry :: entries => do
    let outcome ← entry.tryCoverage normalizer settings i unseeded
    let rest ← tryDocumentSummaries read normalizer settings unseeded (i + 1) entries
    return Summary.ofOutcome read outcome :: rest

/-- The summary of a corpus, of samples in tables for the quotas.  A single document for
which there is no table stands in the way of all. -/
def tryCorpusSummary {α : Type} [OfNat α 0] [Add α] (read : Ratio → α) (normalizer : Normalizer)
    (settings : Settings) (unseeded : WordStream) (entries : List ParsedDocument) :
    Except QuotaFault (Summary α) :=
  (tryDocumentSummaries read normalizer settings unseeded 0 entries).map
    (·.foldl Summary.merge .empty)

end SyntaxPaths
