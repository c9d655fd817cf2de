import SyntaxPaths.Coverage

/-!
# Sums of coverages

Over a corpus the coverages of the documents are added up, and documents without a
coverage are counted.  Two sums over parts of a corpus can be combined.

## Main definitions

* `Summary` — how many documents had a coverage, how many had none, and the sums
* `Summary.record`, `Summary.recordFailure`, `Summary.merge`
* `Summary.averages` — the mean ratios

## Design notes

**Any numbers.**  The sums are taken in any type with zero and addition.  Floating
point is what programs use; in the rational numbers the order of the summands has
no influence, so that laws about regrouping can be stated without rounding errors.
-/

namespace SyntaxPaths

/-- What is known about a number of documents. -/
structure Summary (α : Type) where
  /-- The number of documents with a coverage. -/
  processed : Nat
  /-- The number of documents without one. -/
  failed : Nat
  /-- The sums of the ratios. -/
  totals : Coverage α
  deriving DecidableEq, Repr

namespace Summary

variable {α : Type}

/-- No documents. -/
def empty [OfNat α 0] : Summary α where
  processed := 0
  failed := 0
  totals := { rootLinks := 0, leafLinks := 0, binaryLinks := 0, rootNodes := 0, leafNodes := 0 }

/-- The summary after a document with a coverage. -/
def record [Add α] (summary : Summary α) (coverage : Coverage α) : Summary α :=
  { summary with
    processed := summary.processed + 1
    totals := summary.totals.zipWith (· + ·) coverage }

/-- The summary after a document without a coverage. -/
def recordFailure (summary : Summary α) : Summary α :=
  { summary with failed := summary.failed + 1 }

/-- The summary of the documents of both summaries. -/
def merge [Add α] (x y : Summary α) : Summary α where
  processed := x.processed + y.processed
  failed := x.failed + y.failed
  totals := x.totals.zipWith (· + ·) y.totals

/-- The mean ratios, if there is a document with a coverage.  Each sum is
multiplied by the reciprocal of the number of documents. -/
def averages (summary : Summary Float) : Option (Coverage Float) :=
  if summary.processed = 0 then none
  else
    let factor := 1.0 / Float.ofNat summary.processed
    some (summary.totals.map (· * factor))

end Summary

end SyntaxPaths
