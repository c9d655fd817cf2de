import SyntaxPaths.Text.Lowercase.Tables

/-!
# Full lowercasing

Sub-tokens and node kinds are compared in lowercase.  Lowercasing a text is almost
a map over its characters; two letters make it more than that.

* `İ` (U+0130) becomes *two* characters, `i` and a combining dot above.
* `Σ` (U+03A3) becomes `ς` at the end of a word and `σ` elsewhere, so its
  lowercase form depends on its neighbours on both sides.

## Main definitions

* `lowerChar` — the lowercase form of a character on its own
* `isFinalSigma` — Unicode's condition `Final_Sigma`
* `lowered` — the lowercase form of a text
* `lowercase` — the same on strings

## Design notes

**Context.**  `loweredAfter before cs` lowers `cs` as the continuation of a text
whose beginning, *read backwards*, is `before`.  The look to the left is then a
look at the front of a list, exactly like the look to the right.

**A word is what is lowered.**  The neighbours that decide about a sigma are those
inside the text that is given; a piece of an identifier that was cut off before
does not count.
-/

namespace SyntaxPaths.Text

/-- Whether a code point lies in one of the runs. -/
def inRuns (runs : List (Nat × Nat)) (n : Nat) : Bool :=
  runs.any fun run => run.1 ≤ n && n ≤ run.2

/-- The property `Case_Ignorable`. -/
def isCaseIgnorable (c : Char) : Bool :=
  inRuns caseIgnorableRuns c.toNat

/-- The property `Cased`, for characters that are not ignorable. -/
def isCased (c : Char) : Bool :=
  inRuns casedRuns c.toNat

/-- Whether a code point is one of the capitals of a run. -/
def LoweringRun.holds (run : LoweringRun) (n : Nat) : Bool :=
  run.first ≤ n && n ≤ run.last && (n - run.first) % run.stride == 0

/-- The small letter of a capital in a run. -/
def LoweringRun.lower (run : LoweringRun) (n : Nat) : Nat :=
  ((n : Int) + run.shift).toNat

/-- The lowercase code point that the runs of capitals give, if they give one. -/
def loweredPoint (n : Nat) : Option Nat :=
  (loweringRuns.find? (·.holds n)).map (·.lower n)

/-- The lowercase form of a character on its own.  A `Σ` on its own is not at the
end of a word, so it becomes `σ`. -/
def lowerChar (c : Char) : List Char :=
  if c.toNat < 0x80 then [c.toLower]
  else if c.toNat = 0x130 then ['i', '\u0307']
  else
    match loweredPoint c.toNat with
    | some n => [Char.ofNat n]
    | none => [c]

/-- Whether the first character that is not ignorable is a cased letter. -/
def startsCased (cs : List Char) : Bool :=
  (cs.dropWhile isCaseIgnorable).head?.any isCased

/-- **The condition `Final_Sigma`.**  A cased letter stands before, and none
after, where ignorable characters in between do not count; `before` is read
backwards. -/
def isFinalSigma (before after : List Char) : Bool :=
  startsCased before && !startsCased after

/-- The lowercase form of a character between two neighbouring texts. -/
def lowerCharBetween (before : List Char) (c : Char) (after : List Char) : List Char :=
  if c = 'Σ' then [if isFinalSigma before after then 'ς' else 'σ'] else lowerChar c

/-- The lowercase form of a text that continues `before`, which is read backwards. -/
def loweredAfter : (before cs : List Char) → List Char
  | _, [] => []
  | before, c :: cs => lowerCharBetween before c cs ++ loweredAfter (c :: before) cs

/-- The lowercase form of a text. -/
def lowered (cs : List Char) : List Char :=
  loweredAfter [] cs

/-- `lowered` on strings. -/
def lowercase (s : String) : String :=
  String.ofList (lowered s.toList)

@[simp] theorem loweredAfter_nil (before : List Char) : loweredAfter before [] = [] := rfl

theorem loweredAfter_cons (before : List Char) (c : Char) (cs : List Char) :
    loweredAfter before (c :: cs) =
      lowerCharBetween before c cs ++ loweredAfter (c :: before) cs := rfl

@[simp] theorem toList_lowercase (s : String) : (lowercase s).toList = lowered s.toList := by
  simp [lowercase]

end SyntaxPaths.Text
