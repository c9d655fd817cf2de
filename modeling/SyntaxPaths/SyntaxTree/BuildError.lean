import SyntaxPaths.Failure
import SyntaxPaths.Position

/-!
# Why a parse tree does not fit its source

A parse tree comes with the lines of the source text that it was made from.  A
node does not fit when its coordinates select no text in these lines; the three
causes below are the ways in which that happens.
-/

namespace SyntaxPaths

open Text

/-- The causes for which no syntax tree can be built. -/
inductive BuildError where
  /-- A node starts in a line that does not exist. -/
  | lineOutOfRange (row lineCount : Nat)
  /-- The columns of a node lie outside its line, or inside a character. -/
  | invalidColumns (row start stop lineLength : Nat)
  /-- A node stops before it starts. -/
  | endBeforeStart (kind : String) (start stop : Point)
  deriving DecidableEq, Repr

namespace BuildError

/-- The cause in one sentence. -/
def message : BuildError → String
  | .lineOutOfRange row lineCount =>
    "Line " ++ decimal row ++ " out of range: source has " ++ decimal lineCount ++ " lines"
  | .invalidColumns row start stop lineLength =>
    "Invalid columns " ++ decimal start ++ ".." ++ decimal stop ++ " on line " ++
      decimal row ++ " (length " ++ decimal lineLength ++ ")"
  | .endBeforeStart kind start stop =>
    "Node `" ++ kind ++ "` ends at " ++ stop.text ++ " before it starts at " ++ start.text

instance : Failure BuildError where
  message := message
  code := fun _ => .build

end BuildError

end SyntaxPaths
