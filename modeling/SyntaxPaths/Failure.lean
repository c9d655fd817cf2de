/-!
# Failures

Each part of the library has its own type of failures, whose constructors are the
causes.  What all of them share is that a failure can be shown to a person, as a
sentence, and to a program, as a stable code.

## Main definitions

* `ErrorCode` — the codes, and `ErrorCode.text`, their spelling
* `Failure` — the types of failures that have a message and a code
* `coded` — both in one line
-/

namespace SyntaxPaths

/-- The stable codes of failures. -/
inductive ErrorCode where
  /-- Source text could not be parsed. -/
  | parse
  /-- A language is not among the supported ones. -/
  | unsupportedLanguage
  /-- A parse tree does not fit its source text. -/
  | build
  /-- A tree is too deep to be rendered. -/
  | serializeDepth
  /-- A tree has no links that could be covered. -/
  | degenerateTree
  /-- A configuration is missing, malformed or out of range. -/
  | config
  deriving DecidableEq, Repr

/-- The spelling of a code. -/
def ErrorCode.text : ErrorCode → String
  | .parse => "PARSE_ERROR"
  | .unsupportedLanguage => "UNSUPPORTED_LANGUAGE"
  | .build => "BUILD_ERROR"
  | .serializeDepth => "SERIALIZE_DEPTH"
  | .degenerateTree => "DEGENERATE_TREE"
  | .config => "CONFIG_ERROR"

/-- A type of failures: every one has a message for people and a code for
programs. -/
class Failure (ε : Type) where
  /-- The failure in one sentence. -/
  message : ε → String
  /-- The code of the failure. -/
  code : ε → ErrorCode

/-- The code in brackets, then the message. -/
def coded {ε : Type} [Failure ε] (e : ε) : String :=
  "[" ++ (Failure.code e).text ++ "] " ++ Failure.message e

end SyntaxPaths
