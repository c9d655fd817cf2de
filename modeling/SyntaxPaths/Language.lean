import SyntaxPaths.Failure
import SyntaxPaths.Text.Blank

/-!
# Languages

The programming languages whose source text can be processed, and the failures at
the border to the parsers for them.

## Main definitions

* `Language`, with `Language.name`
* `Language.read` — the language of a name
* `ParseError` — why there is no parse tree
-/

namespace SyntaxPaths

open Text

/-- The supported programming languages. -/
inductive Language where
  /-- The language `go`. -/
  | go
  /-- The language `java`. -/
  | java
  /-- The language `javascript`. -/
  | javaScript
  /-- The language `php`. -/
  | php
  /-- The language `python`. -/
  | python
  /-- The language `ruby`. -/
  | ruby
  deriving DecidableEq, Repr, Inhabited

/-- The causes for which there is no parse tree. -/
inductive ParseError where
  /-- The language is not a supported one. -/
  | unsupportedLanguage (name : String)
  /-- The parser has no grammar for the language. -/
  | grammarNotFound (language : String)
  /-- The parser failed on the source text. -/
  | parserFailed (language message : String)
  deriving DecidableEq, Repr

namespace ParseError

/-- The cause in one sentence. -/
def message : ParseError → String
  | .unsupportedLanguage name => "Unsupported language: " ++ name
  | .grammarNotFound language => "Grammar not found for language: " ++ language
  | .parserFailed language message =>
    "Tree-sitter error parsing " ++ language ++ " source: " ++ message

/-- An unsupported language has a code of its own. -/
def code : ParseError → ErrorCode
  | .unsupportedLanguage _ => .unsupportedLanguage
  | .grammarNotFound _ => .parse
  | .parserFailed _ _ => .parse

instance : Failure ParseError where
  message := message
  code := code

end ParseError

namespace Language

/-- The name of a language in records of a corpus. -/
def name : Language → String
  | .go => "go"
  | .java => "java"
  | .javaScript => "javascript"
  | .php => "php"
  | .python => "python"
  | .ruby => "ruby"

/-- All languages. -/
def all : List Language :=
  [.go, .java, .javaScript, .php, .python, .ruby]

/-- The language of a name.  Surrounding blanks do not count, and neither does the
case of ASCII letters. -/
def read (s : String) : Except ParseError Language :=
  let wanted := String.ofList ((trimmed s.toList).map Char.toLower)
  match all.find? (·.name == wanted) with
  | some language => .ok language
  | none => .error (.unsupportedLanguage s)

end Language

end SyntaxPaths
