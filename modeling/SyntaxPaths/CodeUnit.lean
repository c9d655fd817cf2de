import SyntaxPaths.Coverage
import SyntaxPaths.Extraction
import SyntaxPaths.Language
import SyntaxPaths.Rendering.Binary
import SyntaxPaths.Settings.Error
import SyntaxPaths.SyntaxTree.Build

/-!
# Units of code

A unit is one piece of source text with its syntax tree and the settings under
which it is processed.

## Main definitions

* `PipelineError` — all that can go wrong on the way from source text to a result
* `CodeUnit` — a tree with its settings
* `answerIn` — what a parser answers for a text in a named language
* `CodeUnit.ofSource`, `CodeUnit.ofAnswer` — the unit of a source text and its
  parse tree, or of what a parser answered
* `CodeUnit.sampleRootPaths`, `CodeUnit.sampleLeafPaths`, `CodeUnit.coverage`,
  `CodeUnit.nestedTokens`, `CodeUnit.binaryTokens` — what is made of it
* `CodeUnit.trySampleRootPaths`, `CodeUnit.trySampleLeafPaths`, `CodeUnit.tryCoverage` —
  how samples run, in tables for the quotas
-/

namespace SyntaxPaths

open Randomness Text

/-- The causes for which the processing of a unit is given up. -/
inductive PipelineError where
  /-- There is no parse tree. -/
  | parse (cause : ParseError)
  /-- The parse tree does not fit the source text. -/
  | build (cause : BuildError)
  /-- There is no coverage. -/
  | coverage (cause : CoverageError)
  /-- The configuration is refused. -/
  | config (cause : ConfigError)
  deriving DecidableEq, Repr

namespace PipelineError

/-- The cause in one sentence, with the part of the pipeline in front. -/
def message : PipelineError → String
  | .parse cause => "Parse error: " ++ cause.message
  | .build cause => "Build error: " ++ cause.message
  | .coverage cause => "Coverage error: " ++ cause.message
  | .config cause => "Configuration error: " ++ cause.message

/-- The code is that of the cause. -/
def code : PipelineError → ErrorCode
  | .parse cause => Failure.code cause
  | .build cause => Failure.code cause
  | .coverage cause => Failure.code cause
  | .config cause => Failure.code cause

instance : Failure PipelineError where
  message := message
  code := code

end PipelineError

/-- The lines of a source text.  Only a line feed ends a line, and a text has one
line more than line feeds. -/
def sourceLines (source : String) : List String :=
  pieces '\n' source

/-- What a parser answers for a text in the language of the given name, where
`parsed` is its answer in case the language is supported. -/
def answerIn (language : String) (parsed : Except ParseError ParseTree) :
    Except ParseError ParseTree :=
  match Language.read language with
  | .error cause => .error cause
  | .ok _ => parsed

/-- A syntax tree with the settings under which it is processed. -/
structure CodeUnit where
  /-- The tree. -/
  tree : SyntaxTree
  /-- The settings. -/
  settings : Settings
  deriving DecidableEq

namespace CodeUnit

/-- The unit of a source text and its parse tree. -/
def ofSource (normalizer : Normalizer) (settings : Settings) (parsed : ParseTree)
    (source : String) : Except BuildError CodeUnit :=
  (SyntaxTree.build normalizer parsed (sourceLines source)).map fun tree => { tree, settings }

/-- The unit of a source text for which a parser has given an answer. -/
def ofAnswer (normalizer : Normalizer) (settings : Settings)
    (parsed : Except ParseError ParseTree) (source : String) : Except PipelineError CodeUnit :=
  match parsed with
  | .error cause => .error (.parse cause)
  | .ok parsed => (ofSource normalizer settings parsed source).mapError .build

/-- Sampled root paths of the unit. -/
def sampleRootPaths (unit : CodeUnit) (session : Session) (stream : WordStream) :
    Sampled RootPath :=
  SyntaxPaths.sampleRootPaths unit.settings unit.tree session stream

/-- Sampled leaf paths of the unit. -/
def sampleLeafPaths (unit : CodeUnit) (session : Session) (stream : WordStream) :
    Sampled LeafPath :=
  SyntaxPaths.sampleLeafPaths unit.settings unit.tree session stream

/-- The coverage of the unit by leaf paths, sampled in a session of their own,
with the stream behind them. -/
def coverage (unit : CodeUnit) (stream : WordStream) :
    Except CoverageError (Coverage Ratio) × WordStream :=
  let sampled := unit.sampleLeafPaths .empty stream
  (sampled.session.coverage unit.tree.eldestCount, sampled.stream)

/-- Sampled root paths of the unit, in a table for the quota. -/
def trySampleRootPaths (unit : CodeUnit) (session : Session) (stream : WordStream) :
    Except QuotaFault (Sampled RootPath) :=
  SyntaxPaths.trySampleRootPaths unit.settings unit.tree session stream

/-- Sampled leaf paths of the unit, in tables for both quotas. -/
def trySampleLeafPaths (unit : CodeUnit) (session : Session) (stream : WordStream) :
    Except QuotaFault (Sampled LeafPath) :=
  SyntaxPaths.trySampleLeafPaths unit.settings unit.tree session stream

/-- The coverage of the unit by leaf paths that are sampled in tables for both
quotas. -/
def tryCoverage (unit : CodeUnit) (stream : WordStream) :
    Except QuotaFault (Except CoverageError (Coverage Ratio) × WordStream) :=
  (unit.trySampleLeafPaths .empty stream).map fun sampled =>
    (sampled.session.coverage unit.tree.eldestCount, sampled.stream)

/-- The tokens of the structure-based rendering. -/
def nestedTokens (unit : CodeUnit) : List String :=
  unit.tree.nestedTokens

/-- The tokens of the rendering of the binary view, under the depth limit of the
settings. -/
def binaryTokens (unit : CodeUnit) : List String :=
  unit.tree.binaryTokens unit.settings.depthLimitOrDefault

end CodeUnit

end SyntaxPaths
