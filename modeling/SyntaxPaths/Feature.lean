import SyntaxPaths.CodeUnit
import SyntaxPaths.Label

/-!
# Token features

A model reads flat sequences of tokens.  The tokens of paths are their labels
without marks, anchors cut into sub-tokens; empty tokens are left out.

## Main definitions

* `rootPathTokens`, `leafPathTokens` — the tokens of paths
* `PathFamily`, `codeTokens` — the tokens of a source text
* `Document`, `DataType`, `Document.tokens` — the tokens of a record of a corpus
* `CodeUnit.tryPathTokens`, `tryCodeTokens`, `Document.tryTokens` — the same of samples
  in tables for the quotas, as they run
-/

namespace SyntaxPaths

open Randomness Text

/-- The tokens of root paths: of each path the labels of its ancestors, and then
the pieces of its anchor. -/
def rootPathTokens (paths : List RootPath) : List String :=
  (paths.flatMap fun path =>
    path.ancestors.map Label.unmark ++ pieces separator (Label.unmark path.anchor)).filter
      (!·.isEmpty)

/-- The tokens of leaf paths: of each path all its pieces. -/
def leafPathTokens (paths : List LeafPath) : List String :=
  (paths.flatMap fun path => path.tokens.map Label.unmark).filter (!·.isEmpty)

/-- The two families of paths. -/
inductive PathFamily where
  /-- Root paths. -/
  | root
  /-- Leaf paths. -/
  | leaf
  deriving DecidableEq, Repr

/-- The tokens of sampled paths of a unit, in a session of their own. -/
def CodeUnit.pathTokens (unit : CodeUnit) (family : PathFamily) (stream : WordStream) :
    List String :=
  match family with
  | .root => rootPathTokens (unit.sampleRootPaths .empty stream).paths
  | .leaf => leafPathTokens (unit.sampleLeafPaths .empty stream).paths

/-- The tokens of paths that are sampled in tables for the quotas. -/
def CodeUnit.tryPathTokens (unit : CodeUnit) (family : PathFamily) (stream : WordStream) :
    Except QuotaFault (List String) :=
  match family with
  | .root => (unit.trySampleRootPaths .empty stream).map (rootPathTokens ·.paths)
  | .leaf => (unit.trySampleLeafPaths .empty stream).map (leafPathTokens ·.paths)

/-- **The tokens of a source text**, for which a parser has given an answer. -/
def codeTokens (normalizer : Normalizer) (settings : Settings) (family : PathFamily)
    (parsed : Except ParseError ParseTree) (source : String) (unseeded : WordStream) :
    Except PipelineError (List String) :=
  (CodeUnit.ofAnswer normalizer settings parsed source).map fun unit =>
    unit.pathTokens family (settings.stream unseeded)

/-- The tokens of a source text, of paths that are sampled in tables for the quotas.
Nothing is sampled where there is no unit. -/
def tryCodeTokens (normalizer : Normalizer) (settings : Settings) (family : PathFamily)
    (parsed : Except ParseError ParseTree) (source : String) (unseeded : WordStream) :
    Except QuotaFault (Except PipelineError (List String)) :=
  match CodeUnit.ofAnswer normalizer settings parsed source with
  | .error cause => .ok (.error cause)
  | .ok unit => (unit.tryPathTokens family (settings.stream unseeded)).map .ok

/-- A record of a corpus. -/
structure Document where
  /-- The name of the language. -/
  language : String
  /-- The source text for training. -/
  code : String
  /-- The source text for evaluation. -/
  function : String
  /-- The tokens of the source text for training. -/
  codeTokens : List String
  /-- The tokens of the source text for evaluation. -/
  functionTokens : List String
  deriving DecidableEq, Repr, Inhabited

/-- Where the tokens of a record are taken from. -/
inductive DataType where
  /-- The tokens that come with the record. -/
  | code
  /-- Paths of the source text. -/
  | paths (family : PathFamily)
  deriving DecidableEq, Repr

namespace Document

/-- The source text that is used. -/
def source (doc : Document) (evaluation : Bool) : String :=
  if evaluation then doc.function else doc.code

/-- The tokens that come with the record. -/
def ownTokens (doc : Document) (evaluation : Bool) : List String :=
  if evaluation then doc.functionTokens else doc.codeTokens

/-- **The tokens of a record**, where a parser has given an answer for the source
text that is used. -/
def tokens (doc : Document) (normalizer : Normalizer) (settings : Settings) (data : DataType)
    (evaluation : Bool) (parsed : Except ParseError ParseTree) (unseeded : WordStream) :
    Except PipelineError (List String) :=
  match data with
  | .code => .ok (doc.ownTokens evaluation)
  | .paths family =>
    SyntaxPaths.codeTokens normalizer settings family (answerIn doc.language parsed)
      (doc.source evaluation) unseeded

/-- The tokens of a record, of paths that are sampled in tables for the quotas. -/
def tryTokens (doc : Document) (normalizer : Normalizer) (settings : Settings)
    (data : DataType) (evaluation : Bool) (parsed : Except ParseError ParseTree)
    (unseeded : WordStream) : Except QuotaFault (Except PipelineError (List String)) :=
  match data with
  | .code => .ok (.ok (doc.ownTokens evaluation))
  | .paths family =>
    tryCodeTokens normalizer settings family (answerIn doc.language parsed)
      (doc.source evaluation) unseeded

end Document

end SyntaxPaths
