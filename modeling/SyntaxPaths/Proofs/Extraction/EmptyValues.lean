import SyntaxPaths.Feature
import SyntaxPaths.Proofs.Extraction.Candidates
import SyntaxPaths.Proofs.Path.Anchor
import SyntaxPaths.Proofs.SyntaxTree.Copy
import SyntaxPaths.Proofs.Text.Subtoken

/-!
# Sampled root paths with empty values

A root path may be sampled only if its anchor is not empty.  The anchor is tested with its
mark, so this turns nobody away, and root paths whose values are empty are sampled like all
others (`sampledBlank_underscore`).

`samplesAnyValue_of_build` says which they are.  The value is empty where a name of
underscores is named alone, by itself or by a statement with no other identifier.  A path
gives no anchor tokens in these cases, and in one more: where the statement names several
identifiers, and none of them has a sub-token.
-/

namespace SyntaxPaths

open Randomness Text

/-! ### Tokens -/

/-- The labels of the ancestors without their marks, as far as something is left of them. -/
def RootPath.labelTokens (path : RootPath) : List String :=
  (path.ancestors.map Label.unmark).filter (!·.isEmpty)

/-- **The tokens of root paths** are those of their labels and their anchors. -/
theorem rootPathTokens_eq_flatMap (paths : List RootPath) :
    rootPathTokens paths = paths.flatMap fun path => path.labelTokens ++ path.anchorTokens := by
  rw [rootPathTokens, List.filter_flatMap]
  refine List.flatMap_congr fun path _ => ?_
  rw [List.filter_append]
  rfl

/-! ### Source texts -/

namespace SyntaxTree

/-- **The value of a terminal** is made of the sub-tokens of its text. -/
theorem exists_text_of_terminal {raw : ParseTree} {lines : List String} {tree : SyntaxTree}
    (h : build .verbatim raw lines = .ok tree) {i : Nat} (hi : i ∈ tree.terminals) :
    ∃ source text, raw.levelOrder[i]? = some source ∧
      coveredText (normalKind source.kind) source.span lines = .ok text ∧
      (tree.node i).value = tokenize text := by
  have hlayout := hasLayout_of_build h
  obtain ⟨hlt, hterminal⟩ := hlayout.mem_terminals.mp hi
  rw [hlayout.size_eq, List.length_map] at hlt
  have hsource := List.getElem?_eq_getElem hlt
  obtain ⟨-, -, text, htext, hvalue⟩ := node_of_build h hsource
  have hleaf : raw.levelOrder[i].children.isEmpty = true := by
    have hchildren := hlayout.map_children hsource
    rw [List.isEmpty_iff.mp hterminal, List.map_nil] at hchildren
    rw [List.map_eq_nil_iff.mp hchildren.symm]
    rfl
  rw [hleaf] at hvalue
  exact ⟨_, text, hsource, htext, hvalue⟩

/-- How the value and the tokens of a root path depend on its terminal, which covers the
given text. -/
structure ReadsAnchor (tree : SyntaxTree) (style : TreeStyle) (i : Nat) (text : String)
    (path : RootPath) : Prop where
  /-- The path leads to an identifier. -/
  kind_eq : (tree.node i).kind = identifierKind
  /-- It is the root path of this terminal. -/
  path_eq : path = tree.rootPath style i
  /-- It has an ancestor. -/
  ancestors_ne_nil : path.ancestors ≠ []
  /-- With its mark, the anchor is not empty. -/
  anchor_ne_empty : path.anchor ≠ ""
  /-- Without its mark it is, if only underscores are named. -/
  value_eq_empty_iff : path.value = "" ↔
    tree.namedIdentifiers style i = [i] ∧ ∀ c ∈ text.toList, c = '_'
  /-- It gives no tokens if no named identifier has a sub-token. -/
  anchorTokens_eq_nil_iff : path.anchorTokens = [] ↔
    ∀ j ∈ tree.namedIdentifiers style i, ∀ c ∈ (tree.node j).value.toList, c = separator

end SyntaxTree

/-! ### Samples -/

/-- **Root paths are sampled whatever their values.** -/
structure SamplesAnyValue (raw : ParseTree) (lines : List String) (settings : Settings)
    (tree : SyntaxTree) (session : Session) (stream : WordStream) : Prop where
  /-- All identifiers whose root paths keep an ancestor may be sampled. -/
  candidatePaths_eq : candidatePaths tree settings.treeStyleOrDefault =
    (tree.candidates settings.treeStyleOrDefault).map (tree.rootPath settings.treeStyleOrDefault)
  /-- What is sampled leads to one of them, and its value follows from the source text. -/
  readsAnchor : ∀ path ∈ (sampleRootPaths settings tree session stream).paths,
    ∃ i source text, raw.levelOrder[i]? = some source ∧
      coveredText (normalKind source.kind) source.span lines = .ok text ∧
      tree.ReadsAnchor settings.treeStyleOrDefault i text path
  /-- The tokens of the sample are those of its labels and its anchors. -/
  tokens_eq : rootPathTokens (sampleRootPaths settings tree session stream).paths =
    (sampleRootPaths settings tree session stream).paths.flatMap fun path =>
      path.labelTokens ++ path.anchorTokens

/-- **A candidate** has the value of its text, which may be empty. -/
theorem SyntaxTree.exists_readsAnchor {raw : ParseTree} {lines : List String} {tree : SyntaxTree}
    (h : build .verbatim raw lines = .ok tree) {style : TreeStyle} {i : Nat}
    (hi : i ∈ tree.candidates style) :
    ∃ source text, raw.levelOrder[i]? = some source ∧
      coveredText (normalKind source.kind) source.span lines = .ok text ∧
      tree.ReadsAnchor style i text (tree.rootPath style i) := by
  obtain ⟨hterminal, hkind, hkept⟩ := mem_candidates.mp hi
  obtain ⟨source, text, hsource, htext, hvalue⟩ := exists_text_of_terminal h hterminal
  have hnamed : i ∈ tree.namedIdentifiers style i :=
    (isLinked_of_build h).mem_namedIdentifiers hkind
  refine ⟨source, text, hsource, htext, hkind, rfl, ?_, anchor_rootPath_ne_empty tree style i,
    ?_, ?_⟩
  · exact ancestors_rootPath_eq_nil_iff.not.mpr hkept
  · rw [value_rootPath, anchorValue_eq_empty_iff hnamed, hvalue, tokenize_eq_empty_iff]
  · rw [RootPath.anchorTokens, value_rootPath, filter_pieces_anchorValue_eq_nil_iff hnamed]

/-- **Every sample of a built tree** holds root paths whatever their values. -/
theorem samplesAnyValue_of_build {raw : ParseTree} {lines : List String} {tree : SyntaxTree}
    (h : SyntaxTree.build .verbatim raw lines = .ok tree) (settings : Settings)
    (session : Session) (stream : WordStream) :
    SamplesAnyValue raw lines settings tree session stream where
  candidatePaths_eq := candidatePaths_eq tree settings.treeStyleOrDefault
  readsAnchor := by
    intro path hpath
    obtain ⟨i, hi, rfl⟩ := exists_candidate_of_mem_sample hpath
    obtain ⟨source, text, hsource, htext, hreads⟩ := SyntaxTree.exists_readsAnchor h hi
    exact ⟨i, source, text, hsource, htext, hreads⟩
  tokens_eq := rootPathTokens_eq_flatMap _

/-- The parse tree of the line `_`, a module with one name. -/
def ParseTree.underscore : ParseTree :=
  .node "module" (.columns 0 1) [.node "identifier" (.columns 0 1) []]

/-- The tree of the line `_`. -/
def SyntaxTree.underscore : SyntaxTree :=
  .layout [⟨"module", "_", .columns 0 1⟩, ⟨"identifier", "", .columns 0 1⟩] [1, 0]

theorem samplesAnyValue_underscore :
    SyntaxTree.build .verbatim .underscore ["_"] = .ok .underscore ∧
      (⟨["_@0~0~0~1"], "@0~0~0~1"⟩ : RootPath) ∈
        (sampleRootPaths .unset .underscore .empty (.ofSeed 0)).paths ∧
      SamplesAnyValue .underscore ["_"] .unset .underscore .empty (.ofSeed 0) := by
  have hbuilt : SyntaxTree.build .verbatim .underscore ["_"] = .ok .underscore := by
    decide +kernel
  have hsampled : (⟨["_@0~0~0~1"], "@0~0~0~1"⟩ : RootPath) ∈
      (sampleRootPaths .unset .underscore .empty (.ofSeed 0)).paths := by
    decide +kernel
  exact ⟨hbuilt, hsampled, samplesAnyValue_of_build hbuilt .unset .empty (.ofSeed 0)⟩

/-- **A sampled root path can have an empty value**, and then gives no tokens for its
anchor. -/
theorem sampledBlank_underscore :
    (SyntaxTree.build .verbatim .underscore ["_"]).map (fun tree =>
      (sampleRootPaths .unset tree .empty (.ofSeed 0)).paths.map fun path =>
        (path, path.value, path.anchorTokens)) =
      .ok [(⟨["_@0~0~0~1"], "@0~0~0~1"⟩, "", [])] := by
  decide +kernel

end SyntaxPaths
