import SyntaxPaths.Proofs.Extraction.EmptyValues
import SyntaxPaths.Proofs.Extraction.Styles

/-!
# What the features of root paths keep

The features of a root path are its labels and the sub-tokens of its anchor, all without
marks.  A mark is taken away from a whole label, and from a whole anchor before that is cut.
So it is always the last delimiter that is found, and what stands in front of it is the full
text of the tree: delimiters, dividers and digits in the text itself do no harm.

* **Labels stay whole.**  The label of an ancestor is one token, even if it holds separators
  (`SyntaxTree.map_unmark_ancestors`).
* **Anchors are cut.**  The tokens of an anchor are the sub-tokens of all the values that it
  is made of (`SyntaxTree.subtokens_anchorValue`).

Empty labels and empty sub-tokens are left out, and nothing else is
(`readsRootTokens_of_build`).
-/

namespace SyntaxPaths

open Randomness Text

/-- The pieces of a value that are not empty. -/
def subtokens (value : String) : List String :=
  (pieces separator value).filter (!·.isEmpty)

theorem ne_empty_of_mem_subtokens {value token : String} (h : token ∈ subtokens value) :
    token ≠ "" := by
  have hne := (List.mem_filter.mp h).2
  rintro rfl
  cases hne

theorem not_mem_of_mem_subtokens {value token : String} (h : token ∈ subtokens value) :
    separator ∉ token.toList :=
  not_mem_of_mem_pieces (List.mem_filter.mp h).1

namespace SyntaxTree

variable {tree : SyntaxTree} {style : TreeStyle}

/-- The labels of the ancestors that a root path keeps, the root first, without marks. -/
def keptLabels (tree : SyntaxTree) (style : TreeStyle) (i : Nat) : List String :=
  (tree.keptAncestors style i).reverse.map fun a => (tree.node a).label style

/-- What a terminal gives to the features of root paths: the labels of its ancestors, and the
sub-tokens of its anchor value. -/
def rootTokens (tree : SyntaxTree) (style : TreeStyle) (i : Nat) : List String :=
  (tree.keptLabels style i).filter (!·.isEmpty) ++ subtokens (tree.anchorValue style i)

/-- **Without marks** the labels of a root path are those of the ancestors. -/
theorem map_unmark_ancestors (tree : SyntaxTree) (style : TreeStyle) (i : Nat) :
    (tree.rootPath style i).ancestors.map Label.unmark = tree.keptLabels style i := by
  rw [ancestors_rootPath, keptLabels, ← List.map_reverse, List.map_map]
  apply List.map_congr_left
  intro a _
  exact Label.unmark_append_mark _ _

theorem labelTokens_append_anchorTokens (tree : SyntaxTree) (style : TreeStyle) (i : Nat) :
    (tree.rootPath style i).labelTokens ++ (tree.rootPath style i).anchorTokens =
      tree.rootTokens style i := by
  rw [RootPath.labelTokens, RootPath.anchorTokens, map_unmark_ancestors, value_rootPath]
  rfl

/-- **An anchor has the sub-tokens** of all values that it is made of. -/
theorem subtokens_anchorValue {i : Nat} (hmem : i ∈ tree.namedIdentifiers style i) :
    subtokens (tree.anchorValue style i) =
      (tree.namedIdentifiers style i).flatMap fun j => subtokens (tree.node j).value := by
  rw [subtokens, pieces_anchorValue hmem, List.filter_flatMap]
  rfl

theorem ne_empty_of_mem_rootTokens {i : Nat} {token : String}
    (h : token ∈ tree.rootTokens style i) : token ≠ "" := by
  rcases List.mem_append.mp h with hlabel | hanchor
  · have hne := (List.mem_filter.mp hlabel).2
    rintro rfl
    cases hne
  · exact ne_empty_of_mem_subtokens hanchor

/-- Only a label can bring a separator with it. -/
theorem exists_ancestor_of_separator_mem {i : Nat} {token : String}
    (h : token ∈ tree.rootTokens style i) (hseparator : separator ∈ token.toList) :
    ∃ a ∈ tree.keptAncestors style i, token = (tree.node a).label style := by
  rcases List.mem_append.mp h with hlabel | hanchor
  · obtain ⟨a, ha, rfl⟩ := List.mem_map.mp (List.mem_filter.mp hlabel).1
    exact ⟨a, List.mem_reverse.mp ha, rfl⟩
  · exact absurd hseparator (not_mem_of_mem_subtokens hanchor)

end SyntaxTree

/-! ### Samples -/

/-- **The tokens of sampled root paths** are those of the sampled terminals. -/
theorem rootPathTokens_sampleRootPaths (settings : Settings) (tree : SyntaxTree)
    (session : Session) (stream : WordStream) :
    rootPathTokens (sampleRootPaths settings tree session stream).paths =
      (sampleTerminals settings tree stream).1.flatMap
        (tree.rootTokens settings.treeStyleOrDefault) := by
  rw [rootPathTokens_eq_flatMap, (sampleRootPaths_eq_map settings tree session stream).1,
    List.flatMap_map]
  exact List.flatMap_congr fun i _ => tree.labelTokens_append_anchorTokens _ i

/-- A terminal whose root path is sampled is an identifier among the leaves of the tree. -/
theorem sampleTerminals_subset (settings : Settings) (tree : SyntaxTree) (stream : WordStream) :
    (sampleTerminals settings tree stream).1 ⊆ tree.candidates settings.treeStyleOrDefault := by
  have hsublist := fillQuota_sublist chooseIndices
    (terminalTiers tree settings.treeStyleOrDefault) settings.rootPathQuotaOrDefault stream
  intro i hi
  have hmem := hsublist.subset hi
  rw [terminalTiers, List.flatten_cons, List.flatten_singleton, List.mem_append,
    List.mem_filter, List.mem_filter] at hmem
  rcases hmem with ⟨hcandidate, -⟩ | ⟨hcandidate, -⟩
  · exact hcandidate
  · exact hcandidate

/-- **The features of root paths lose nothing but marks.** -/
structure ReadsRootTokens (settings : Settings) (tree : SyntaxTree) (session : Session)
    (stream : WordStream) : Prop where
  /-- The sampled paths are the root paths of the sampled terminals. -/
  paths_eq : (sampleRootPaths settings tree session stream).paths =
    (sampleTerminals settings tree stream).1.map (tree.rootPath settings.treeStyleOrDefault)
  /-- Path by path, the tokens are the labels of the ancestors and the sub-tokens of the
  anchor value. -/
  tokens_eq : rootPathTokens (sampleRootPaths settings tree session stream).paths =
    (sampleTerminals settings tree stream).1.flatMap fun i =>
      (tree.keptLabels settings.treeStyleOrDefault i).filter (!·.isEmpty) ++
        subtokens (tree.anchorValue settings.treeStyleOrDefault i)
  /-- The sub-tokens of an anchor value are those of the terminal, or those of all identifiers
  of its statement. -/
  subtokens_eq : ∀ i ∈ (sampleTerminals settings tree stream).1,
    subtokens (tree.anchorValue settings.treeStyleOrDefault i) =
      (tree.namedIdentifiers settings.treeStyleOrDefault i).flatMap fun j =>
        subtokens (tree.node j).value
  /-- No token is empty. -/
  ne_empty : ∀ token ∈ rootPathTokens (sampleRootPaths settings tree session stream).paths,
    token ≠ ""
  /-- A token with a separator is the label of an ancestor. -/
  exists_ancestor_of_separator_mem :
    ∀ token ∈ rootPathTokens (sampleRootPaths settings tree session stream).paths,
      separator ∈ token.toList →
        ∃ i ∈ (sampleTerminals settings tree stream).1,
          ∃ a ∈ tree.keptAncestors settings.treeStyleOrDefault i,
            token = (tree.node a).label settings.treeStyleOrDefault

/-- **Whatever the tree was built from**, the features of its root paths lose nothing but
marks. -/
theorem readsRootTokens_of_build {normalizer : Normalizer} {raw : ParseTree}
    {lines : List String} {tree : SyntaxTree}
    (h : SyntaxTree.build normalizer raw lines = .ok tree) (settings : Settings)
    (session : Session) (stream : WordStream) :
    ReadsRootTokens settings tree session stream where
  paths_eq := (sampleRootPaths_eq_map settings tree session stream).1
  tokens_eq := rootPathTokens_sampleRootPaths settings tree session stream
  subtokens_eq := by
    intro i hi
    have hcandidate := sampleTerminals_subset settings tree stream hi
    have hkind := (SyntaxTree.mem_candidates.mp hcandidate).2.1
    exact SyntaxTree.subtokens_anchorValue
      ((SyntaxTree.isLinked_of_build h).mem_namedIdentifiers hkind)
  ne_empty := by
    intro token htoken
    rw [rootPathTokens_sampleRootPaths] at htoken
    obtain ⟨i, -, hmem⟩ := List.mem_flatMap.mp htoken
    exact SyntaxTree.ne_empty_of_mem_rootTokens hmem
  exists_ancestor_of_separator_mem := by
    intro token htoken hseparator
    rw [rootPathTokens_sampleRootPaths] at htoken
    obtain ⟨i, hi, hmem⟩ := List.mem_flatMap.mp htoken
    exact ⟨i, hi, SyntaxTree.exists_ancestor_of_separator_mem hmem hseparator⟩

/-- The parse tree of the line `x@1|yZ`, an expression statement with two names. -/
def ParseTree.markedNames : ParseTree :=
  .node "module" (.columns 0 6)
    [.node "expression_statement" (.columns 0 6)
      [.node "identifier" (.columns 0 3) [], .node "operator" (.columns 3 4) [],
        .node "identifier" (.columns 4 6) []]]

/-- A normalizer that changes no text, and so leaves separators in the values of inner nodes. -/
def Normalizer.untouched : Normalizer where
  desensitize := id
  formalize := id

/-- The tree of the line `x@1|yZ`, with the texts as they are. -/
def SyntaxTree.markedNames : SyntaxTree :=
  .layout
    [⟨"module", "x@1|yZ", .columns 0 6⟩, ⟨"expression_statement", "x@1|yZ", .columns 0 6⟩,
      ⟨"identifier", "x@1", .columns 0 3⟩, ⟨"operator", "|", .columns 3 4⟩,
      ⟨"identifier", "y|z", .columns 4 6⟩]
    [1, 3, 0, 0, 0]

/-- A label and a name hold a delimiter, the label a separator, too; in a style that describes
statements both terminals have the same tokens. -/
theorem readsRootTokens_markedNames :
    let settings := { Settings.unset with treeStyle := some .hpt }
    SyntaxTree.build .untouched .markedNames ["x@1|yZ"] = .ok .markedNames ∧
      rootPathTokens (sampleRootPaths settings .markedNames .empty (.ofSeed 0)).paths =
        ["x@1|yZ", "x@1", "y", "z", "x@1|yZ", "x@1", "y", "z"] ∧
      ReadsRootTokens settings .markedNames .empty (.ofSeed 0) := by
  intro settings
  have hbuilt : SyntaxTree.build .untouched .markedNames ["x@1|yZ"] = .ok .markedNames := by
    decide +kernel
  have htokens : rootPathTokens (sampleRootPaths settings .markedNames .empty (.ofSeed 0)).paths =
      ["x@1|yZ", "x@1", "y", "z", "x@1|yZ", "x@1", "y", "z"] := by
    decide +kernel
  exact ⟨hbuilt, htokens, readsRootTokens_of_build hbuilt settings .empty (.ofSeed 0)⟩

end SyntaxPaths
