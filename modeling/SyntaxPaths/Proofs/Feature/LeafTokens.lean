import Mathlib.Algebra.Order.BigOperators.Group.List
import SyntaxPaths.Proofs.Feature.RootTokens
import SyntaxPaths.Proofs.Text.Lowercase

/-!
# What the features of leaf paths keep

A leaf path is cut into pieces first, and then of each piece the mark is taken away.  The
mark of an anchor stands in its last piece.  The other pieces have none, and lose what stands
behind their last delimiter (`map_unmark_pieces_append_mark`).

So the tokens of leaf paths are those of the ways between their terminals, with full labels,
except for a loss in the anchors (`exists_readsLeafTokens_of_build`).  **Nothing but marks is
lost exactly if** no anchor value has a delimiter in a piece that is not its last one.  One
loss cannot make up for another, since the texts are shorter after each of them
(`textLength_readSubtokens_lt`).
-/

namespace SyntaxPaths

open Randomness Text

/-! ### Pieces of a marked value -/

/-- The pieces of a value as they are read where every piece is taken to end in a mark, and
only the last one does. -/
def readPieces (value : String) : List String :=
  (pieces separator value).dropLast.map Label.unmark ++ (pieces separator value).getLast?.toList

/-- The pieces that are read, as far as something is left of them. -/
def readSubtokens (value : String) : List String :=
  (readPieces value).filter (!·.isEmpty)

/-- No piece of a value but the last one holds a delimiter of marks. -/
def KeepsPieces (value : String) : Prop :=
  ∀ piece ∈ (pieces separator value).dropLast, markDelimiter ∉ piece.toList

/-- **Of the pieces of a marked value** only the last one has the mark. -/
theorem map_unmark_pieces_append_mark (value : String) (span : Span) :
    (pieces separator (value ++ span.mark)).map Label.unmark = readPieces value := by
  have hmark : separator ∉ span.mark.toList :=
    span.not_mem_mark (by decide) (by decide) (by decide)
  obtain ⟨init, last, hvalue, hmarked⟩ := exists_pieces_append hmark value
  rw [hmarked, readPieces, hvalue, List.dropLast_concat, List.getLast?_concat, List.map_append,
    List.map_singleton, Label.unmark_append_mark]
  rfl

theorem dropLast_append_getLast?_pieces (value : String) :
    (pieces separator value).dropLast ++ (pieces separator value).getLast?.toList =
      pieces separator value := by
  obtain hnil | ⟨init, last, hvalue⟩ := List.eq_nil_or_concat (pieces separator value)
  · exact absurd hnil (pieces_ne_nil separator value)
  · rw [hvalue, List.concat_eq_append, List.dropLast_concat, List.getLast?_concat]
    rfl

/-- Where no delimiter is in the way, all sub-tokens are read. -/
theorem readSubtokens_eq {value : String} (h : KeepsPieces value) :
    readSubtokens value = subtokens value := by
  have hinit : (pieces separator value).dropLast.map Label.unmark =
      (pieces separator value).dropLast :=
    (List.map_congr_left fun piece hpiece => Label.unmark_eq_self (h piece hpiece)).trans
      (List.map_id _)
  rw [readSubtokens, readPieces, hinit, dropLast_append_getLast?_pieces, subtokens]

/-! ### Lengths of texts -/

/-- The number of characters in all texts of a list. -/
def textLength (texts : List String) : Nat :=
  (texts.map String.length).sum

theorem textLength_cons (text : String) (texts : List String) :
    textLength (text :: texts) = text.length + textLength texts := by
  rw [textLength, List.map_cons, List.sum_cons]
  rfl

theorem textLength_append (texts texts' : List String) :
    textLength (texts ++ texts') = textLength texts + textLength texts' := by
  rw [textLength, List.map_append, List.sum_append]
  rfl

theorem textLength_flatMap {α : Type} (f : α → List String) (items : List α) :
    textLength (items.flatMap f) = (items.map fun item => textLength (f item)).sum := by
  induction items with
  | nil => rfl
  | cons item items ih =>
      rw [List.flatMap_cons, textLength_append, ih, List.map_cons, List.sum_cons]

/-- Empty texts have no characters. -/
theorem textLength_filter (texts : List String) :
    textLength (texts.filter (!·.isEmpty)) = textLength texts := by
  induction texts with
  | nil => rfl
  | cons text texts ih =>
      by_cases hempty : text = ""
      · subst hempty
        rw [List.filter_cons_of_neg (by decide), ih, textLength_cons]
        exact (Nat.zero_add _).symm
      · rw [List.filter_cons_of_pos (by simpa using hempty), textLength_cons, ih, textLength_cons]

theorem textLength_map_unmark_lt {texts : List String}
    (h : ∃ text ∈ texts, markDelimiter ∈ text.toList) :
    textLength (texts.map Label.unmark) < textLength texts := by
  obtain ⟨text, htext, hmem⟩ := h
  rw [textLength, textLength, List.map_map]
  apply List.sum_lt_sum
  · intro text _
    exact Label.length_unmark_le text
  · exact ⟨text, htext, Label.length_unmark_lt hmem⟩

/-- **What a delimiter takes away** is missed in the length of the sub-tokens. -/
theorem textLength_readSubtokens_lt {value : String} (h : ¬ KeepsPieces value) :
    textLength (readSubtokens value) < textLength (subtokens value) := by
  have hinit : ∃ piece ∈ (pieces separator value).dropLast, markDelimiter ∈ piece.toList := by
    simpa [KeepsPieces] using h
  have hlt := textLength_map_unmark_lt hinit
  have hwhole := congrArg textLength (dropLast_append_getLast?_pieces value)
  rw [textLength_append] at hwhole
  rw [readSubtokens, subtokens, textLength_filter, textLength_filter, readPieces,
    textLength_append]
  omega

theorem textLength_readSubtokens_le (value : String) :
    textLength (readSubtokens value) ≤ textLength (subtokens value) := by
  by_cases hkeeps : KeepsPieces value
  · rw [readSubtokens_eq hkeeps]
  · exact Nat.le_of_lt (textLength_readSubtokens_lt hkeeps)

/-! ### Ways between terminals -/

/-- The nodes along which a leaf path leads. -/
structure Way where
  /-- The terminal in which it begins. -/
  source : Nat
  /-- The nodes on the way up, the nearest to the source first. -/
  upward : List Nat
  /-- The node where it turns. -/
  summit : Nat
  /-- The nodes on the way down, the nearest to the target last. -/
  downward : List Nat
  /-- The terminal in which it ends. -/
  target : Nat

namespace Way

/-- The two terminals. -/
def ends (way : Way) : Nat × Nat :=
  (way.source, way.target)

/-- The nodes between the terminals, each with the given label. -/
def merge (way : Way) (label : Nat → String) : Merge where
  upward := way.upward.map label
  summit := label way.summit
  downward := way.downward.map label

section Tree

variable (way : Way) (tree : SyntaxTree) (style : TreeStyle) (pathStyle : PathStyle)

/-- The leaf path along a way. -/
def path : LeafPath where
  source := (tree.rootPath style way.source).anchor
  middle := (way.merge (tree.labelAt style)).middle pathStyle
  target := (tree.rootPath style way.target).anchor

/-- What is written between the terminals, with labels that have no marks. -/
def plainMiddle : List String :=
  (way.merge fun a => (tree.node a).label style).middle pathStyle

/-- The tokens of a way: the tokens of the two anchor values, as the given function reads
them, and between them the labels and moves. -/
def tokens (read : String → List String) : List String :=
  read (tree.anchorValue style way.source) ++
    ((way.plainMiddle tree style pathStyle).filter (!·.isEmpty) ++
      read (tree.anchorValue style way.target))

/-- The anchor values of both terminals keep their pieces. -/
def KeepsAnchors : Prop :=
  KeepsPieces (tree.anchorValue style way.source) ∧ KeepsPieces (tree.anchorValue style way.target)

/-- The way is that of a leaf path in a tree. -/
structure LeadsIn : Prop where
  /-- Its labels are those of the merge of two root paths. -/
  merge?_eq : merge? (tree.rootPath style way.source).ancestors
    (tree.rootPath style way.target).ancestors = some (way.merge (tree.labelAt style))
  /-- It goes up along what the root path of the source keeps. -/
  upward_prefix : way.upward ++ [way.summit] <+: tree.keptAncestors style way.source
  /-- It goes down along what the root path of the target keeps. -/
  downward_prefix : way.downward.reverse <+: tree.keptAncestors style way.target

end Tree

variable {way : Way} {tree : SyntaxTree} {style : TreeStyle} {pathStyle : PathStyle}

/-- All sub-tokens of both ends are read exactly if no delimiter is in the way. -/
theorem tokens_readSubtokens_eq (h : way.KeepsAnchors tree style) :
    way.tokens tree style pathStyle readSubtokens = way.tokens tree style pathStyle subtokens := by
  rw [tokens, readSubtokens_eq h.1, readSubtokens_eq h.2, tokens]

theorem textLength_tokens (way : Way) (read : String → List String) :
    textLength (way.tokens tree style pathStyle read) =
      textLength (read (tree.anchorValue style way.source)) +
        (textLength ((way.plainMiddle tree style pathStyle).filter (!·.isEmpty)) +
          textLength (read (tree.anchorValue style way.target))) := by
  rw [tokens, textLength_append, textLength_append]

theorem textLength_tokens_le (way : Way) :
    textLength (way.tokens tree style pathStyle readSubtokens) ≤
      textLength (way.tokens tree style pathStyle subtokens) := by
  have hsource := textLength_readSubtokens_le (tree.anchorValue style way.source)
  have htarget := textLength_readSubtokens_le (tree.anchorValue style way.target)
  rw [textLength_tokens, textLength_tokens]
  omega

theorem textLength_tokens_lt (h : ¬ way.KeepsAnchors tree style) :
    textLength (way.tokens tree style pathStyle readSubtokens) <
      textLength (way.tokens tree style pathStyle subtokens) := by
  have hsource := textLength_readSubtokens_le (tree.anchorValue style way.source)
  have htarget := textLength_readSubtokens_le (tree.anchorValue style way.target)
  rw [textLength_tokens, textLength_tokens]
  rcases not_and_or.mp h with hlost | hlost
  · have hlt := textLength_readSubtokens_lt hlost
    omega
  · have hlt := textLength_readSubtokens_lt hlost
    omega

/-- **Nothing is lost along several ways** exactly if nothing is lost along any of them. -/
theorem flatMap_tokens_eq_iff (ways : List Way) :
    ways.flatMap (·.tokens tree style pathStyle readSubtokens) =
        ways.flatMap (·.tokens tree style pathStyle subtokens) ↔
      ∀ way ∈ ways, way.KeepsAnchors tree style := by
  constructor
  · intro heq way hway
    by_contra hlost
    have hlength := congrArg textLength heq
    rw [textLength_flatMap, textLength_flatMap] at hlength
    refine Nat.ne_of_lt ?_ hlength
    apply List.sum_lt_sum
    · intro way _
      exact way.textLength_tokens_le
    · exact ⟨way, hway, textLength_tokens_lt hlost⟩
  · intro hkeeps
    exact List.flatMap_congr fun way hway => tokens_readSubtokens_eq (hkeeps way hway)

end Way

/-! ### Leaf paths along ways -/

theorem Merge.map_middle {f : String → String} (hup : f up = up) (hdown : f down = down)
    (merge : Merge) (style : PathStyle) :
    (merge.middle style).map f =
      Merge.middle ⟨merge.upward.map f, f merge.summit, merge.downward.map f⟩ style := by
  cases style with
  | labels => simp [middle]
  | moves => simp [middle, hup, hdown]
  | labelsAndMoves => simp [middle, hup, hdown, List.map_flatMap, List.flatMap_map]

namespace SyntaxTree

variable {tree : SyntaxTree} {style : TreeStyle}

/-- **Every leaf path** between two terminals leads along a way. -/
theorem exists_way_of_leafPath? {shape : LeafPathShape} {u v : Nat} {path : LeafPath}
    (h : leafPath? shape (tree.rootPath style u) (tree.rootPath style v) = some path) :
    ∃ way : Way, way.ends = (u, v) ∧ way.LeadsIn tree style ∧
      path = way.path tree style shape.style := by
  obtain ⟨merge, hmerge, hsource, hmiddle, htarget⟩ := exists_merge_of_leafPath? h
  obtain ⟨shared, hu, hv⟩ := Merge.exists_append_of_merge? hmerge
  rw [ancestors_rootPath, List.reverse_eq_iff, List.reverse_append, List.reverse_cons,
    List.append_assoc] at hu hv
  -- The labels of the merge belong to nodes on the two chains.
  obtain ⟨upward, rest, hkept, hup, hrest⟩ := List.map_eq_append_iff.mp hu
  obtain ⟨summit, above, rfl, hsummit, -⟩ := List.map_eq_cons_iff.mp hrest
  obtain ⟨below, rest', hkept', hdown, -⟩ := List.map_eq_append_iff.mp hv
  have heq : merge = Way.merge ⟨u, upward, summit, below.reverse, v⟩ (tree.labelAt style) := by
    obtain ⟨_, _, _⟩ := merge
    simp_all [Way.merge]
  refine ⟨⟨u, upward, summit, below.reverse, v⟩, rfl, ⟨heq ▸ hmerge, ?_, ?_⟩, ?_⟩
  · rw [hkept]
    exact ⟨above, List.append_assoc upward [summit] above⟩
  · rw [hkept', List.reverse_reverse]
    exact List.prefix_append below rest'
  · rw [Way.path, ← heq, ← hsource, ← hmiddle, ← htarget]

/-- The ways of several leaf paths. -/
theorem exists_ways_of_map_some {shape : LeafPathShape} {pairs : List (Nat × Nat)}
    {paths : List LeafPath}
    (h : paths.map some = pairs.map (pathBetween? shape (tree.rootPath style))) :
    ∃ ways : List Way, ways.map Way.ends = pairs ∧ (∀ way ∈ ways, way.LeadsIn tree style) ∧
      paths = ways.map (·.path tree style shape.style) := by
  induction pairs generalizing paths with
  | nil => exact ⟨[], rfl, fun _ hway => absurd hway List.not_mem_nil, List.map_eq_nil_iff.mp h⟩
  | cons pair pairs ih =>
      obtain ⟨path, paths, rfl, hpath, hpaths⟩ := List.map_eq_cons_iff.mp h
      obtain ⟨way, hends, hleads, rfl⟩ := exists_way_of_leafPath? hpath.symm
      obtain ⟨ways, rfl, hall, rfl⟩ := ih hpaths
      exact ⟨way :: ways, by rw [List.map_cons, hends], List.forall_mem_cons.mpr ⟨hleads, hall⟩,
        rfl⟩

/-- The labels of the inner nodes hold no separator. -/
def HasWholeLabels (tree : SyntaxTree) (style : TreeStyle) : Prop :=
  ∀ a, (tree.node a).isTerminal = false → separator ∉ ((tree.node a).label style).toList

/-- Labels are whole in a tree that was built with a normalizer that gives no separators to
inner nodes, from a parse tree that has none in the kinds of its inner nodes. -/
theorem hasWholeLabels_of_build {normalizer : Normalizer} {raw : ParseTree}
    {lines : List String} (h : build normalizer raw lines = .ok tree)
    (hvalues : ∀ text, separator ∉ (normalizer.desensitize text).toList)
    (hkinds : ∀ source ∈ raw.levelOrder, source.children ≠ [] → separator ∉ source.kind.toList)
    (style : TreeStyle) : tree.HasWholeLabels style := by
  intro a hinner
  have hlayout := hasLayout_of_build h
  have hlt := lt_size_of_not_isTerminal hinner
  rw [hlayout.size_eq, List.length_map] at hlt
  have hsource := List.getElem?_eq_getElem hlt
  obtain ⟨hkind, -, text, -, hvalue⟩ := node_of_build h hsource
  have hne : raw.levelOrder[a].children ≠ [] := by
    intro hnil
    have hchildren := hlayout.map_children hsource
    rw [hnil, List.map_nil, List.map_eq_nil_iff] at hchildren
    rw [Node.isTerminal, hchildren] at hinner
    cases hinner
  rw [Node.label]
  split
  · rw [hkind]
    exact not_mem_lowercase_trim (by decide) (by decide)
      (hkinds _ (List.getElem_mem hlt) hne)
  · rw [hvalue, List.isEmpty_eq_false_iff.mpr hne]
    exact hvalues text

end SyntaxTree

namespace Way

variable {way : Way} {tree : SyntaxTree} {style : TreeStyle}

/-- The nodes between the terminals are inner nodes. -/
theorem LeadsIn.not_isTerminal (h : way.LeadsIn tree style) (hlinked : tree.IsLinked) {a : Nat}
    (ha : a ∈ way.upward ++ way.summit :: way.downward) : (tree.node a).isTerminal = false := by
  have hkept : a ∈ tree.keptAncestors style way.source ∨
      a ∈ tree.keptAncestors style way.target := by
    rw [List.append_cons] at ha
    rcases List.mem_append.mp ha with ha | ha
    · exact Or.inl (h.upward_prefix.subset ha)
    · exact Or.inr (h.downward_prefix.subset (List.mem_reverse.mpr ha))
  rcases hkept with hkept | hkept
  · obtain ⟨x, hx⟩ := hlinked.exists_keptAncestors_eq style way.source
    exact hlinked.not_isTerminal_of_mem_ancestors (hx ▸ hkept)
  · obtain ⟨x, hx⟩ := hlinked.exists_keptAncestors_eq style way.target
    exact hlinked.not_isTerminal_of_mem_ancestors (hx ▸ hkept)

/-- What stands between the anchors is not cut. -/
theorem LeadsIn.flatMap_pieces_middle (h : way.LeadsIn tree style) (hlinked : tree.IsLinked)
    (hlabels : tree.HasWholeLabels style) (pathStyle : PathStyle) :
    (way.path tree style pathStyle).middle.flatMap (pieces separator) =
      (way.path tree style pathStyle).middle := by
  have hwhole : ∀ token ∈ (way.path tree style pathStyle).middle, separator ∉ token.toList := by
    intro token htoken
    rcases List.mem_append.mp (Merge.middle_subset _ pathStyle htoken) with hlabel | hmove
    · have hnode : token ∈ (way.upward ++ way.summit :: way.downward).map (tree.labelAt style) := by
        rw [List.map_append, List.map_cons]
        exact hlabel
      obtain ⟨a, ha, rfl⟩ := List.mem_map.mp hnode
      rw [SyntaxTree.labelAt, Node.markedLabel, String.toList_append, List.mem_append, not_or]
      exact ⟨hlabels a (h.not_isTerminal hlinked ha),
        Span.not_mem_mark _ (by decide) (by decide) (by decide)⟩
    · have hmarkers : ∀ move ∈ [Merge.up, Merge.down], separator ∉ move.toList := by decide
      cases pathStyle with
      | labels => cases hmove
      | moves => exact hmarkers token hmove
      | labelsAndMoves => exact hmarkers token hmove
  have hpieces : ∀ token ∈ (way.path tree style pathStyle).middle,
      pieces separator token = [token] := fun token htoken =>
    pieces_eq_singleton (hwhole token htoken)
  rw [List.flatMap_congr hpieces, List.flatMap_singleton']

/-- Without marks, labels are those of the nodes, and moves stay as they are. -/
theorem map_unmark_middle (way : Way) (tree : SyntaxTree) (style : TreeStyle)
    (pathStyle : PathStyle) :
    (way.path tree style pathStyle).middle.map Label.unmark =
      way.plainMiddle tree style pathStyle := by
  have hunmark : ∀ a, Label.unmark (tree.labelAt style a) = (tree.node a).label style :=
    fun a => Label.unmark_append_mark _ _
  rw [path, Merge.map_middle (by decide) (by decide), plainMiddle]
  simp only [merge, List.map_map, Function.comp_def, hunmark]

/-- **The tokens of a leaf path** are those of its way, with a loss in the anchors. -/
theorem LeadsIn.tokens_path (h : way.LeadsIn tree style) (hlinked : tree.IsLinked)
    (hlabels : tree.HasWholeLabels style) (pathStyle : PathStyle) :
    ((way.path tree style pathStyle).tokens.map Label.unmark).filter (!·.isEmpty) =
      way.tokens tree style pathStyle readSubtokens := by
  rw [LeafPath.tokens_eq, h.flatMap_pieces_middle hlinked hlabels, List.map_append,
    List.map_append, map_unmark_middle, path, SyntaxTree.anchor_rootPath,
    SyntaxTree.anchor_rootPath, Node.mark, Node.mark, map_unmark_pieces_append_mark,
    map_unmark_pieces_append_mark, List.filter_append, List.filter_append]
  rfl

end Way

/-! ### Samples -/

/-- **The features of leaf paths** lose marks, and what stands behind delimiters inside an
anchor. -/
structure ReadsLeafTokens (settings : Settings) (tree : SyntaxTree) (session : Session)
    (stream : WordStream) (ways : List Way) : Prop where
  /-- The ways lead between the sampled pairs of terminals. -/
  ends_eq : ways.map Way.ends = (sampleTerminalPairs settings tree stream).1
  /-- They are ways in the tree. -/
  leadsIn : ∀ way ∈ ways, way.LeadsIn tree settings.treeStyleOrDefault
  /-- The sampled paths lead along them. -/
  paths_eq : (sampleLeafPaths settings tree session stream).paths =
    ways.map (·.path tree settings.treeStyleOrDefault settings.pathStyleOrDefault)
  /-- Path by path, the tokens are the sub-tokens that are read of the source, the labels and
  moves in between, and the sub-tokens that are read of the target. -/
  tokens_eq : leafPathTokens (sampleLeafPaths settings tree session stream).paths =
    ways.flatMap
      (·.tokens tree settings.treeStyleOrDefault settings.pathStyleOrDefault readSubtokens)
  /-- All sub-tokens are read, without a loss, exactly if no anchor value has a delimiter in
  a piece that is not its last one. -/
  tokens_eq_iff : leafPathTokens (sampleLeafPaths settings tree session stream).paths =
      ways.flatMap
        (·.tokens tree settings.treeStyleOrDefault settings.pathStyleOrDefault subtokens) ↔
    ∀ way ∈ ways, way.KeepsAnchors tree settings.treeStyleOrDefault

/-- **In every tree with whole labels** the features of leaf paths lose marks, and what stands
behind delimiters inside an anchor. -/
theorem exists_readsLeafTokens_of_build {normalizer : Normalizer} {raw : ParseTree}
    {lines : List String} {tree : SyntaxTree}
    (h : SyntaxTree.build normalizer raw lines = .ok tree)
    (hvalues : ∀ text, separator ∉ (normalizer.desensitize text).toList)
    (hkinds : ∀ source ∈ raw.levelOrder, source.children ≠ [] → separator ∉ source.kind.toList)
    (settings : Settings) (session : Session) (stream : WordStream) :
    ∃ ways, ReadsLeafTokens settings tree session stream ways := by
  have hlinked := SyntaxTree.isLinked_of_build h
  have hlabels := SyntaxTree.hasWholeLabels_of_build h hvalues hkinds settings.treeStyleOrDefault
  obtain ⟨ways, hends, hleads, hpaths⟩ :=
    SyntaxTree.exists_ways_of_map_some (map_some_sampleLeafPaths settings tree session stream).1
  have htokens : leafPathTokens (sampleLeafPaths settings tree session stream).paths =
      ways.flatMap
        (·.tokens tree settings.treeStyleOrDefault settings.pathStyleOrDefault readSubtokens) := by
    rw [leafPathTokens, hpaths, List.flatMap_map, List.filter_flatMap]
    exact List.flatMap_congr fun way hway => (hleads way hway).tokens_path hlinked hlabels _
  refine ⟨ways, hends, hleads, hpaths, htokens, ?_⟩
  rw [htokens]
  exact Way.flatMap_tokens_eq_iff ways

/-- The parse tree of the line `x@yZ w`, a module with two calls of a name. -/
def ParseTree.delimitedCall : ParseTree :=
  .node "module" (.columns 0 6)
    [.node "call" (.columns 0 4) [.node "identifier" (.columns 0 4) []],
      .node "call" (.columns 5 6) [.node "identifier" (.columns 5 6) []]]

/-- The tree of the line `x@yZ w`. -/
def SyntaxTree.delimitedCall : SyntaxTree :=
  .layout
    [⟨"module", "x@yZ w", .columns 0 6⟩, ⟨"call", "x@yZ", .columns 0 4⟩,
      ⟨"call", "w", .columns 5 6⟩, ⟨"identifier", "x@y|z", .columns 0 4⟩,
      ⟨"identifier", "w", .columns 5 6⟩]
    [2, 1, 1, 0, 0]

/-- The way from the first name of the line to the second one. -/
def Way.delimitedCall : Way :=
  ⟨3, [1], 0, [2], 4⟩

/-- The default normalizer gives no separators to inner nodes. -/
theorem Normalizer.separator_not_mem_verbatim (text : String) :
    separator ∉ (verbatim.desensitize text).toList := by
  simp [verbatim, withoutSeparators]

theorem readsLeafTokens_delimitedCall :
    SyntaxTree.build .verbatim .delimitedCall ["x@yZ w"] = .ok .delimitedCall ∧
      (∀ text, separator ∉ (Normalizer.verbatim.desensitize text).toList) ∧
      (∀ source ∈ ParseTree.delimitedCall.levelOrder, source.children ≠ [] →
        separator ∉ source.kind.toList) ∧
      ∃ ways, ReadsLeafTokens .unset .delimitedCall .empty (.ofSeed 0) ways := by
  have hbuilt : SyntaxTree.build .verbatim .delimitedCall ["x@yZ w"] = .ok .delimitedCall := by
    decide +kernel
  have hkinds : ∀ source ∈ ParseTree.delimitedCall.levelOrder, source.children ≠ [] →
      separator ∉ source.kind.toList := by
    decide +kernel
  exact ⟨hbuilt, Normalizer.separator_not_mem_verbatim, hkinds,
    exists_readsLeafTokens_of_build hbuilt Normalizer.separator_not_mem_verbatim hkinds .unset
      .empty (.ofSeed 0)⟩

/-- **A delimiter inside an anchor takes text away**: of the first sub-token `x@y` only `x` is
left, though no mark stands behind it. -/
theorem leafPathTokens_delimitedCall :
    SyntaxTree.build .verbatim .delimitedCall ["x@yZ w"] = .ok .delimitedCall ∧
      (∀ text, separator ∉ (Normalizer.verbatim.desensitize text).toList) ∧
      (∀ source ∈ ParseTree.delimitedCall.levelOrder, source.children ≠ [] →
        separator ∉ source.kind.toList) ∧
      (sampleLeafPaths .unset .delimitedCall .empty (.ofSeed 0)).paths =
        [Way.delimitedCall.path .delimitedCall .spt .labels] ∧
      leafPathTokens (sampleLeafPaths .unset .delimitedCall .empty (.ofSeed 0)).paths =
        ["x", "z", "x@yZ", "x@yZ w", "w", "w"] ∧
      Way.delimitedCall.tokens .delimitedCall .spt .labels subtokens =
        ["x@y", "z", "x@yZ", "x@yZ w", "w", "w"] := by
  refine ⟨?_, Normalizer.separator_not_mem_verbatim, ?_⟩
  · decide +kernel
  · decide +kernel

end SyntaxPaths
