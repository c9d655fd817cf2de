import SyntaxPaths.Proofs.Extraction.Pairing
import SyntaxPaths.Proofs.Extraction.UnderQuota
import SyntaxPaths.Proofs.Path.Legs
import SyntaxPaths.Proofs.Path.Merge

/-!
# What a style changes in a sample

Two runs from the same stream that differ in a style choose the same things, and write them
in another way.

* **Path styles.**  The path style is looked at when a middle is written, and not before.  So
  the same pairs of root paths are sampled in all three styles, and only the middles differ:
  the longest of the three holds the other two (`alignsPathStyles_sampleLeafPathsFrom`).
* **The two plain tree styles.**  Kinds and values give different labels to the same
  ancestors.  Merging compares labels, but where no two inner nodes among siblings cover the
  same span it stops at the lowest common ancestor in either style, so the legs have the
  same lengths (`SyntaxTree.map_legs_merge?_congr`).  Everything that is drawn for depends on
  these lengths and on the anchors, which are the same anyway.  So the same terminals are
  sampled, and the same pairs of them (`selectsAlike_of_build`).

The second statement is about terminals, of which the paths tell no more than values and
spans.  `sampleTerminals` and `sampleTerminalPairs` fill the same quotas from the same stream
with terminals and pairs of terminals in place of their paths.
-/

namespace SyntaxPaths

open Randomness

/-! ### Path styles -/

section PathStyle

variable (settings : Settings) (roots : List RootPath) (session : Session) (stream : WordStream)

/-- The sample of leaf paths between given root paths in one path style; all other settings
stay. -/
def sampleInPathStyle (style : PathStyle) : Sampled LeafPath :=
  sampleLeafPathsFrom { settings with pathStyle := some style } roots session stream

/-- The pairs of root paths that are sampled do not depend on the path style. -/
theorem samplePairs_pathStyle (style : PathStyle) :
    samplePairs { settings with pathStyle := some style } id roots stream =
      samplePairs settings id roots stream := by
  apply samplePairs_congr
  · rfl
  · intro pair _
    exact isSome_leafPath?_congr rfl rfl rfl
  · intro root _
    rfl

/-- In each path style the sampled paths are those of the same pairs. -/
theorem map_some_sampleInPathStyle (style : PathStyle) :
    (sampleInPathStyle settings roots session stream style).paths.map some =
        (samplePairs settings id roots stream).1.map
          (pathBetween? { settings.leafPathShape with style } id) ∧
      (sampleInPathStyle settings roots session stream style).stream =
        (samplePairs settings id roots stream).2 := by
  have hsample := map_some_sampleLeafPathsFrom { settings with pathStyle := some style } id roots
    session stream
  rwa [samplePairs_pathStyle, List.map_id] at hsample

variable {settings roots session stream}

/-- A sampled path is written for a merge that does not depend on the path style. -/
theorem exists_pair_of_getElem?_sampleInPathStyle {style : PathStyle} {i : Nat} {path : LeafPath}
    (h : (sampleInPathStyle settings roots session stream style).paths[i]? = some path) :
    ∃ pair merge, (samplePairs settings id roots stream).1[i]? = some pair ∧
      merge? pair.1.ancestors pair.2.ancestors = some merge ∧ path.source = pair.1.anchor ∧
      path.middle = merge.middle style ∧ path.target = pair.2.anchor := by
  have hpaths := congrArg (·[i]?) (map_some_sampleInPathStyle settings roots session stream style).1
  simp only [List.getElem?_map, h, Option.map_some] at hpaths
  obtain ⟨pair, hpair, hpath⟩ := Option.map_eq_some_iff.mp hpaths.symm
  obtain ⟨merge, hmerge, hsource, hmiddle, htarget⟩ := exists_merge_of_leafPath? hpath
  exact ⟨pair, merge, hpair, hmerge, hsource, hmiddle, htarget⟩

/-- **The path style changes only how middles are written**: what the samples in the three
path styles have in common. -/
structure AlignsPathStyles (settings : Settings) (roots : List RootPath) (session : Session)
    (stream : WordStream) : Prop where
  /-- There are as many paths in each style. -/
  length_eq (style style' : PathStyle) :
    (sampleInPathStyle settings roots session stream style).paths.length =
      (sampleInPathStyle settings roots session stream style').paths.length
  /-- Paths in the same place have the same source and the same target. -/
  ends_eq {style style' : PathStyle} {i : Nat} {path path' : LeafPath} :
    (sampleInPathStyle settings roots session stream style).paths[i]? = some path →
    (sampleInPathStyle settings roots session stream style').paths[i]? = some path' →
    path.source = path'.source ∧ path.target = path'.target
  /-- The same words of the stream are drawn. -/
  stream_eq (style style' : PathStyle) :
    (sampleInPathStyle settings roots session stream style).stream =
      (sampleInPathStyle settings roots session stream style').stream
  /-- Where both labels and moves are written, the labels stand in the even places and the
  moves in the odd ones. -/
  alternates {i : Nat} {labels moves both : LeafPath} :
    (sampleInPathStyle settings roots session stream .labels).paths[i]? = some labels →
    (sampleInPathStyle settings roots session stream .moves).paths[i]? = some moves →
    (sampleInPathStyle settings roots session stream .labelsAndMoves).paths[i]? = some both →
    Alternates both.middle labels.middle moves.middle

/-- **The path style changes only how middles are written**, whatever the root paths, the
other settings and the stream. -/
theorem alignsPathStyles_sampleLeafPathsFrom (settings : Settings) (roots : List RootPath)
    (session : Session) (stream : WordStream) :
    AlignsPathStyles settings roots session stream where
  length_eq := by
    intro style style'
    have hlength (style : PathStyle) := congrArg List.length
      (map_some_sampleInPathStyle settings roots session stream style).1
    simp only [List.length_map] at hlength
    rw [hlength style, hlength style']
  ends_eq := by
    intro style style' i path path' h h'
    obtain ⟨pair, -, hpair, -, hsource, -, htarget⟩ := exists_pair_of_getElem?_sampleInPathStyle h
    obtain ⟨pair', -, hpair', -, hsource', -, htarget'⟩ :=
      exists_pair_of_getElem?_sampleInPathStyle h'
    obtain rfl : pair = pair' := Option.some.inj (hpair.symm.trans hpair')
    exact ⟨hsource.trans hsource'.symm, htarget.trans htarget'.symm⟩
  stream_eq := by
    intro style style'
    rw [(map_some_sampleInPathStyle settings roots session stream style).2,
      (map_some_sampleInPathStyle settings roots session stream style').2]
  alternates := by
    intro i labels moves both hlabels hmoves hboth
    obtain ⟨pair, merge, hpair, hmerge, -, hmiddle, -⟩ :=
      exists_pair_of_getElem?_sampleInPathStyle hlabels
    obtain ⟨pair₁, merge₁, hpair₁, hmerge₁, -, hmiddle₁, -⟩ :=
      exists_pair_of_getElem?_sampleInPathStyle hmoves
    obtain ⟨pair₂, merge₂, hpair₂, hmerge₂, -, hmiddle₂, -⟩ :=
      exists_pair_of_getElem?_sampleInPathStyle hboth
    -- The three paths are written for one merge.
    obtain rfl : pair = pair₁ := Option.some.inj (hpair.symm.trans hpair₁)
    obtain rfl : pair = pair₂ := Option.some.inj (hpair.symm.trans hpair₂)
    obtain rfl : merge = merge₁ := Option.some.inj (hmerge.symm.trans hmerge₁)
    obtain rfl : merge = merge₂ := Option.some.inj (hmerge.symm.trans hmerge₂)
    rw [hmiddle, hmiddle₁, hmiddle₂]
    exact merge.alternates_middle

end PathStyle

/-! ### Terminals -/

section Terminals

variable (settings : Settings) (tree : SyntaxTree) (session : Session) (stream : WordStream)

/-- The candidates with several sub-tokens in the anchor, and the others. -/
def terminalTiers (style : TreeStyle) : List (List Nat) :=
  [(tree.candidates style).filter fun i => (tree.rootPath style i).isMultiToken,
    (tree.candidates style).filter fun i => !(tree.rootPath style i).isMultiToken]

/-- **The terminals whose root paths are sampled**, with what is left of the stream: the quota
is filled with terminals instead of paths. -/
def sampleTerminals : List Nat × WordStream :=
  fillQuota chooseIndices (terminalTiers tree settings.treeStyleOrDefault)
    settings.rootPathQuotaOrDefault stream

/-- **The pairs of terminals between which leaf paths are sampled**, with what is left of the
stream: pairs of the terminals that were sampled before. -/
def sampleTerminalPairs : List (Nat × Nat) × WordStream :=
  samplePairs settings (tree.rootPath settings.treeStyleOrDefault)
    (sampleTerminals settings tree stream).1 (sampleTerminals settings tree stream).2

theorem map_rootPath_terminalTiers (style : TreeStyle) :
    (terminalTiers tree style).map (List.map (tree.rootPath style)) =
      tree.candidateTiers style := by
  simp only [terminalTiers, SyntaxTree.candidateTiers, List.filter_map, List.map_cons,
    List.map_nil]
  rfl

/-- **The sampled root paths are those of the sampled terminals**, and the same words of the
stream are drawn for both. -/
theorem sampleRootPaths_eq_map :
    (sampleRootPaths settings tree session stream).paths =
        (sampleTerminals settings tree stream).1.map (tree.rootPath settings.treeStyleOrDefault) ∧
      (sampleRootPaths settings tree session stream).stream =
        (sampleTerminals settings tree stream).2 := by
  have hfill := fillQuota_map chooseIndices (tree.rootPath settings.treeStyleOrDefault)
    (terminalTiers tree settings.treeStyleOrDefault) settings.rootPathQuotaOrDefault stream
  rw [map_rootPath_terminalTiers, fillQuota_candidateTiers settings tree session] at hfill
  exact Prod.mk.inj hfill

/-- **The sampled leaf paths are those of the sampled pairs of terminals**, and the same words
of the stream are drawn for both. -/
theorem map_some_sampleLeafPaths :
    (sampleLeafPaths settings tree session stream).paths.map some =
        (sampleTerminalPairs settings tree stream).1.map
          (pathBetween? settings.leafPathShape (tree.rootPath settings.treeStyleOrDefault)) ∧
      (sampleLeafPaths settings tree session stream).stream =
        (sampleTerminalPairs settings tree stream).2 := by
  obtain ⟨hpaths, hstream⟩ := sampleRootPaths_eq_map settings tree session stream
  simp only [sampleLeafPaths, hpaths, hstream]
  exact map_some_sampleLeafPathsFrom settings (tree.rootPath settings.treeStyleOrDefault) _ _ _

end Terminals

/-! ### The two plain tree styles -/

/-- The settings with another tree style. -/
def Settings.inTreeStyle (settings : Settings) (style : TreeStyle) : Settings :=
  { settings with treeStyle := some style }

@[simp] theorem Settings.treeStyleOrDefault_inTreeStyle (settings : Settings) (style : TreeStyle) :
    (settings.inTreeStyle style).treeStyleOrDefault = style := rfl

namespace SyntaxTree

variable {tree : SyntaxTree} {style style' : TreeStyle}

theorem anchor_rootPath_congr (tree : SyntaxTree) (h : style.isHierarchical = false)
    (h' : style'.isHierarchical = false) (i : Nat) :
    (tree.rootPath style i).anchor = (tree.rootPath style' i).anchor := by
  rw [anchor_rootPath, anchor_rootPath, anchorValue_of_plain tree h, anchorValue_of_plain tree h']

theorem isMultiToken_rootPath_congr (tree : SyntaxTree) (h : style.isHierarchical = false)
    (h' : style'.isHierarchical = false) (i : Nat) :
    (tree.rootPath style i).isMultiToken = (tree.rootPath style' i).isMultiToken := by
  unfold RootPath.isMultiToken RootPath.anchorTokenCount
  rw [anchor_rootPath_congr tree h h']

theorem terminalTiers_congr (tree : SyntaxTree) (h : style.isHierarchical = false)
    (h' : style'.isHierarchical = false) :
    terminalTiers tree style = terminalTiers tree style' := by
  unfold terminalTiers candidates
  simp only [keptAncestors_of_plain tree h, keptAncestors_of_plain tree h',
    isMultiToken_rootPath_congr tree h h']

/-- In a plain style the legs of two root paths are as long as the chains below the meeting
point. -/
theorem Meeting.map_legs_merge? {u v a : Nat} {below below' : List Nat}
    (hmeet : tree.Meeting u v a below below') (hlinked : tree.IsLinked)
    (hapart : tree.SiblingsApart) (h : style.isHierarchical = false) :
    (merge? (tree.rootPath style u).ancestors (tree.rootPath style v).ancestors).map Merge.legs =
      some (below.length, below'.length) := by
  rw [ancestors_rootPath, ancestors_rootPath, keptAncestors_of_plain tree h,
    keptAncestors_of_plain tree h, hmeet.merge?_map hlinked hapart style, Option.map_some,
    Merge.legs, List.length_map, List.length_reverse, List.length_map]

theorem ancestors_rootPath_eq_nil_of_plain (h : style.isHierarchical = false) {i : Nat}
    (hnil : tree.ancestors i = []) : (tree.rootPath style i).ancestors = [] :=
  ancestors_rootPath_eq_nil_iff.mpr (by rw [keptAncestors_of_plain tree h, hnil])

/-- **Kinds and values give legs of the same lengths.** -/
theorem map_legs_merge?_congr (hlinked : tree.IsLinked) (hapart : tree.SiblingsApart)
    (h : style.isHierarchical = false) (h' : style'.isHierarchical = false) (u v : Nat) :
    (merge? (tree.rootPath style u).ancestors (tree.rootPath style v).ancestors).map Merge.legs =
      (merge? (tree.rootPath style' u).ancestors (tree.rootPath style' v).ancestors).map
        Merge.legs := by
  by_cases hu : tree.ancestors u = []
  · rw [ancestors_rootPath_eq_nil_of_plain h hu, ancestors_rootPath_eq_nil_of_plain h' hu,
      merge?_nil_left, merge?_nil_left]
  by_cases hv : tree.ancestors v = []
  · rw [ancestors_rootPath_eq_nil_of_plain h hv, ancestors_rootPath_eq_nil_of_plain h' hv,
      merge?_nil_right, merge?_nil_right]
  obtain ⟨a, below, below', hmeet⟩ := hlinked.exists_meeting hu hv
  rw [hmeet.map_legs_merge? hlinked hapart h, hmeet.map_legs_merge? hlinked hapart h']

end SyntaxTree

section TreeStyle

variable {settings : Settings} {tree : SyntaxTree} {style style' : TreeStyle}

theorem sampleTerminals_congr (settings : Settings) (tree : SyntaxTree)
    (h : style.isHierarchical = false) (h' : style'.isHierarchical = false)
    (stream : WordStream) :
    sampleTerminals (settings.inTreeStyle style) tree stream =
      sampleTerminals (settings.inTreeStyle style') tree stream := by
  unfold sampleTerminals
  rw [Settings.treeStyleOrDefault_inTreeStyle, Settings.treeStyleOrDefault_inTreeStyle,
    tree.terminalTiers_congr h h']
  rfl

theorem sampleTerminalPairs_congr (hlinked : tree.IsLinked) (hapart : tree.SiblingsApart)
    (h : style.isHierarchical = false) (h' : style'.isHierarchical = false)
    (settings : Settings) (stream : WordStream) :
    sampleTerminalPairs (settings.inTreeStyle style) tree stream =
      sampleTerminalPairs (settings.inTreeStyle style') tree stream := by
  unfold sampleTerminalPairs
  rw [sampleTerminals_congr settings tree h h']
  apply samplePairs_congr
  · rfl
  · intro pair _
    exact isSome_leafPath?_congr rfl rfl (tree.map_legs_merge?_congr hlinked hapart h h' _ _)
  · intro i _
    exact tree.isMultiToken_rootPath_congr h h' i

end TreeStyle

/-- **Kinds and values select the same paths**: what two samples of a tree have in common that
differ in the plain tree style alone. -/
structure SelectsAlike (settings : Settings) (tree : SyntaxTree) (session : Session)
    (stream : WordStream) : Prop where
  /-- The sampled root paths are those of the sampled terminals, in their order. -/
  rootPaths_eq (style : TreeStyle) :
    (sampleRootPaths (settings.inTreeStyle style) tree session stream).paths =
      (sampleTerminals (settings.inTreeStyle style) tree stream).1.map (tree.rootPath style)
  /-- The sampled leaf paths are those of the sampled pairs of terminals, in their order. -/
  leafPaths_eq (style : TreeStyle) :
    (sampleLeafPaths (settings.inTreeStyle style) tree session stream).paths.map some =
      (sampleTerminalPairs (settings.inTreeStyle style) tree stream).1.map fun pair =>
        leafPath? settings.leafPathShape (tree.rootPath style pair.1) (tree.rootPath style pair.2)
  /-- The same terminals are sampled. -/
  terminals_eq :
    (sampleTerminals (settings.inTreeStyle .ast) tree stream).1 =
      (sampleTerminals (settings.inTreeStyle .spt) tree stream).1
  /-- The same pairs of terminals are sampled. -/
  pairs_eq :
    (sampleTerminalPairs (settings.inTreeStyle .ast) tree stream).1 =
      (sampleTerminalPairs (settings.inTreeStyle .spt) tree stream).1
  /-- The same words of the stream are drawn. -/
  stream_eq :
    (sampleLeafPaths (settings.inTreeStyle .ast) tree session stream).stream =
      (sampleLeafPaths (settings.inTreeStyle .spt) tree session stream).stream
  /-- Where only moves are written, even the paths are the same. -/
  paths_eq_of_moves : settings.pathStyleOrDefault = .moves →
    (sampleLeafPaths (settings.inTreeStyle .ast) tree session stream).paths =
      (sampleLeafPaths (settings.inTreeStyle .spt) tree session stream).paths

/-- **Kinds and values select the same paths** of a tree whose sibling inner nodes cover
different spans. -/
theorem selectsAlike_of_build {normalizer : Normalizer} {raw : ParseTree} {lines : List String}
    {tree : SyntaxTree} (h : SyntaxTree.build normalizer raw lines = .ok tree)
    (hapart : tree.SiblingsApart) (settings : Settings) (session : Session)
    (stream : WordStream) : SelectsAlike settings tree session stream := by
  have hlinked := SyntaxTree.isLinked_of_build h
  have hterminals : sampleTerminals (settings.inTreeStyle .ast) tree stream =
      sampleTerminals (settings.inTreeStyle .spt) tree stream :=
    sampleTerminals_congr settings tree rfl rfl stream
  have hpairs : sampleTerminalPairs (settings.inTreeStyle .ast) tree stream =
      sampleTerminalPairs (settings.inTreeStyle .spt) tree stream :=
    sampleTerminalPairs_congr hlinked hapart rfl rfl settings stream
  have hleaf (style : TreeStyle) :=
    map_some_sampleLeafPaths (settings.inTreeStyle style) tree session stream
  exact
    { rootPaths_eq := by
        intro style
        exact (sampleRootPaths_eq_map (settings.inTreeStyle style) tree session stream).1
      leafPaths_eq := by
        intro style
        exact (hleaf style).1
      terminals_eq := by
        rw [hterminals]
      pairs_eq := by
        rw [hpairs]
      stream_eq := by
        rw [(hleaf .ast).2, (hleaf .spt).2, hpairs]
      paths_eq_of_moves := by
        intro hmoves
        -- The anchors are the same, and of the legs only the lengths are written.
        have hpath : pathBetween? settings.leafPathShape (tree.rootPath .ast) =
            pathBetween? settings.leafPathShape (tree.rootPath .spt) := by
          funext pair
          exact leafPath?_moves_congr hmoves
            (tree.anchor_rootPath_congr rfl rfl pair.1) (tree.anchor_rootPath_congr rfl rfl pair.2)
            (tree.map_legs_merge?_congr hlinked hapart rfl rfl pair.1 pair.2)
        have hsome :
            (sampleLeafPaths (settings.inTreeStyle .ast) tree session stream).paths.map some =
              (sampleLeafPaths (settings.inTreeStyle .spt) tree session stream).paths.map some := by
          rw [(hleaf .ast).1, (hleaf .spt).1, hpairs]
          exact congrArg (List.map · _) hpath
        exact List.map_injective_iff.mpr (fun _ _ => Option.some.inj) hsome }

/-- Of three names two are sampled, the second one by chance, and the pair of them. -/
theorem selectsAlike_threeCalls :
    let settings :=
      { Settings.unset with
        pathStyle := some .moves, rootPathQuota := some 2, leafPathQuota := some 1 }
    SyntaxTree.build .verbatim .threeCalls ["a bC d"] = .ok .threeCalls ∧
      SyntaxTree.threeCalls.SiblingsApart ∧
      (sampleTerminals (settings.inTreeStyle .ast) .threeCalls (.ofSeed 1)).1 = [5, 6] ∧
      settings.pathStyleOrDefault = .moves ∧
      SelectsAlike settings .threeCalls .empty (.ofSeed 1) := by
  intro settings
  have hbuilt : SyntaxTree.build .verbatim .threeCalls ["a bC d"] = .ok .threeCalls := by
    decide +kernel
  have hapart : SyntaxTree.threeCalls.SiblingsApart := by decide +kernel
  have hterminals :
      (sampleTerminals (settings.inTreeStyle .ast) .threeCalls (.ofSeed 1)).1 = [5, 6] := by
    decide +kernel
  exact ⟨hbuilt, hapart, hterminals, rfl,
    selectsAlike_of_build hbuilt hapart settings .empty (.ofSeed 1)⟩

end SyntaxPaths
