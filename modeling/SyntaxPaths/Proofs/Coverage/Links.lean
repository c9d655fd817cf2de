import SyntaxPaths.Proofs.Coverage.LeafLabels
import SyntaxPaths.Proofs.Extraction.Candidates
import SyntaxPaths.Proofs.Label
import SyntaxPaths.Proofs.SyntaxTree.Terminals

/-!
# Link coverage counts links

A session counts different marked labels and takes one away.  Where no label stands for two
nodes (`SyntaxTree.Apart`) this is a number of links (`measuresLinks_of_build`).

* **From labels to nodes.**  A marked label tells the label and the span, so labels that
  tell nodes apart are as many as these (`SyntaxTree.Apart.distinctCount_map`).
* **From nodes to links.**  Terminals with all nodes above them are a tree themselves, with
  the same root.  Each of these nodes but the root has one link upwards, and these links are
  those on the ways to the root (`IsLinked.distinctCount_linksAbove`).
-/

namespace SyntaxPaths

open Randomness

namespace SyntaxTree

/-! ### Labels and nodes -/

/-- No two of the given nodes agree in their text and in their span. -/
def Apart (tree : SyntaxTree) (text : Nat → String) (nodes : List Nat) : Prop :=
  ∀ i ∈ nodes, ∀ j ∈ nodes, text i = text j → (tree.node i).span = (tree.node j).span → i = j

instance (tree : SyntaxTree) (text : Nat → String) (nodes : List Nat) :
    Decidable (tree.Apart text nodes) :=
  inferInstanceAs (Decidable (∀ i ∈ nodes, ∀ j ∈ nodes, _))

section Labels

variable {tree : SyntaxTree} {style : TreeStyle} {chosen nodes : List Nat} {text : Nat → String}

theorem Apart.append_mark_inj (h : tree.Apart text nodes) {i j : Nat} (hi : i ∈ nodes)
    (hj : j ∈ nodes) (heq : text i ++ (tree.node i).mark = text j ++ (tree.node j).mark) :
    i = j := by
  obtain ⟨htext, hspan⟩ := Label.append_mark_inj heq
  exact h i hi j hj htext hspan

/-- **Marked labels tell nodes apart** that differ in text or span. -/
theorem Apart.distinctCount_map (h : tree.Apart text nodes) (hchosen : chosen ⊆ nodes) :
    distinctCount (chosen.map fun i => text i ++ (tree.node i).mark) = distinctCount chosen := by
  rw [distinctCount_map_eq_iff]
  intro i hi j hj heq
  exact h.append_mark_inj (hchosen hi) (hchosen hj) heq

/-- The nodes that the root paths of the given terminals keep. -/
def keptNodes (tree : SyntaxTree) (style : TreeStyle) (chosen : List Nat) : List Nat :=
  chosen.flatMap (tree.keptAncestors style)

theorem keptNodes_of_plain (hplain : style.isHierarchical = false) (chosen : List Nat) :
    tree.keptNodes style chosen = chosen.flatMap tree.ancestors :=
  List.flatMap_congr fun i _ => tree.keptAncestors_of_plain hplain i

/-- Whatever is kept has children. -/
theorem IsLinked.keptNodes_subset_innerNodes (h : tree.IsLinked) (style : TreeStyle)
    (chosen : List Nat) : tree.keptNodes style chosen ⊆ tree.innerNodes := by
  intro i hi
  obtain ⟨t, -, hmem⟩ := List.mem_flatMap.mp hi
  obtain ⟨x, hkept⟩ := h.exists_keptAncestors_eq style t
  rw [hkept] at hmem
  exact h.ancestors_subset_innerNodes x hmem

theorem mem_flatMap_ancestors_rootPath {label : String} :
    label ∈ (chosen.map (tree.rootPath style)).flatMap RootPath.ancestors ↔
      label ∈ (tree.keptNodes style chosen).map (tree.labelAt style) := by
  rw [List.flatMap_map, keptNodes, List.map_flatMap, List.mem_flatMap, List.mem_flatMap]
  refine exists_congr fun i => and_congr_right fun _ => ?_
  rw [ancestors_rootPath, List.mem_reverse]

/-- **What root paths contribute**: the anchors of their terminals, and the labels of the
nodes that they keep. -/
theorem linkCount_rootPaths (tree : SyntaxTree) (style : TreeStyle) (chosen : List Nat) :
    linkCount ((chosen.map (tree.rootPath style)).map RootPath.anchor)
        ((chosen.map (tree.rootPath style)).flatMap RootPath.ancestors) =
      distinctCount (chosen.map fun i => tree.anchorValue style i ++ (tree.node i).mark) +
        distinctCount ((tree.keptNodes style chosen).map (tree.labelAt style)) := by
  have hanchors : (chosen.map (tree.rootPath style)).map RootPath.anchor =
      chosen.map fun i => tree.anchorValue style i ++ (tree.node i).mark := by
    rw [List.map_map]
    exact List.map_congr_left fun i _ => tree.anchor_rootPath style i
  rw [linkCount, hanchors, distinctCount_congr fun label => mem_flatMap_ancestors_rootPath]

end Labels

/-! ### Nodes and links -/

section Nodes

variable {tree : SyntaxTree} {chosen : List Nat}

/-- The given nodes with all nodes above them. -/
def withAbove (tree : SyntaxTree) (chosen : List Nat) : List Nat :=
  chosen ++ chosen.flatMap tree.ancestors

theorem mem_withAbove {i : Nat} :
    i ∈ tree.withAbove chosen ↔ ∃ t ∈ chosen, i ∈ t :: tree.ancestors t := by
  simp only [withAbove, List.mem_append, List.mem_flatMap, List.mem_cons]
  constructor
  · rintro (hi | ⟨t, ht, hmem⟩)
    · exact ⟨i, hi, Or.inl rfl⟩
    · exact ⟨t, ht, Or.inr hmem⟩
  · rintro ⟨t, ht, rfl | hmem⟩
    · exact Or.inl ht
    · exact Or.inr ⟨t, ht, hmem⟩

/-- A link is told by its lower end. -/
theorem distinctCount_lowerEnds (tree : SyntaxTree) (chosen : List Nat) :
    distinctCount ((chosen.flatMap tree.linksAbove).map Prod.fst) =
      distinctCount (chosen.flatMap tree.linksAbove) := by
  rw [distinctCount_map_eq_iff]
  intro link hlink link' hlink' heq
  obtain ⟨t, -, hmem⟩ := List.mem_flatMap.mp hlink
  obtain ⟨t', -, hmem'⟩ := List.mem_flatMap.mp hlink'
  have hparent := (mem_linksAbove.mp hmem).2
  rw [heq, (mem_linksAbove.mp hmem').2, Option.some.injEq] at hparent
  exact Prod.ext heq hparent.symm

namespace IsLinked

theorem lt_of_mem_withAbove (h : tree.IsLinked) (hlt : ∀ t ∈ chosen, t < tree.size) {i : Nat}
    (hi : i ∈ tree.withAbove chosen) : i < tree.size := by
  rcases List.mem_append.mp hi with hi | hi
  · exact hlt i hi
  · obtain ⟨t, -, hmem⟩ := List.mem_flatMap.mp hi
    exact lt_size_of_not_isTerminal (h.not_isTerminal_of_mem_ancestors hmem)

/-- Lower ends are all of these nodes but the root. -/
theorem mem_lowerEnds (h : tree.IsLinked) (hlt : ∀ t ∈ chosen, t < tree.size) {i : Nat} :
    i ∈ (chosen.flatMap tree.linksAbove).map Prod.fst ↔
      i ∈ (tree.withAbove chosen).filter (· ≠ root) := by
  rw [List.mem_filter, List.mem_map, decide_eq_true_iff]
  constructor
  · rintro ⟨link, hlink, rfl⟩
    obtain ⟨t, ht, hmem⟩ := List.mem_flatMap.mp hlink
    obtain ⟨hchain, hparent⟩ := mem_linksAbove.mp hmem
    refine ⟨mem_withAbove.mpr ⟨t, ht, hchain⟩, fun heq => ?_⟩
    rw [heq, h.parent_root] at hparent
    cases hparent
  · rintro ⟨hmem, hne⟩
    have hi := h.lt_of_mem_withAbove hlt hmem
    obtain ⟨t, ht, hchain⟩ := mem_withAbove.mp hmem
    obtain ⟨p, hparent⟩ := Option.isSome_iff_exists.mp ((h.isSome_parent_iff hi).mpr hne)
    exact ⟨(i, p), List.mem_flatMap.mpr ⟨t, ht, mem_linksAbove.mpr ⟨hchain, hparent⟩⟩, rfl⟩

/-- **Some nodes and all nodes above them** are joined by one link less than there are
nodes. -/
theorem distinctCount_linksAbove (h : tree.IsLinked) (hlt : ∀ t ∈ chosen, t < tree.size)
    (hne : chosen ≠ []) :
    distinctCount (chosen.flatMap tree.linksAbove) + 1 = distinctCount (tree.withAbove chosen) := by
  have hroot : root ∈ tree.withAbove chosen := by
    obtain ⟨t, ht⟩ := List.exists_mem_of_ne_nil chosen hne
    exact mem_withAbove.mpr ⟨t, ht, h.root_mem_chain (hlt t ht)⟩
  rw [← distinctCount_lowerEnds, distinctCount_congr fun i => h.mem_lowerEnds hlt,
    distinctCount_filter_ne hroot]

end IsLinked

namespace HasLayout

variable {counts : List Nat}

/-- No terminal is above another. -/
theorem distinctCount_withAbove (h : tree.HasLayout counts) (hchosen : chosen ⊆ tree.terminals) :
    distinctCount (tree.withAbove chosen) =
      distinctCount chosen + distinctCount (chosen.flatMap tree.ancestors) := by
  refine distinctCount_append_of_disjoint fun i hi hmem => ?_
  obtain ⟨t, -, hmem⟩ := List.mem_flatMap.mp hmem
  exact h.disjoint_terminals (hchosen hi) (h.isLinked.ancestors_subset_innerNodes t hmem)

/-- All nodes are terminals or above them. -/
theorem distinctCount_withAbove_terminals (h : tree.HasLayout counts) :
    distinctCount (tree.withAbove tree.terminals) = tree.size := by
  have hall : ∀ i, i ∈ tree.withAbove tree.terminals ↔ i ∈ List.range tree.size := by
    intro i
    rw [List.mem_range]
    constructor
    · exact h.isLinked.lt_of_mem_withAbove fun t ht => (h.mem_terminals.mp ht).1
    · intro hi
      exact mem_withAbove.mpr (h.exists_terminal hi)
  rw [distinctCount_congr hall, distinctCount_of_nodup List.nodup_range, List.length_range]

end HasLayout

end Nodes

end SyntaxTree

/-! ### Sampled root paths -/

section Sample

variable {settings : Settings} {tree : SyntaxTree} {counts : List Nat} {style : TreeStyle}

namespace SyntaxTree

/-- The terminals with one of the given root paths. -/
def terminalsOf (tree : SyntaxTree) (style : TreeStyle) (paths : List RootPath) : List Nat :=
  tree.terminals.filter fun i => tree.rootPath style i ∈ paths

theorem mem_terminalsOf {paths : List RootPath} {i : Nat} :
    i ∈ tree.terminalsOf style paths ↔ i ∈ tree.terminals ∧ tree.rootPath style i ∈ paths := by
  rw [terminalsOf, List.mem_filter, decide_eq_true_iff]

theorem terminalsOf_subset {paths : List RootPath} :
    tree.terminalsOf style paths ⊆ tree.terminals :=
  List.filter_subset_self _

/-- In a plain style every node has a marked label of its own, terminals and inner nodes
taken apart. -/
structure HasOwnLabels (tree : SyntaxTree) (style : TreeStyle) : Prop where
  /-- The style keeps all ancestors. -/
  isPlain : style.isHierarchical = false
  /-- Terminals are told by their values. -/
  terminals_apart : tree.Apart (fun i => (tree.node i).value) tree.terminals
  /-- Inner nodes are told by their labels. -/
  innerNodes_apart : tree.Apart (fun i => (tree.node i).label style) tree.innerNodes

/-- **Root paths tell terminals apart.** -/
theorem HasOwnLabels.rootPath_inj (h : tree.HasOwnLabels style) {i j : Nat}
    (hi : i ∈ tree.terminals) (hj : j ∈ tree.terminals)
    (heq : tree.rootPath style i = tree.rootPath style j) : i = j := by
  have hanchor := congrArg RootPath.anchor heq
  rw [anchor_rootPath, anchor_rootPath, tree.anchorValue_of_plain h.isPlain,
    tree.anchorValue_of_plain h.isPlain] at hanchor
  exact h.terminals_apart.append_mark_inj hi hj hanchor

/-- **What root paths contribute** are their terminals and the nodes above them. -/
theorem HasOwnLabels.linkCount_eq (h : tree.HasOwnLabels style) (hlayout : tree.HasLayout counts)
    {chosen : List Nat} (hchosen : chosen ⊆ tree.terminals) :
    linkCount ((chosen.map (tree.rootPath style)).map RootPath.anchor)
        ((chosen.map (tree.rootPath style)).flatMap RootPath.ancestors) =
      distinctCount (tree.withAbove chosen) := by
  have hvalues : chosen.map (fun i => tree.anchorValue style i ++ (tree.node i).mark) =
      chosen.map fun i => (tree.node i).value ++ (tree.node i).mark :=
    List.map_congr_left fun i _ => by rw [tree.anchorValue_of_plain h.isPlain]
  have hlabels : distinctCount ((tree.keptNodes style chosen).map (tree.labelAt style)) =
      distinctCount (tree.keptNodes style chosen) :=
    h.innerNodes_apart.distinctCount_map (hlayout.isLinked.keptNodes_subset_innerNodes style chosen)
  rw [linkCount_rootPaths, hvalues, h.terminals_apart.distinctCount_map hchosen, hlabels,
    keptNodes_of_plain h.isPlain, hlayout.distinctCount_withAbove hchosen]

/-- The sampled root paths are those of the terminals that have one of them. -/
theorem HasOwnLabels.sample_perm (h : tree.HasOwnLabels settings.treeStyleOrDefault)
    (hlayout : tree.HasLayout counts) (session : Session) (stream : WordStream) :
    (sampleRootPaths settings tree session stream).paths.Perm
      ((tree.terminalsOf settings.treeStyleOrDefault
        (sampleRootPaths settings tree session stream).paths).map
          (tree.rootPath settings.treeStyleOrDefault)) := by
  have hinj : ∀ i ∈ tree.terminals, ∀ j ∈ tree.terminals,
      tree.rootPath settings.treeStyleOrDefault i = tree.rootPath settings.treeStyleOrDefault j →
        i = j :=
    fun i hi j hj heq => h.rootPath_inj hi hj heq
  have hsample := nodup_sampleRootPaths settings session stream hlayout.nodup_terminals hinj
  refine (List.perm_ext_iff_of_nodup hsample ?_).mpr fun path => ?_
  · refine List.Nodup.map_on ?_ (hlayout.nodup_terminals.filter _)
    intro i hi j hj heq
    exact hinj i (terminalsOf_subset hi) j (terminalsOf_subset hj) heq
  · rw [List.mem_map]
    constructor
    · intro hpath
      obtain ⟨i, hi, rfl⟩ := exists_candidate_of_mem_sample hpath
      exact ⟨i, mem_terminalsOf.mpr ⟨candidates_subset hi, hpath⟩, rfl⟩
    · rintro ⟨i, hi, rfl⟩
      exact (mem_terminalsOf.mp hi).2

end SyntaxTree

theorem treePaths_eq_map (settings : Settings) (tree : SyntaxTree) :
    treePaths settings tree = tree.terminals.map (tree.rootPath settings.treeStyleOrDefault) := by
  rw [treePaths, terminalPaths, List.map_map]
  rfl

/-- **All labels of a session** are as many as the nodes of the tree. -/
theorem linkCount_session (h : tree.HasOwnLabels settings.treeStyleOrDefault)
    (hlayout : tree.HasLayout counts) (stream : WordStream) :
    linkCount (sampleRootPaths settings tree .empty stream).session.terminals
        (sampleRootPaths settings tree .empty stream).session.nonterminals = tree.size := by
  show linkCount ((treePaths settings tree).map RootPath.anchor)
    ((treePaths settings tree).flatMap RootPath.ancestors) = tree.size
  rw [treePaths_eq_map, h.linkCount_eq hlayout (List.Subset.refl _),
    hlayout.distinctCount_withAbove_terminals]

/-- **The labels of the sample** are as many as the selected terminals and the nodes above
them. -/
theorem linkCount_sample (h : tree.HasOwnLabels settings.treeStyleOrDefault)
    (hlayout : tree.HasLayout counts) (stream : WordStream) :
    linkCount (sampleRootPaths settings tree .empty stream).session.rootTerminals
        (sampleRootPaths settings tree .empty stream).session.rootNonterminals =
      distinctCount (tree.withAbove (tree.terminalsOf settings.treeStyleOrDefault
        (sampleRootPaths settings tree .empty stream).paths)) := by
  have hperm := h.sample_perm hlayout .empty stream
  rw [← h.linkCount_eq hlayout SyntaxTree.terminalsOf_subset]
  refine linkCount_congr (fun label => ?_) fun label => ?_
  · exact (hperm.map RootPath.anchor).mem_iff
  · exact (hperm.flatMap_right RootPath.ancestors).mem_iff

end Sample

/-- **Link coverage compares numbers of links**, after root paths were sampled once in a
session of their own. -/
structure MeasuresLinks (settings : Settings) (tree : SyntaxTree) (stream : WordStream)
    (coverage : Coverage Ratio) : Prop where
  /-- The sampled root paths are those of the selected terminals. -/
  sample_perm :
    (sampleRootPaths settings tree .empty stream).paths.Perm
      ((tree.terminalsOf settings.treeStyleOrDefault
        (sampleRootPaths settings tree .empty stream).paths).map
          (tree.rootPath settings.treeStyleOrDefault))
  /-- There is one link to a parent less than nodes. -/
  length_parentLinks : tree.parentLinks.length = tree.size - 1
  /-- It is measured against all these links. -/
  denominators_eq :
    coverage.rootLinks.denominator = tree.parentLinks.length ∧
      coverage.leafLinks.denominator = tree.parentLinks.length ∧
      coverage.binaryLinks.denominator = tree.parentLinks.length
  /-- Covered are the links on the ways from the selected terminals to the root. -/
  rootLinks_eq : (sampleRootPaths settings tree .empty stream).paths ≠ [] →
    coverage.rootLinks.numerator =
      distinctCount ((tree.terminalsOf settings.treeStyleOrDefault
        (sampleRootPaths settings tree .empty stream).paths).flatMap tree.linksAbove)
  /-- Where no terminal is selected, one less than no link is covered. -/
  rootLinks_eq_of_nil : (sampleRootPaths settings tree .empty stream).paths = [] →
    coverage.rootLinks.numerator = -1
  /-- In the binary view the links to left children are counted. -/
  binaryLinks_eq : coverage.binaryLinks.numerator = tree.leftLinks.length

/-- **Link coverage of a built tree** counts links, if it has two nodes and each has a label
of its own. -/
theorem measuresLinks_of_build {normalizer : Normalizer} {raw : ParseTree} {lines : List String}
    {tree : SyntaxTree} (h : SyntaxTree.build normalizer raw lines = .ok tree)
    (settings : Settings) (stream : WordStream) (htwo : 2 ≤ tree.size)
    (hlabels : tree.HasOwnLabels settings.treeStyleOrDefault) :
    ∃ coverage,
      (sampleRootPaths settings tree .empty stream).session.coverage tree.eldestCount =
          .ok coverage ∧
        MeasuresLinks settings tree stream coverage := by
  have hlayout := SyntaxTree.hasLayout_of_build h
  have hlinks := hlayout.isLinked.length_parentLinks
  have hperm := hlabels.sample_perm hlayout .empty stream
  have hall := linkCount_session hlabels hlayout stream
  have hsample := linkCount_sample hlabels hlayout stream
  have hdenominator :
      (sampleRootPaths settings tree .empty stream).session.allLinks = tree.parentLinks.length := by
    rw [Session.allLinks, hall, hlinks]
  refine ⟨_, Session.coverage_of_two_le (hall ▸ htwo) _, hperm, hlinks,
    ⟨hdenominator, hdenominator, hdenominator⟩, ?_, ?_, ?_⟩
  · intro hne
    have hselected : tree.terminalsOf settings.treeStyleOrDefault
        (sampleRootPaths settings tree .empty stream).paths ≠ [] := by
      intro hnil
      rw [hnil, List.map_nil] at hperm
      exact hne hperm.eq_nil
    have hcount := hlayout.isLinked.distinctCount_linksAbove
      (fun t ht => (hlayout.mem_terminals.mp (SyntaxTree.terminalsOf_subset ht)).1) hselected
    show (linkCount _ _ : Int) - 1 = _
    rw [hsample]
    omega
  · intro hnil
    show (linkCount ((sampleRootPaths settings tree .empty stream).paths.map RootPath.anchor)
      ((sampleRootPaths settings tree .empty stream).paths.flatMap RootPath.ancestors) : Int) - 1 =
        _
    rw [hnil]
    rfl
  · show (tree.eldestCount : Int) = _
    rw [hlayout.length_leftLinks]

/-- One of two names is sampled, from the line `a b` with two calls. -/
theorem measuresLinks_twoCalls :
    let settings := { Settings.unset with rootPathQuota := some 1 }
    SyntaxTree.build .verbatim (.twoCalls 1) ["a b"] = .ok CodeUnit.twoCalls.tree ∧
      2 ≤ CodeUnit.twoCalls.tree.size ∧
      CodeUnit.twoCalls.tree.HasOwnLabels settings.treeStyleOrDefault ∧
      (sampleRootPaths settings CodeUnit.twoCalls.tree .empty (.ofSeed 0)).paths.length = 1 ∧
      ∃ coverage,
        (sampleRootPaths settings CodeUnit.twoCalls.tree .empty (.ofSeed 0)).session.coverage
            CodeUnit.twoCalls.tree.eldestCount = .ok coverage ∧
          MeasuresLinks settings CodeUnit.twoCalls.tree (.ofSeed 0) coverage := by
  intro settings
  have hbuilt : SyntaxTree.build .verbatim (.twoCalls 1) ["a b"] = .ok CodeUnit.twoCalls.tree := by
    decide +kernel
  have htwo : 2 ≤ CodeUnit.twoCalls.tree.size := by decide +kernel
  have hlabels : CodeUnit.twoCalls.tree.HasOwnLabels settings.treeStyleOrDefault :=
    ⟨by decide +kernel, by decide +kernel, by decide +kernel⟩
  have hsample :
      (sampleRootPaths settings CodeUnit.twoCalls.tree .empty (.ofSeed 0)).paths.length = 1 := by
    decide +kernel
  exact ⟨hbuilt, htwo, hlabels, hsample,
    measuresLinks_of_build hbuilt settings (.ofSeed 0) htwo hlabels⟩

end SyntaxPaths
