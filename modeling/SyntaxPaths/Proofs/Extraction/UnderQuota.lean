import SyntaxPaths.Proofs.Extraction.Candidates
import SyntaxPaths.Proofs.Extraction.Runs
import SyntaxPaths.Proofs.Extraction.Tiers
import SyntaxPaths.Proofs.Room

/-!
# Samples under quota

Where all candidates fit into the one quota, and all qualifying pairs of them into the
other, sampling leaves nothing to chance (`leavesNothingToChance_of_isUnderQuota`): whatever
the stream, the sample is the same, and no word of the stream is drawn.  A quota that there is
no room for is an exception, however little it is used: then nothing is sampled at all.

Both samples then have a closed form.  The root paths are those of all candidates
(`SyntaxTree.preferredPaths`), and the leaf paths those of all qualifying pairs, in three
groups (`rankedLeafPaths`).  That a quota is exactly filled makes no difference: a tier that
is closed while leaf paths are gathered is then empty anyway, and what is gathered fills the
quota in the same way as the complete tiers (`Tiers.Covers.fillQuota_eq`).
-/

namespace SyntaxPaths

open Randomness

/-! ### Closed forms -/

/-- The pairs of root paths between which a leaf path leads, in the order of their places. -/
def qualifyingPairs (shape : LeafPathShape) (roots : List RootPath) :
    List (RootPath × RootPath) :=
  (pairsByPlace roots).filter fun pair => (leafPath? shape pair.1 pair.2).isSome

/-- The leaf paths of all qualifying pairs: first those with several sub-tokens in both
anchors, then in one, then in none, and each time in the order of their places. -/
def rankedLeafPaths (shape : LeafPathShape) (roots : List RootPath) : List LeafPath :=
  [2, 1, 0].flatMap fun rank =>
    ((qualifyingPairs shape roots).filter (multiTokenCount · = rank)).filterMap fun pair =>
      leafPath? shape pair.1 pair.2

theorem flatten_completeTiers (shape : LeafPathShape) (roots : List RootPath) :
    (completeTiers shape roots).flatten = rankedLeafPaths shape roots := by
  simp only [completeTiers, rankedLeafPaths, qualifyingPairs, tierOf_filterMap_rankedPath?,
    List.flatten_cons, List.flatten_nil, List.flatMap_cons, List.flatMap_nil]

/-- Every pair has one of three ranks. -/
theorem length_filter_multiTokenCount (pairs : List (RootPath × RootPath)) :
    (pairs.filter (multiTokenCount · = 2)).length + (pairs.filter (multiTokenCount · = 1)).length +
      (pairs.filter (multiTokenCount · = 0)).length = pairs.length := by
  induction pairs with
  | nil => rfl
  | cons pair pairs ih =>
      have hle : multiTokenCount pair ≤ 2 := List.countP_le_length
      have hrank : multiTokenCount pair = 0 ∨ multiTokenCount pair = 1 ∨
          multiTokenCount pair = 2 := by omega
      rw [List.length_cons, ← ih]
      rcases hrank with hrank | hrank | hrank
      · simp [hrank]
        omega
      · simp [hrank]
        omega
      · simp [hrank]
        omega

/-- **There are as many leaf paths as qualifying pairs.** -/
theorem length_rankedLeafPaths (shape : LeafPathShape) (roots : List RootPath) :
    (rankedLeafPaths shape roots).length = (qualifyingPairs shape roots).length := by
  have hrank (rank : Nat) :
      (((qualifyingPairs shape roots).filter (multiTokenCount · = rank)).filterMap fun pair =>
        leafPath? shape pair.1 pair.2).length =
        ((qualifyingPairs shape roots).filter (multiTokenCount · = rank)).length := by
    rw [List.length_filterMap_eq_countP, List.countP_eq_length]
    intro pair hpair
    exact (List.mem_filter.mp (List.mem_of_mem_filter hpair)).2
  rw [rankedLeafPaths, ← length_filter_multiTokenCount (qualifyingPairs shape roots)]
  simp only [List.flatMap_cons, List.flatMap_nil, List.length_append, List.length_nil, hrank]
  omega

/-! ### One sample -/

section Samples

variable {settings : Settings} {tree : SyntaxTree} {roots : List RootPath}

/-- **Candidates that fit into the quota** are all sampled. -/
theorem sampleRootPaths_of_length_le
    (h : (tree.candidates settings.treeStyleOrDefault).length ≤ settings.rootPathQuotaOrDefault)
    (session : Session) (stream : WordStream) :
    sampleRootPaths settings tree session stream =
      { paths := tree.preferredPaths settings.treeStyleOrDefault
        session := (session.recordTerminals (treePaths settings tree)).recordRootPaths
          (tree.preferredPaths settings.treeStyleOrDefault)
        stream } := by
  have hfit : (tree.candidateTiers settings.treeStyleOrDefault).flatten.length ≤
      settings.rootPathQuotaOrDefault := by
    rwa [tree.flatten_candidateTiers, (tree.preferredPaths_perm _).length_eq, List.length_map]
  rw [sampleRootPaths, rootTiers_eq, fillQuota_of_length_le chooseIndices _ stream hfit,
    tree.flatten_candidateTiers]
  rfl

/-- **Qualifying pairs that fit into the quota** are all sampled. -/
theorem sampleLeafPathsFrom_of_length_le
    (h : (qualifyingPairs settings.leafPathShape roots).length ≤ settings.leafPathQuotaOrDefault)
    (session : Session) (stream : WordStream) :
    sampleLeafPathsFrom settings roots session stream =
      { paths := rankedLeafPaths settings.leafPathShape roots
        session := session.recordLeafPaths (rankedLeafPaths settings.leafPathShape roots)
        stream } := by
  have hfit : (completeTiers settings.leafPathShape roots).flatten.length ≤
      settings.leafPathQuotaOrDefault := by
    rwa [flatten_completeTiers, length_rankedLeafPaths]
  rw [sampleLeafPathsFrom, fillQuota_gatherTiers,
    fillQuota_of_length_le chooseIndices _ stream hfit, flatten_completeTiers]
  rfl

end Samples

/-! ### Both samples -/

/-- Nothing competes for a place: neither root paths nor leaf paths. -/
structure IsUnderQuota (settings : Settings) (tree : SyntaxTree) : Prop where
  /-- There is a place for every candidate. -/
  candidates_le :
    (tree.candidates settings.treeStyleOrDefault).length ≤ settings.rootPathQuotaOrDefault
  /-- There is a place for every qualifying pair of them. -/
  pairs_le :
    (qualifyingPairs settings.leafPathShape
      (tree.preferredPaths settings.treeStyleOrDefault)).length ≤ settings.leafPathQuotaOrDefault

/-- What is sampled from a tree under quota, stream and session included. -/
theorem IsUnderQuota.sampleLeafPaths_eq {settings : Settings} {tree : SyntaxTree}
    (h : IsUnderQuota settings tree) (session : Session) (stream : WordStream) :
    sampleLeafPaths settings tree session stream =
      { paths := rankedLeafPaths settings.leafPathShape
          (tree.preferredPaths settings.treeStyleOrDefault)
        session := ((session.recordTerminals (treePaths settings tree)).recordRootPaths
          (tree.preferredPaths settings.treeStyleOrDefault)).recordLeafPaths
            (rankedLeafPaths settings.leafPathShape
              (tree.preferredPaths settings.treeStyleOrDefault))
        stream } := by
  simp only [sampleLeafPaths, sampleRootPaths_of_length_le h.candidates_le,
    sampleLeafPathsFrom_of_length_le h.pairs_le]

/-- **The sample of a tree does not depend on the stream**, in a session in which anything
may have occurred before. -/
structure LeavesNothingToChance (settings : Settings) (tree : SyntaxTree) (session : Session) :
    Prop where
  /-- The root paths are those of all candidates, several sub-tokens first. -/
  rootPaths_eq (stream : WordStream) : settings.HasRootRoom →
    trySampleRootPaths settings tree session stream =
      .ok
        { paths := tree.preferredPaths settings.treeStyleOrDefault
          session := (session.recordTerminals (treePaths settings tree)).recordRootPaths
            (tree.preferredPaths settings.treeStyleOrDefault)
          stream }
  /-- The leaf paths are those of all qualifying pairs of these, in order of rank.  What is
  recorded is all that was met and sampled, and no word is drawn. -/
  leafPaths_eq (stream : WordStream) : settings.HasRoom →
    trySampleLeafPaths settings tree session stream =
      .ok
        { paths := rankedLeafPaths settings.leafPathShape
            (tree.preferredPaths settings.treeStyleOrDefault)
          session := ((session.recordTerminals (treePaths settings tree)).recordRootPaths
            (tree.preferredPaths settings.treeStyleOrDefault)).recordLeafPaths
              (rankedLeafPaths settings.leafPathShape
                (tree.preferredPaths settings.treeStyleOrDefault))
          stream }
  /-- Two streams give the same paths and the same session, and both are left as they are. -/
  congr (stream stream' : WordStream) : settings.HasRoom → ∃ paths after,
    trySampleLeafPaths settings tree session stream = .ok ⟨paths, after, stream⟩ ∧
      trySampleLeafPaths settings tree session stream' = .ok ⟨paths, after, stream'⟩
  /-- Without room for both tables there is no sample. -/
  leafPaths_eq_error (stream : WordStream) : ¬ settings.HasRoom →
    trySampleLeafPaths settings tree session stream = .error .capacityOverflow

/-- **Under quota nothing is left to chance**, also where a quota is exactly filled. -/
theorem leavesNothingToChance_of_isUnderQuota {settings : Settings} {tree : SyntaxTree}
    (h : IsUnderQuota settings tree) (session : Session) :
    LeavesNothingToChance settings tree session where
  rootPaths_eq := by
    intro stream hroom
    rw [trySampleRootPaths_eq, if_pos hroom, sampleRootPaths_of_length_le h.candidates_le]
  leafPaths_eq := by
    intro stream hroom
    rw [trySampleLeafPaths_eq, if_pos hroom, h.sampleLeafPaths_eq]
  congr := by
    intro stream stream' hroom
    rw [trySampleLeafPaths_eq, trySampleLeafPaths_eq, if_pos hroom, if_pos hroom,
      h.sampleLeafPaths_eq, h.sampleLeafPaths_eq]
    exact ⟨_, _, rfl, rfl⟩
  leafPaths_eq_error := by
    intro stream hroom
    rw [trySampleLeafPaths_eq, if_neg hroom]

/-- The parse tree of the line `a bC d`, where each word is a name in a call. -/
def ParseTree.threeCalls : ParseTree :=
  .node "call" (.columns 0 6)
    [.node "call" (.columns 0 1) [.node "identifier" (.columns 0 1) []],
      .node "call" (.columns 2 4) [.node "identifier" (.columns 2 4) []],
      .node "call" (.columns 5 6) [.node "identifier" (.columns 5 6) []]]

namespace SyntaxTree

/-- The tree of the line `a bC d`. -/
def threeCalls : SyntaxTree :=
  .layout
    [⟨"call", "a bC d", .columns 0 6⟩, ⟨"call", "a", .columns 0 1⟩,
      ⟨"call", "bC", .columns 2 4⟩, ⟨"call", "d", .columns 5 6⟩,
      ⟨"identifier", "a", .columns 0 1⟩, ⟨"identifier", "b|c", .columns 2 4⟩,
      ⟨"identifier", "d", .columns 5 6⟩]
    [3, 1, 1, 1, 0, 0, 0]

end SyntaxTree

/-- Three names and three pairs of them, with three places for either. -/
theorem leavesNothingToChance_threeCalls :
    let settings := { Settings.unset with rootPathQuota := some 3, leafPathQuota := some 3 }
    SyntaxTree.build .verbatim .threeCalls ["a bC d"] = .ok .threeCalls ∧
      (SyntaxTree.threeCalls.candidates settings.treeStyleOrDefault).length = 3 ∧
      (qualifyingPairs settings.leafPathShape
        (SyntaxTree.threeCalls.preferredPaths settings.treeStyleOrDefault)).length = 3 ∧
      settings.HasRoom ∧ LeavesNothingToChance settings .threeCalls .empty := by
  intro settings
  have hbuilt : SyntaxTree.build .verbatim .threeCalls ["a bC d"] = .ok .threeCalls := by
    decide +kernel
  have hcandidates : (SyntaxTree.threeCalls.candidates settings.treeStyleOrDefault).length = 3 := by
    decide +kernel
  have hpairs : (qualifyingPairs settings.leafPathShape
      (SyntaxTree.threeCalls.preferredPaths settings.treeStyleOrDefault)).length = 3 := by
    decide +kernel
  have hunder : IsUnderQuota settings .threeCalls :=
    ⟨Nat.le_of_eq hcandidates, Nat.le_of_eq hpairs⟩
  exact ⟨hbuilt, hcandidates, hpairs, by decide,
    leavesNothingToChance_of_isUnderQuota hunder .empty⟩

/-- The same names with 2⁶³ - 1 places for them: three places would do, but there is no table
for so many. -/
theorem trySampleLeafPaths_threeCalls :
    let settings := { Settings.unset with rootPathQuota := some (Nat.pow 2 63 - 1) }
    SyntaxTree.build .verbatim .threeCalls ["a bC d"] = .ok .threeCalls ∧
      IsUnderQuota settings .threeCalls ∧
      trySampleLeafPaths settings .threeCalls .empty (.ofSeed 0) = .error .capacityOverflow := by
  intro settings
  have hbuilt : SyntaxTree.build .verbatim .threeCalls ["a bC d"] = .ok .threeCalls := by
    decide +kernel
  have hunder : IsUnderQuota settings .threeCalls :=
    ⟨by decide +kernel, by decide +kernel⟩
  have hroom : ¬ settings.HasRoom := by decide
  exact ⟨hbuilt, hunder, by rw [trySampleLeafPaths_eq, if_neg hroom]⟩

end SyntaxPaths
