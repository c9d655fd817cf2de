import Mathlib.Data.List.Nodup
import SyntaxPaths.Extraction
import SyntaxPaths.Proofs.Path.Root
import SyntaxPaths.Proofs.Quota

/-!
# The root paths that may be sampled

What may be sampled is said about root paths, and holds of the terminals from which they
lead: the candidates are the identifiers whose root paths keep an ancestor
(`candidatePaths_eq`).  The third condition, that the anchor is not empty, excludes nobody,
since an anchor ends in a mark.

A sample stands in the order of preference, several sub-tokens first
(`sampleRootPaths_sublist`).  So it names no root path twice, if no two terminals have the
same one (`nodup_sampleRootPaths`).
-/

namespace SyntaxPaths

open Randomness

namespace SyntaxTree

variable (tree : SyntaxTree) (style : TreeStyle)

/-- The identifiers among the terminals whose root paths keep an ancestor, in the order in
which they were met. -/
def candidates : List Nat :=
  tree.terminals.filter fun i =>
    (tree.node i).kind = identifierKind && !(tree.keptAncestors style i).isEmpty

/-- The root paths of the candidates with several sub-tokens in the anchor, and those of the
others. -/
def candidateTiers : List (List RootPath) :=
  let paths := (tree.candidates style).map (tree.rootPath style)
  [paths.filter (·.isMultiToken), paths.filter (!·.isMultiToken)]

/-- The root paths of the candidates, those with several sub-tokens in the anchor first. -/
def preferredPaths : List RootPath :=
  let paths := (tree.candidates style).map (tree.rootPath style)
  paths.filter (·.isMultiToken) ++ paths.filter (!·.isMultiToken)

theorem flatten_candidateTiers :
    (tree.candidateTiers style).flatten = tree.preferredPaths style := by
  rw [candidateTiers, List.flatten_cons, List.flatten_singleton]
  rfl

theorem preferredPaths_perm :
    (tree.preferredPaths style).Perm ((tree.candidates style).map (tree.rootPath style)) :=
  List.filter_append_perm _ _

variable {tree style}

theorem mem_candidates {i : Nat} :
    i ∈ tree.candidates style ↔
      i ∈ tree.terminals ∧ (tree.node i).kind = identifierKind ∧
        tree.keptAncestors style i ≠ [] := by
  simp [candidates]

theorem candidates_subset : tree.candidates style ⊆ tree.terminals :=
  List.filter_subset_self _

theorem ancestors_rootPath_eq_nil_iff {i : Nat} :
    (tree.rootPath style i).ancestors = [] ↔ tree.keptAncestors style i = [] := by
  rw [ancestors_rootPath, List.reverse_eq_nil_iff, List.map_eq_nil_iff]

/-- **No candidate is turned away for its anchor.** -/
theorem isCandidate_iff {i : Nat} :
    isCandidate tree (i, tree.rootPath style i) = true ↔
      (tree.node i).kind = identifierKind ∧ tree.keptAncestors style i ≠ [] := by
  have hanchor : (tree.rootPath style i).anchor.isEmpty = false :=
    Bool.eq_false_iff.mpr fun hempty =>
      anchor_rootPath_ne_empty tree style i (String.isEmpty_iff.mp hempty)
  rw [isCandidate, hanchor, Bool.not_false, Bool.and_true, Bool.and_eq_true, decide_eq_true_iff,
    Bool.not_eq_true', List.isEmpty_eq_false_iff, ne_eq, ancestors_rootPath_eq_nil_iff]

end SyntaxTree

section Sample

variable {tree : SyntaxTree} {style : TreeStyle}

/-- **The paths that may be sampled** are the root paths of the candidates. -/
theorem candidatePaths_eq (tree : SyntaxTree) (style : TreeStyle) :
    candidatePaths tree style = (tree.candidates style).map (tree.rootPath style) := by
  rw [candidatePaths, terminalPaths, List.filter_map, List.map_map, SyntaxTree.candidates]
  refine congrArg (List.map _) (List.filter_congr fun i _ => ?_)
  rw [Function.comp_apply, Bool.eq_iff_iff, SyntaxTree.isCandidate_iff]
  simp

/-- The tiers from which root paths are sampled are those of the candidates. -/
theorem rootTiers_eq (settings : Settings) (tree : SyntaxTree) :
    rootTiers settings tree = tree.candidateTiers settings.treeStyleOrDefault := by
  rw [SyntaxTree.candidateTiers, ← candidatePaths_eq]
  rfl

/-- What is sampled, and what is left of the stream, is decided by filling the quota from the
tiers of the candidates. -/
theorem fillQuota_candidateTiers (settings : Settings) (tree : SyntaxTree) (session : Session)
    (stream : WordStream) :
    fillQuota chooseIndices (tree.candidateTiers settings.treeStyleOrDefault)
        settings.rootPathQuotaOrDefault stream =
      ((sampleRootPaths settings tree session stream).paths,
        (sampleRootPaths settings tree session stream).stream) := by
  rw [← rootTiers_eq]
  rfl

/-- **A sample of root paths** is a part of what may be sampled, in the order of
preference. -/
theorem sampleRootPaths_sublist (settings : Settings) (tree : SyntaxTree) (session : Session)
    (stream : WordStream) :
    (sampleRootPaths settings tree session stream).paths.Sublist
      (tree.preferredPaths settings.treeStyleOrDefault) := by
  have hsublist := fillQuota_sublist chooseIndices
    (tree.candidateTiers settings.treeStyleOrDefault) settings.rootPathQuotaOrDefault stream
  rwa [fillQuota_candidateTiers settings tree session, SyntaxTree.flatten_candidateTiers]
    at hsublist

/-- A sampled root path leads to a candidate. -/
theorem exists_candidate_of_mem_sample {settings : Settings} {session : Session}
    {stream : WordStream} {path : RootPath}
    (h : path ∈ (sampleRootPaths settings tree session stream).paths) :
    ∃ i ∈ tree.candidates settings.treeStyleOrDefault,
      tree.rootPath settings.treeStyleOrDefault i = path := by
  have hmem := (sampleRootPaths_sublist settings tree session stream).subset h
  exact List.mem_map.mp ((tree.preferredPaths_perm _).mem_iff.mp hmem)

/-- No root path is sampled twice, if no two terminals have the same one. -/
theorem nodup_sampleRootPaths (settings : Settings) (session : Session) (stream : WordStream)
    (hnodup : tree.terminals.Nodup)
    (hapart : ∀ i ∈ tree.terminals, ∀ j ∈ tree.terminals,
      tree.rootPath settings.treeStyleOrDefault i = tree.rootPath settings.treeStyleOrDefault j →
        i = j) :
    (sampleRootPaths settings tree session stream).paths.Nodup := by
  have hpaths : ((tree.candidates settings.treeStyleOrDefault).map
      (tree.rootPath settings.treeStyleOrDefault)).Nodup := by
    refine List.Nodup.map_on ?_ (hnodup.filter _)
    intro i hi j hj heq
    exact hapart i (SyntaxTree.candidates_subset hi) j (SyntaxTree.candidates_subset hj) heq
  exact ((tree.preferredPaths_perm _).nodup_iff.mpr hpaths).sublist
    (sampleRootPaths_sublist settings tree session stream)

end Sample

end SyntaxPaths
