import SyntaxPaths.Extraction
import SyntaxPaths.Proofs.Coverage.Counts
import SyntaxPaths.Proofs.Quota

/-!
# Sessions over many requests

One session can be asked for root paths and for leaf paths again and again, in any order
and with any randomness.  Whatever is asked, **the sampled root paths stay within the
tree** (`staysWithin_serveAll`).

* **What every request keeps.**  The labels of sampled root paths are among the labels of
  the session, and these among the labels of the tree (`Session.IsWithin`).
* **What one request brings about.**  A request that makes root paths records every
  terminal, so the labels of the session are from then on exactly those of the tree
  (`Session.IsFull`): more of them are only recorded again.
-/

namespace SyntaxPaths

open Randomness

/-! ### Requests -/

/-- What a session can be asked for. -/
inductive Request where
  /-- Root paths of the tree. -/
  | rootPaths
  /-- Root paths of the tree, and leaf paths between them. -/
  | leafPaths
  /-- Leaf paths between given root paths, of the tree or not. -/
  | leafPathsFrom (roots : List RootPath)
  deriving DecidableEq, Repr

namespace Request

/-- Whether root paths of the tree are made. -/
def makesRootPaths : Request → Bool
  | .rootPaths | .leafPaths => true
  | .leafPathsFrom _ => false

/-- The session after a request, with the given stream of random words. -/
def serve (settings : Settings) (tree : SyntaxTree) (session : Session) (stream : WordStream) :
    Request → Session
  | .rootPaths => (sampleRootPaths settings tree session stream).session
  | .leafPaths => (sampleLeafPaths settings tree session stream).session
  | .leafPathsFrom roots => (sampleLeafPathsFrom settings roots session stream).session

end Request

/-- The session after several requests, each with a stream of its own. -/
def serveFrom (settings : Settings) (tree : SyntaxTree) (session : Session)
    (requests : List (Request × WordStream)) : Session :=
  requests.foldl (fun session request => request.1.serve settings tree session request.2) session

/-- The session after several requests, where nothing had occurred before. -/
def serveAll (settings : Settings) (tree : SyntaxTree) (requests : List (Request × WordStream)) :
    Session :=
  serveFrom settings tree .empty requests

theorem serveFrom_cons (settings : Settings) (tree : SyntaxTree) (session : Session)
    (request : Request × WordStream) (requests : List (Request × WordStream)) :
    serveFrom settings tree session (request :: requests) =
      serveFrom settings tree (request.1.serve settings tree session request.2) requests := rfl

theorem serveAll_append (settings : Settings) (tree : SyntaxTree)
    (requests more : List (Request × WordStream)) :
    serveAll settings tree (requests ++ more) =
      serveFrom settings tree (serveAll settings tree requests) more :=
  List.foldl_append

/-! ### What is recorded -/

/-- The root paths of all terminals. -/
def treePaths (settings : Settings) (tree : SyntaxTree) : List RootPath :=
  (terminalPaths tree settings.treeStyleOrDefault).map Prod.snd

theorem paths_sampleRootPaths (settings : Settings) (tree : SyntaxTree) (session : Session)
    (stream : WordStream) :
    (sampleRootPaths settings tree session stream).paths =
      (fillQuota chooseIndices (rootTiers settings tree) settings.rootPathQuotaOrDefault
        stream).1 := rfl

/-- **Sampled root paths** are root paths of terminals. -/
theorem sampleRootPaths_subset (settings : Settings) (tree : SyntaxTree) (session : Session)
    (stream : WordStream) :
    (sampleRootPaths settings tree session stream).paths ⊆ treePaths settings tree := by
  intro path hpath
  rw [paths_sampleRootPaths] at hpath
  have hcandidate : path ∈ candidatePaths tree settings.treeStyleOrDefault := by
    have htier := (fillQuota_sublist _ _ _ _).subset hpath
    rw [rootTiers, List.flatten_cons, List.flatten_cons, List.flatten_nil,
      List.append_nil] at htier
    rcases List.mem_append.mp htier with hmem | hmem
    · exact (List.mem_filter.mp hmem).1
    · exact (List.mem_filter.mp hmem).1
  exact List.map_subset Prod.snd (List.filter_subset_self _) hcandidate

namespace Session

variable {paths : List RootPath} {session : Session}

/-- The labels of sampled root paths are among the labels of the session, and these among
those of the given paths. -/
structure IsWithin (paths : List RootPath) (session : Session) : Prop where
  /-- Sampled anchors are anchors of the session. -/
  rootTerminals_subset : session.rootTerminals ⊆ session.terminals
  /-- Sampled labels are labels of the session. -/
  rootNonterminals_subset : session.rootNonterminals ⊆ session.nonterminals
  /-- Anchors of the session are anchors of the paths. -/
  terminals_subset : session.terminals ⊆ paths.map RootPath.anchor
  /-- Labels of the session are labels of the paths. -/
  nonterminals_subset : session.nonterminals ⊆ paths.flatMap RootPath.ancestors

/-- All labels of the given paths have occurred. -/
structure IsFull (paths : List RootPath) (session : Session) : Prop where
  /-- All anchors have occurred. -/
  subset_terminals : paths.map RootPath.anchor ⊆ session.terminals
  /-- All labels of ancestors have occurred. -/
  subset_nonterminals : paths.flatMap RootPath.ancestors ⊆ session.nonterminals

theorem isWithin_empty (paths : List RootPath) : Session.empty.IsWithin paths where
  rootTerminals_subset := List.nil_subset _
  rootNonterminals_subset := List.nil_subset _
  terminals_subset := List.nil_subset _
  nonterminals_subset := List.nil_subset _

/-- All paths are recorded, and some of them as sampled. -/
theorem IsWithin.record (h : session.IsWithin paths) {sample : List RootPath}
    (hsample : sample ⊆ paths) :
    ((session.recordTerminals paths).recordRootPaths sample).IsWithin paths where
  rootTerminals_subset := by
    refine List.append_subset.mpr ⟨?_, ?_⟩
    · exact List.Subset.trans h.rootTerminals_subset (List.subset_append_left _ _)
    · exact List.Subset.trans (List.map_subset _ hsample) (List.subset_append_right _ _)
  rootNonterminals_subset := by
    refine List.append_subset.mpr ⟨?_, ?_⟩
    · exact List.Subset.trans h.rootNonterminals_subset (List.subset_append_left _ _)
    · intro label hlabel
      obtain ⟨path, hpath, hmem⟩ := List.mem_flatMap.mp hlabel
      exact List.mem_append_right _ (List.mem_flatMap.mpr ⟨path, hsample hpath, hmem⟩)
  terminals_subset := List.append_subset.mpr ⟨h.terminals_subset, List.Subset.refl _⟩
  nonterminals_subset := List.append_subset.mpr ⟨h.nonterminals_subset, List.Subset.refl _⟩

/-- Leaf paths are recorded apart from root paths. -/
theorem IsWithin.recordLeafPaths (h : session.IsWithin paths) (sample : List LeafPath) :
    (session.recordLeafPaths sample).IsWithin paths where
  rootTerminals_subset := h.rootTerminals_subset
  rootNonterminals_subset := h.rootNonterminals_subset
  terminals_subset := h.terminals_subset
  nonterminals_subset := h.nonterminals_subset

theorem isFull_record (session : Session) (paths sample : List RootPath) :
    ((session.recordTerminals paths).recordRootPaths sample).IsFull paths where
  subset_terminals := List.subset_append_right _ _
  subset_nonterminals := List.subset_append_right _ _

theorem IsFull.recordLeafPaths (h : session.IsFull paths) (sample : List LeafPath) :
    (session.recordLeafPaths sample).IsFull paths where
  subset_terminals := h.subset_terminals
  subset_nonterminals := h.subset_nonterminals

/-- A session with all labels of the paths, and no others, has exactly these. -/
theorem IsWithin.mem_terminals (h : session.IsWithin paths) (hfull : session.IsFull paths)
    (label : String) : label ∈ session.terminals ↔ label ∈ paths.map RootPath.anchor :=
  ⟨fun hmem => h.terminals_subset hmem, fun hmem => hfull.subset_terminals hmem⟩

theorem IsWithin.mem_nonterminals (h : session.IsWithin paths) (hfull : session.IsFull paths)
    (label : String) : label ∈ session.nonterminals ↔ label ∈ paths.flatMap RootPath.ancestors :=
  ⟨fun hmem => h.nonterminals_subset hmem, fun hmem => hfull.subset_nonterminals hmem⟩

end Session

/-! ### One request -/

section Runs

variable {settings : Settings} {tree : SyntaxTree} {session : Session}

/-- **Every request** keeps the session within the tree. -/
theorem Session.IsWithin.serve (h : session.IsWithin (treePaths settings tree))
    (request : Request) (stream : WordStream) :
    (request.serve settings tree session stream).IsWithin (treePaths settings tree) := by
  have hroots := h.record (sampleRootPaths_subset settings tree session stream)
  cases request with
  | rootPaths => exact hroots
  | leafPaths => exact hroots.recordLeafPaths _
  | leafPathsFrom roots => exact h.recordLeafPaths _

/-- **A request that makes root paths** records all labels of the tree. -/
theorem Request.isFull_serve {request : Request} (h : request.makesRootPaths = true)
    (session : Session) (stream : WordStream) :
    (request.serve settings tree session stream).IsFull (treePaths settings tree) := by
  have hroots := session.isFull_record (treePaths settings tree)
    (sampleRootPaths settings tree session stream).paths
  cases request with
  | rootPaths => exact hroots
  | leafPaths => exact hroots.recordLeafPaths _
  | leafPathsFrom roots => cases h

/-- What was recorded stays recorded. -/
theorem Session.IsFull.serve (h : session.IsFull (treePaths settings tree)) (request : Request)
    (stream : WordStream) :
    (request.serve settings tree session stream).IsFull (treePaths settings tree) := by
  cases request with
  | rootPaths => exact Request.isFull_serve rfl session stream
  | leafPaths => exact Request.isFull_serve rfl session stream
  | leafPathsFrom roots => exact h.recordLeafPaths _

/-! ### Many requests -/

theorem Session.IsWithin.serveFrom (h : session.IsWithin (treePaths settings tree))
    (requests : List (Request × WordStream)) :
    (serveFrom settings tree session requests).IsWithin (treePaths settings tree) := by
  induction requests generalizing session with
  | nil => exact h
  | cons request requests ih => exact ih (h.serve request.1 request.2)

theorem Session.IsFull.serveFrom (h : session.IsFull (treePaths settings tree))
    (requests : List (Request × WordStream)) :
    (serveFrom settings tree session requests).IsFull (treePaths settings tree) := by
  induction requests generalizing session with
  | nil => exact h
  | cons request requests ih => exact ih (h.serve request.1 request.2)

/-- Once root paths were made, all labels of the tree have occurred. -/
theorem isFull_serveFrom {requests : List (Request × WordStream)}
    (h : ∃ request ∈ requests, request.1.makesRootPaths = true) :
    (serveFrom settings tree session requests).IsFull (treePaths settings tree) := by
  induction requests generalizing session with
  | nil => simp at h
  | cons request requests ih =>
      rw [serveFrom_cons]
      obtain ⟨made, hmem, hmakes⟩ := h
      rcases List.mem_cons.mp hmem with rfl | hmem
      · exact (Request.isFull_serve hmakes session _).serveFrom requests
      · exact ih ⟨made, hmem, hmakes⟩

/-- **The sampled root paths of a session stay within its tree**, after the given
requests. -/
structure StaysWithin (settings : Settings) (tree : SyntaxTree)
    (requests : List (Request × WordStream)) : Prop where
  /-- Every sampled anchor is one of the tree. -/
  rootTerminals_subset :
    (serveAll settings tree requests).rootTerminals ⊆ (serveAll settings tree requests).terminals
  /-- Every sampled label of an ancestor is one of the tree. -/
  rootNonterminals_subset :
    (serveAll settings tree requests).rootNonterminals ⊆
      (serveAll settings tree requests).nonterminals
  /-- No more than all links are covered. -/
  rootLinks_le_one {eldestCount : Nat} {coverage : Coverage Ratio} :
    (serveAll settings tree requests).coverage eldestCount = .ok coverage →
      coverage.rootLinks.toRat ≤ 1
  /-- The covered part of the labels is a fraction. -/
  rootNodes_mem {eldestCount : Nat} {coverage : Coverage Ratio} :
    (serveAll settings tree requests).coverage eldestCount = .ok coverage →
      0 ≤ coverage.rootNodes.toRat ∧ coverage.rootNodes.toRat ≤ 1
  /-- Once root paths were made, no request changes what has occurred. -/
  mem_iff : (∃ request ∈ requests, request.1.makesRootPaths = true) →
    ∀ (more : List (Request × WordStream)) (label : String),
      (label ∈ (serveAll settings tree (requests ++ more)).terminals ↔
        label ∈ (serveAll settings tree requests).terminals) ∧
      (label ∈ (serveAll settings tree (requests ++ more)).nonterminals ↔
        label ∈ (serveAll settings tree requests).nonterminals)
  /-- Once root paths were made, no request changes what coverage is measured against. -/
  denominators_eq : (∃ request ∈ requests, request.1.makesRootPaths = true) →
    ∀ more : List (Request × WordStream),
      (serveAll settings tree (requests ++ more)).allLinks =
        (serveAll settings tree requests).allLinks ∧
      (serveAll settings tree (requests ++ more)).allLabels =
        (serveAll settings tree requests).allLabels

theorem isWithin_serveAll (settings : Settings) (tree : SyntaxTree)
    (requests : List (Request × WordStream)) :
    (serveAll settings tree requests).IsWithin (treePaths settings tree) :=
  (Session.isWithin_empty _).serveFrom requests

/-- What occurred before further requests and what occurred after them is the same, once
root paths were made. -/
theorem mem_serveAll_append (settings : Settings) (tree : SyntaxTree)
    {requests : List (Request × WordStream)}
    (h : ∃ request ∈ requests, request.1.makesRootPaths = true)
    (more : List (Request × WordStream)) (label : String) :
    (label ∈ (serveAll settings tree (requests ++ more)).terminals ↔
      label ∈ (serveAll settings tree requests).terminals) ∧
    (label ∈ (serveAll settings tree (requests ++ more)).nonterminals ↔
      label ∈ (serveAll settings tree requests).nonterminals) := by
  have hwithin := isWithin_serveAll settings tree requests
  have hfull : (serveAll settings tree requests).IsFull (treePaths settings tree) :=
    isFull_serveFrom h
  have hwithin' := hwithin.serveFrom more
  have hfull' := hfull.serveFrom more
  rw [serveAll_append]
  constructor
  · rw [hwithin.mem_terminals hfull, hwithin'.mem_terminals hfull']
  · rw [hwithin.mem_nonterminals hfull, hwithin'.mem_nonterminals hfull']

/-- **Every run of requests** stays within its tree. -/
theorem staysWithin_serveAll (settings : Settings) (tree : SyntaxTree)
    (requests : List (Request × WordStream)) : StaysWithin settings tree requests where
  rootTerminals_subset := (isWithin_serveAll settings tree requests).rootTerminals_subset
  rootNonterminals_subset := (isWithin_serveAll settings tree requests).rootNonterminals_subset
  rootLinks_le_one := by
    intro eldestCount coverage hcoverage
    have hwithin := isWithin_serveAll settings tree requests
    obtain ⟨hcount, rfl⟩ := Session.coverage_eq_ok hcoverage
    exact Session.linkRatio_le_one hcount hwithin.rootTerminals_subset
      hwithin.rootNonterminals_subset
  rootNodes_mem := by
    intro eldestCount coverage hcoverage
    have hwithin := isWithin_serveAll settings tree requests
    obtain ⟨hcount, rfl⟩ := Session.coverage_eq_ok hcoverage
    exact ⟨Session.labelRatio_nonneg, Session.labelRatio_le_one hcount
      hwithin.rootTerminals_subset hwithin.rootNonterminals_subset⟩
  mem_iff := mem_serveAll_append settings tree
  denominators_eq := by
    intro hmakes more
    have hmem := mem_serveAll_append settings tree hmakes more
    exact ⟨congrArg (· - 1) (linkCount_congr (fun label => (hmem label).1)
      fun label => (hmem label).2), labelCount_congr (fun label => (hmem label).1)
      fun label => (hmem label).2⟩

end Runs

end SyntaxPaths
