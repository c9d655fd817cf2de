import Mathlib.Algebra.Ring.Nat
import Mathlib.Data.List.Perm.Basic
import SyntaxPaths.Proofs.Extraction.Tiers
import SyntaxPaths.Proofs.Path.Leaf

/-!
# What a session records of leaf paths

A leaf path is written as one text, and recorded by the pieces of that text.  This does not
give its parts back: a part with separators comes back in several pieces, and an empty part as
an empty piece.

* **One path.**  Its tokens are the pieces of its parts, part by part.  No part is without a
  piece, so there is always a first token and another one that is the last
  (`LeafPath.tokens_eq_cons_concat`), and no end is ever made up.  Being a piece of an anchor,
  an end is the whole anchor exactly if that has no separator (`eq_iff_of_mem_pieces`).
* **A sample.**  Each token of each path is recorded once, in one of two lists, so that both
  together hold the tokens in another order (`recorded_perm`).  No other list changes
  (`recordsTokens_sampleLeafPathsFrom`).
-/

namespace SyntaxPaths

open Randomness Text

/-- An anchor is a single token exactly if it holds no separator. -/
theorem RootPath.isMultiToken_eq_false_iff (path : RootPath) :
    path.isMultiToken = false ↔ separator ∉ path.anchor.toList := by
  have hpos : 0 < (pieces separator path.anchor).length :=
    List.length_pos_iff.mpr (pieces_ne_nil separator path.anchor)
  rw [isMultiToken, decide_eq_false_iff_not, anchorTokenCount, ← length_pieces_eq_one_iff]
  omega

/-! ### One path -/

namespace LeafPath

variable (path : LeafPath)

/-- Source and target have a token each, whatever they are. -/
theorem two_le_length_tokens : 2 ≤ path.tokens.length := by
  obtain ⟨first, rest, init, last, -, -, htokens⟩ := path.exists_tokens_eq
  rw [htokens, List.length_cons, List.length_append, List.length_singleton]
  omega

theorem tokens_ne_nil : path.tokens ≠ [] := by
  have hlength := path.two_le_length_tokens
  exact List.ne_nil_of_length_pos (by omega)

/-- The token in which a path begins. -/
def firstToken : String :=
  path.tokens.head path.tokens_ne_nil

/-- The token in which a path ends. -/
def lastToken : String :=
  path.tokens.getLast path.tokens_ne_nil

/-- The tokens behind the first and in front of the last one. -/
def tokensBetween : List String :=
  path.tokens.tail.dropLast

/-- **The first and the last token are two**, and all others stand between them. -/
theorem tokens_eq_cons_concat :
    path.tokens = path.firstToken :: (path.tokensBetween ++ [path.lastToken]) := by
  have htail : path.tokens.tail ≠ [] := by
    have hlength := path.two_le_length_tokens
    exact List.ne_nil_of_length_pos (by rw [List.length_tail]; omega)
  rw [tokensBetween, lastToken, ← List.getLast_tail htail, List.dropLast_concat_getLast htail,
    firstToken, List.cons_head_tail]

/-- A path begins in the first piece of its source. -/
theorem firstToken_eq :
    path.firstToken = (pieces separator path.source).head (pieces_ne_nil _ _) := by
  obtain ⟨first, rest, init, last, hsource, -, htokens⟩ := path.exists_tokens_eq
  simp only [firstToken, htokens, hsource, List.head_cons]

/-- A path ends in the last piece of its target. -/
theorem lastToken_eq :
    path.lastToken = (pieces separator path.target).getLast (pieces_ne_nil _ _) := by
  obtain ⟨first, rest, init, last, -, htarget, htokens⟩ := path.exists_tokens_eq
  simp only [lastToken, htokens, htarget, ← List.cons_append, List.getLast_concat]

/-- **A path begins in its whole source** exactly if that is not cut. -/
theorem firstToken_eq_source_iff :
    path.firstToken = path.source ↔ separator ∉ path.source.toList := by
  rw [firstToken_eq]
  exact eq_iff_of_mem_pieces (List.head_mem _)

/-- **A path ends in its whole target** exactly if that is not cut. -/
theorem lastToken_eq_target_iff :
    path.lastToken = path.target ↔ separator ∉ path.target.toList := by
  rw [lastToken_eq]
  exact eq_iff_of_mem_pieces (List.getLast_mem _)

/-- **What is read off a leaf path**: the pieces of all its parts. -/
structure ReadsParts : Prop where
  /-- They are those of the source, of what stands in between, and of the target. -/
  tokens_eq : path.tokens =
    pieces separator path.source ++
      (path.middle.flatMap (pieces separator) ++ pieces separator path.target)
  /-- There are two of them at least. -/
  two_le_length : 2 ≤ path.tokens.length

theorem readsParts : path.ReadsParts where
  tokens_eq := path.tokens_eq
  two_le_length := path.two_le_length_tokens

end LeafPath

/-! ### Samples -/

theorem endpoints_tokens (path : LeafPath) :
    endpoints path.tokens = [path.firstToken, path.lastToken] := by
  rw [path.tokens_eq_cons_concat, endpoints_cons_concat]

theorem interior_tokens (path : LeafPath) : interior path.tokens = path.tokensBetween := by
  rw [path.tokens_eq_cons_concat, interior_cons_concat]

/-- **The session after leaf paths were sampled**: their ends are added to one list, and what
stands between them to another one. -/
theorem Session.recordLeafPaths_eq (session : Session) (paths : List LeafPath) :
    session.recordLeafPaths paths =
      { session with
        leafTerminals := session.leafTerminals ++
          paths.flatMap fun path => [path.firstToken, path.lastToken]
        leafNonterminals := session.leafNonterminals ++ paths.flatMap LeafPath.tokensBetween } := by
  rw [recordLeafPaths, List.flatMap_congr fun path _ => endpoints_tokens path,
    List.flatMap_congr fun path _ => interior_tokens path]

/-- **Each token is recorded once**, with the ends of all paths in front of the others. -/
theorem recorded_perm (paths : List LeafPath) :
    ((paths.flatMap fun path => [path.firstToken, path.lastToken]) ++
      paths.flatMap LeafPath.tokensBetween).Perm (paths.flatMap LeafPath.tokens) := by
  refine (List.flatMap_append_perm _ _ _).trans (List.Perm.flatMap_left _ fun path _ => ?_)
  rw [path.tokens_eq_cons_concat]
  exact List.Perm.cons _ (List.perm_append_singleton _ _).symm

/-- **What is recorded of the leaf paths** sampled between the given root paths, in a session
that may have recorded others before. -/
structure Sampled.RecordsTokens (roots : List RootPath) (session : Session)
    (sample : Sampled LeafPath) : Prop where
  /-- Path by path, the first and the last token are added to the ends, and the tokens between
  them to what stands in between.  No other list changes. -/
  session_eq : sample.session =
    { session with
      leafTerminals := session.leafTerminals ++
        sample.paths.flatMap fun path => [path.firstToken, path.lastToken]
      leafNonterminals :=
        session.leafNonterminals ++ sample.paths.flatMap LeafPath.tokensBetween }
  /-- A recorded end is the whole anchor of a root path exactly if that is a single token. -/
  ends_eq_iff : ∀ path ∈ sample.paths, ∃ u ∈ roots, ∃ v ∈ roots,
    path.source = u.anchor ∧ path.target = v.anchor ∧
      (path.firstToken = u.anchor ↔ u.isMultiToken = false) ∧
      (path.lastToken = v.anchor ↔ v.isMultiToken = false)
  /-- Together the two lists hold each token once more, in another order. -/
  perm : (sample.session.leafTerminals ++ sample.session.leafNonterminals).Perm
    ((session.leafTerminals ++ session.leafNonterminals) ++ sample.paths.flatMap LeafPath.tokens)
  /-- So they grow by the number of all tokens. -/
  length_add : sample.session.leafTerminals.length + sample.session.leafNonterminals.length =
    session.leafTerminals.length + session.leafNonterminals.length +
      (sample.paths.map fun path => path.tokens.length).sum

/-- **Leaf paths are recorded by the pieces of their texts**, whatever their parts hold. -/
theorem recordsTokens_sampleLeafPathsFrom (settings : Settings) (roots : List RootPath)
    (session : Session) (stream : WordStream) :
    (∀ path : LeafPath, path.ReadsParts) ∧
      (sampleLeafPathsFrom settings roots session stream).RecordsTokens roots session := by
  let sample := sampleLeafPathsFrom settings roots session stream
  have hsession : sample.session = session.recordLeafPaths sample.paths := rfl
  rw [session.recordLeafPaths_eq] at hsession
  have hperm : (sample.session.leafTerminals ++ sample.session.leafNonterminals).Perm
      ((session.leafTerminals ++ session.leafNonterminals) ++
        sample.paths.flatMap LeafPath.tokens) := by
    rw [hsession, List.append_assoc, List.append_assoc]
    refine List.Perm.append_left _ ((List.perm_append_comm_assoc _ _ _).trans ?_)
    exact List.Perm.append_left _ (recorded_perm sample.paths)
  refine ⟨LeafPath.readsParts, hsession, ?_, hperm, ?_⟩
  · intro path hpath
    obtain ⟨u, hu, v, hv, hleaf⟩ := exists_leafPath?_of_mem hpath
    obtain ⟨merge, -, hsource, -, htarget⟩ := exists_merge_of_leafPath? hleaf
    refine ⟨u, hu, v, hv, hsource, htarget, ?_, ?_⟩
    · rw [u.isMultiToken_eq_false_iff, ← hsource, path.firstToken_eq_source_iff]
    · rw [v.isMultiToken_eq_false_iff, ← htarget, path.lastToken_eq_target_iff]
  · have hlength := hperm.length_eq
    rw [List.length_append, List.length_append, List.length_append, List.length_flatMap] at hlength
    exact hlength

/-- An anchor of two tokens leaves one of them between the ends. -/
example :
    let sample := sampleLeafPathsFrom .unset
      [⟨["r", "p", "q"], "a@0"⟩, ⟨["r", "s"], "b|c@1"⟩, ⟨["other"], "d@2"⟩] .empty (.ofSeed 0)
    sample.paths.map LeafPath.render = ["a@0|q|p|r|s|b|c@1"] ∧
      sample.session.leafTerminals = ["a@0", "c@1"] ∧
      sample.session.leafNonterminals = ["q", "p", "r", "s", "b"] := by
  decide +kernel

end SyntaxPaths
