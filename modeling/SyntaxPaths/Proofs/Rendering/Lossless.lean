import SyntaxPaths.Proofs.Rendering.Binary
import SyntaxPaths.Proofs.Rendering.Nested
import SyntaxPaths.Proofs.SyntaxTree.Likeness

/-!
# Rendered trees can be read back

Neither rendering of a tree marks where a value or a missing link is written.  As long as no
value holds a bracket, both can be read back all the same: equal renderings come from trees of
the same shape with the same values, even if some of these are empty.

Both proofs read two renderings from left to right at once and show that what is read so far
agrees, **whatever is written behind it**.  A value ends at the first bracket
(`append_cons_inj_of_first`).

* **The structure-based rendering** (`agreeInShapeAndValues_of_renderNested`).  Behind the
  children of a node comes a closing bracket, and before that of the next child an opening one,
  so it is known whether there is a next child.  The value that closes a child is the one that
  opened it.  Once that has been taken away, the value of the next child is left, though no
  divider stands between them (`readsBackNested`).
* **The rendering of the binary view** (`agreeInShapeAndValues_of_renderBinary`).  What is
  written for a node begins with two opening brackets (`exists_toList_writeBinary`).  Neither a
  value in brackets nor a closing bracket does, so it is known whether a link is missing
  (`cases_writeLink`).
-/

namespace SyntaxPaths

namespace Rendering

/-- The brackets, which show the structure of a rendered tree. -/
def isBracket (c : Char) : Bool :=
  c == '(' || c == ')'

/-- A text without brackets. -/
def IsBare (cs : List Char) : Prop :=
  ∀ c ∈ cs, isBracket c = false

theorem isBare_nil : IsBare [] :=
  fun _ hc => nomatch hc

/-- **Two texts that are equal agree up to the first bracket**, in this bracket, and behind
it. -/
theorem append_cons_inj_of_first {front front' back back' : List Char} {c c' : Char}
    (hfront : IsBare front) (hfront' : IsBare front') (hc : isBracket c = true)
    (hc' : isBracket c' = true) (h : front ++ c :: back = front' ++ c' :: back') :
    front = front' ∧ c = c' ∧ back = back' := by
  induction front generalizing front' with
  | nil =>
      cases front' with
      | nil => exact ⟨rfl, List.cons.inj h⟩
      | cons item front' =>
          obtain ⟨rfl, -⟩ := List.cons.inj h
          rw [hfront' c List.mem_cons_self] at hc
          cases hc
  | cons item front ih =>
      obtain ⟨hitem, hfront⟩ := List.forall_mem_cons.mp hfront
      cases front' with
      | nil =>
          obtain ⟨rfl, -⟩ := List.cons.inj h
          rw [hitem] at hc'
          cases hc'
      | cons item' front' =>
          obtain ⟨rfl, htail⟩ := List.cons.inj h
          obtain ⟨rfl, hrest⟩ := ih hfront (List.forall_mem_cons.mp hfront').2 htail
          exact ⟨rfl, hrest⟩

/-- What opens a bracket first does not close one first. -/
theorem opening_ne_closing {front front' : List Char} (hfront : IsBare front)
    (hfront' : IsBare front') (back back' : List Char) :
    front ++ '(' :: back ≠ front' ++ ')' :: back' := by
  intro h
  exact absurd (append_cons_inj_of_first hfront hfront' rfl rfl h).2.1 (by decide)

/-- The text does not begin with two opening brackets. -/
def BeginsNoNode (cs : List Char) : Prop :=
  ∀ rest, cs ≠ '(' :: '(' :: rest

theorem beginsNoNode_closing (rest : List Char) : BeginsNoNode (')' :: rest) := by
  intro rest' heq
  exact opening_ne_closing isBare_nil isBare_nil _ _ heq.symm

/-- A value in brackets does not begin with two opening ones. -/
theorem beginsNoNode_value {value : List Char} (h : IsBare value) (rest : List Char) :
    BeginsNoNode ('(' :: (value ++ ')' :: rest)) := by
  intro rest' heq
  exact opening_ne_closing isBare_nil h _ _ (List.cons.inj heq).2.symm

end Rendering

namespace SyntaxTree

open Rendering

/-- No value holds a bracket. -/
def HasBareValues (tree : SyntaxTree) : Prop :=
  ∀ i < tree.size, '(' ∉ (tree.node i).value.toList ∧ ')' ∉ (tree.node i).value.toList

instance (tree : SyntaxTree) : Decidable tree.HasBareValues :=
  inferInstanceAs (Decidable (∀ i < tree.size, _))

theorem HasBareValues.isBare {tree : SyntaxTree} (h : tree.HasBareValues) (i : Nat) :
    IsBare (tree.node i).value.toList := by
  intro c hc
  by_cases hi : i < tree.size
  · obtain ⟨hopening, hclosing⟩ := h i hi
    have hne : c ≠ '(' ∧ c ≠ ')' := ⟨fun heq => hopening (heq ▸ hc), fun heq => hclosing (heq ▸ hc)⟩
    simp [isBracket, hne]
  · rw [node_eq_default (Nat.not_lt.mp hi)] at hc
    cases hc

variable {tree tree' : SyntaxTree}

/-! ### The structure-based rendering -/

theorem IsLinked.toList_renderNested (h : tree.IsLinked) (i : Nat) :
    (tree.renderNested i).toList =
      (tree.node i).value.toList ++
        '(' :: ((tree.nested (tree.node i).children).toList ++
          ')' :: (tree.node i).value.toList) := by
  rw [h.renderNested_eq_nested]
  simp

theorem toList_nested_cons (i : Nat) (nodes : List Nat) :
    (tree.nested (i :: nodes)).toList =
      (tree.renderNested i).toList ++ (tree.nested nodes).toList := by
  rw [nested_cons, String.toList_append]

/-- The node can be read back from what is written for it, whatever comes behind it. -/
def ReadsBackNested (tree tree' : SyntaxTree) (i : Nat) : Prop :=
  ∀ ⦃j : Nat⦄ ⦃back back' : List Char⦄,
    (tree.renderNested i).toList ++ back = (tree'.renderNested j).toList ++ back' →
      AlikeAt tree tree' i j ∧ back = back'

section Nested

variable (h : tree.IsLinked) (h' : tree'.IsLinked) (hbare : tree.HasBareValues)
  (hbare' : tree'.HasBareValues)
include h h' hbare hbare'

/-- **Siblings are read up to the closing bracket** behind them. -/
theorem readsBackNested_siblings {nodes nodes' : List Nat} {back back' : List Char}
    (hread : ∀ i ∈ nodes, ReadsBackNested tree tree' i)
    (heq : (tree.nested nodes).toList ++ ')' :: back =
      (tree'.nested nodes').toList ++ ')' :: back') :
    List.Forall₂ (AlikeAt tree tree') nodes nodes' ∧ back = back' := by
  induction nodes generalizing nodes' with
  | nil =>
      cases nodes' with
      | nil => exact ⟨.nil, (List.cons.inj heq).2⟩
      | cons j nodes' =>
          -- A further sibling would open a bracket first.
          rw [toList_nested_cons, h'.toList_renderNested, List.append_assoc,
            List.append_assoc] at heq
          exact absurd heq.symm (opening_ne_closing (hbare'.isBare j) isBare_nil _ _)
  | cons i nodes ih =>
      cases nodes' with
      | nil =>
          rw [toList_nested_cons, h.toList_renderNested, List.append_assoc,
            List.append_assoc] at heq
          exact absurd heq (opening_ne_closing (hbare.isBare i) isBare_nil _ _)
      | cons j nodes' =>
          obtain ⟨hfirst, hread⟩ := List.forall_mem_cons.mp hread
          rw [toList_nested_cons, toList_nested_cons, List.append_assoc, List.append_assoc] at heq
          obtain ⟨halike, heq⟩ := hfirst heq
          obtain ⟨hrest, hback⟩ := ih hread heq
          exact ⟨.cons halike hrest, hback⟩

/-- **Every node** can be read back from what is written for it. -/
theorem readsBackNested (i : Nat) : ReadsBackNested tree tree' i := by
  induction i using h.child_induction with
  | step i ih =>
      intro j back back' heq
      rw [h.toList_renderNested, h'.toList_renderNested] at heq
      simp only [List.append_assoc, List.cons_append] at heq
      obtain ⟨hvalue, -, heq⟩ :=
        append_cons_inj_of_first (hbare.isBare i) (hbare'.isBare j) rfl rfl heq
      obtain ⟨hchildren, heq⟩ := readsBackNested_siblings h h' hbare hbare' ih heq
      -- The same value stands at the end, and takes nothing of what comes behind.
      rw [hvalue, List.append_cancel_left_eq] at heq
      exact ⟨.intro (String.toList_inj.mp hvalue.symm) hchildren, heq⟩

end Nested

/-! ### The rendering of the binary view -/

/-- What is written for a link, which is nothing if it is missing. -/
def writeLink (tree : SyntaxTree) (link : Option Nat) : List Char :=
  (link.elim "" tree.writeBinary).toList

theorem IsLinked.toList_writeBinary (h : tree.IsLinked) (i : Nat) :
    (tree.writeBinary i).toList =
      '(' :: (tree.writeLink (tree.node i).leftChild ++
        '(' :: ((tree.node i).value.toList ++
          ')' :: (tree.writeLink (tree.node i).rightSibling ++ [')']))) := by
  rw [h.writeBinary_eq]
  simp [writeLink]

/-- **A node begins with two opening brackets**: its own, and that of its left child or of its
value. -/
theorem IsLinked.exists_toList_writeBinary (h : tree.IsLinked) (i : Nat) :
    ∃ rest, (tree.writeBinary i).toList = '(' :: '(' :: rest := by
  rw [h.toList_writeBinary]
  cases (tree.node i).leftChild with
  | none => exact ⟨_, rfl⟩
  | some c =>
      rw [writeLink, Option.elim_some, h.toList_writeBinary c]
      exact ⟨_, rfl⟩

/-- **Whether a link is missing** is seen from what is written for it, if no node is written
behind it. -/
theorem cases_writeLink (h : tree.IsLinked) (h' : tree'.IsLinked) {link link' : Option Nat}
    {back back' : List Char} (hback : BeginsNoNode back) (hback' : BeginsNoNode back')
    (heq : tree.writeLink link ++ back = tree'.writeLink link' ++ back') :
    (link = none ∧ link' = none ∧ back = back') ∨
      ∃ c c', link = some c ∧ link' = some c' ∧
        (tree.writeBinary c).toList ++ back = (tree'.writeBinary c').toList ++ back' := by
  cases link with
  | none =>
      cases link' with
      | none => exact Or.inl ⟨rfl, rfl, heq⟩
      | some c' =>
          obtain ⟨rest, hrest⟩ := h'.exists_toList_writeBinary c'
          rw [writeLink, writeLink, Option.elim_some, hrest] at heq
          exact absurd heq (hback _)
  | some c =>
      cases link' with
      | none =>
          obtain ⟨rest, hrest⟩ := h.exists_toList_writeBinary c
          rw [writeLink, writeLink, Option.elim_some, hrest] at heq
          exact absurd heq.symm (hback' _)
      | some c' => exact Or.inr ⟨c, c', rfl, rfl, heq⟩

/-- The node and the siblings to its right can be read back from what is written from this node
on, whatever comes behind it. -/
def ReadsBackBinary (tree tree' : SyntaxTree) (i : Nat) : Prop :=
  ∀ ⦃j : Nat⦄ ⦃run run' : List Nat⦄ ⦃back back' : List Char⦄,
    SiblingRun tree (some i) run → SiblingRun tree' (some j) run' →
    (tree.writeBinary i).toList ++ back = (tree'.writeBinary j).toList ++ back' →
      List.Forall₂ (AlikeAt tree tree') run run' ∧ back = back'

/-- The left child and its right siblings are the children. -/
theorem IsLinked.siblingRun_leftChild (h : tree.IsLinked) (i : Nat) :
    SiblingRun tree (tree.node i).leftChild (tree.node i).children := by
  rw [h.leftChild_eq, List.head?_eq_getElem?]
  exact h.siblingRun_drop i List.drop_zero

/-- The root has no siblings. -/
theorem IsLinked.siblingRun_root (h : tree.IsLinked) : SiblingRun tree (some root) [root] := by
  refine .cons ?_
  have hnone : (tree.node root).rightSibling = none := congrArg Place.rightSibling h.place_root
  rw [hnone]
  exact .nil

section Binary

variable (h : tree.IsLinked) (h' : tree'.IsLinked)
include h h'

/-- **A link is read** together with all right siblings behind it, if it leads to a node that can
be read back. -/
theorem readsBackBinary_link {link link' : Option Nat} {run run' : List Nat}
    {back back' : List Char} (hread : ∀ c, link = some c → ReadsBackBinary tree tree' c)
    (hrun : SiblingRun tree link run) (hrun' : SiblingRun tree' link' run')
    (hback : BeginsNoNode back) (hback' : BeginsNoNode back')
    (heq : tree.writeLink link ++ back = tree'.writeLink link' ++ back') :
    List.Forall₂ (AlikeAt tree tree') run run' ∧ back = back' := by
  rcases cases_writeLink h h' hback hback' heq with ⟨rfl, rfl, hrest⟩ | ⟨c, c', rfl, rfl, hwritten⟩
  · cases hrun
    cases hrun'
    exact ⟨.nil, hrest⟩
  · exact hread c rfl hrun hrun' hwritten

/-- **Every node** can be read back, together with the siblings to its right. -/
theorem readsBackBinary (hbare : tree.HasBareValues) (hbare' : tree'.HasBareValues) (i : Nat) :
    ReadsBackBinary tree tree' i := by
  induction i using h.target_induction with
  | step i ih =>
      intro j run run' back back' hrun hrun' heq
      cases hrun with
      | cons hright =>
          cases hrun' with
          | cons hright' =>
              rw [h.toList_writeBinary, h'.toList_writeBinary] at heq
              simp only [List.append_assoc, List.cons_append, List.nil_append] at heq
              obtain ⟨hchildren, heq⟩ := readsBackBinary_link h h' (fun c hc => ih .left c hc)
                (h.siblingRun_leftChild i) (h'.siblingRun_leftChild j)
                (beginsNoNode_value (hbare.isBare i) _) (beginsNoNode_value (hbare'.isBare j) _)
                (List.cons.inj heq).2
              obtain ⟨hvalue, -, heq⟩ := append_cons_inj_of_first (hbare.isBare i)
                (hbare'.isBare j) rfl rfl (List.cons.inj heq).2
              obtain ⟨hsiblings, heq⟩ := readsBackBinary_link h h' (fun c hc => ih .right c hc)
                hright hright' (beginsNoNode_closing back) (beginsNoNode_closing back') heq
              have halike : AlikeAt tree tree' i j :=
                .intro (String.toList_inj.mp hvalue.symm) hchildren
              exact ⟨.cons halike hsiblings, (List.cons.inj heq).2⟩

end Binary

end SyntaxTree

/-! ### Built trees -/

/-- The parse tree of the line `_ b`: two words, the first one in a phrase of its own.  All nodes
are of the given kind. -/
def ParseTree.blankAndName (kind : String) : ParseTree :=
  .node kind (.columns 0 3)
    [.node kind (.columns 0 1) [.node kind (.columns 0 1) []], .node kind (.columns 2 3) []]

/-- The tree that is built from it.  The first word has no sub-tokens, so its value is empty. -/
def SyntaxTree.blankAndName (kind : String) : SyntaxTree :=
  .layout
    [⟨kind, "_ b", .columns 0 3⟩, ⟨kind, "_", .columns 0 1⟩, ⟨kind, "b", .columns 2 3⟩,
      ⟨kind, "", .columns 0 1⟩]
    [2, 1, 0, 0]

namespace SyntaxTree

variable {tree tree' : SyntaxTree}

theorem build_blankAndName :
    build .verbatim (.blankAndName "word") ["_ b"] = .ok (.blankAndName "word") ∧
      build .verbatim (.blankAndName "name") ["_ b"] = .ok (.blankAndName "name") := by
  decide +kernel

theorem hasBareValues_blankAndName :
    (blankAndName "word").HasBareValues ∧ (blankAndName "name").HasBareValues := by
  decide +kernel

/-- **The structure-based rendering of a built tree** tells its shape and its values, if these
hold no brackets. -/
theorem agreeInShapeAndValues_of_renderNested {normalizer normalizer' : Normalizer}
    {raw raw' : ParseTree} {lines lines' : List String}
    (h : build normalizer raw lines = .ok tree) (h' : build normalizer' raw' lines' = .ok tree')
    (hbare : tree.HasBareValues) (hbare' : tree'.HasBareValues)
    (heq : tree.renderNested root = tree'.renderNested root) :
    tree.AgreeInShapeAndValues tree' := by
  have hwritten : (tree.renderNested root).toList ++ [] =
      (tree'.renderNested root).toList ++ [] := by
    rw [heq]
  have hread := readsBackNested (isLinked_of_build h) (isLinked_of_build h') hbare hbare' root
  obtain ⟨hroot, -⟩ := hread hwritten
  exact (hasLayout_of_build h).agreeInShapeAndValues (hasLayout_of_build h') hroot

theorem agreeInShapeAndValues_blankAndName :
    (build .verbatim (.blankAndName "word") ["_ b"] = .ok (.blankAndName "word") ∧
      build .verbatim (.blankAndName "name") ["_ b"] = .ok (.blankAndName "name")) ∧
      ((blankAndName "word").HasBareValues ∧ (blankAndName "name").HasBareValues) ∧
      (blankAndName "word").renderNested root = "_ b(_(())_b()b)_ b" ∧
      (blankAndName "name").renderNested root = "_ b(_(())_b()b)_ b" ∧
      (blankAndName "word").AgreeInShapeAndValues (blankAndName "name") := by
  obtain ⟨hbuilt, hbuilt'⟩ := build_blankAndName
  obtain ⟨hbare, hbare'⟩ := hasBareValues_blankAndName
  have hwritten : (blankAndName "word").renderNested root = "_ b(_(())_b()b)_ b" := by
    decide +kernel
  have hwritten' : (blankAndName "name").renderNested root = "_ b(_(())_b()b)_ b" := by
    decide +kernel
  exact ⟨build_blankAndName, hasBareValues_blankAndName, hwritten, hwritten',
    agreeInShapeAndValues_of_renderNested hbuilt hbuilt' hbare hbare'
      (hwritten.trans hwritten'.symm)⟩

/-- **The rendering of the binary view of a built tree** tells its shape and its values, if these
hold no brackets. -/
theorem agreeInShapeAndValues_of_renderBinary {normalizer normalizer' : Normalizer}
    {raw raw' : ParseTree} {lines lines' : List String} {limit limit' : Nat} {rendered : String}
    (h : build normalizer raw lines = .ok tree) (h' : build normalizer' raw' lines' = .ok tree')
    (hbare : tree.HasBareValues) (hbare' : tree'.HasBareValues)
    (hrendered : tree.renderBinary limit = .ok rendered)
    (hrendered' : tree'.renderBinary limit' = .ok rendered) :
    tree.AgreeInShapeAndValues tree' := by
  have hlinked := isLinked_of_build h
  have hlinked' := isLinked_of_build h'
  have hwritten : (tree.writeBinary root).toList ++ [] =
      (tree'.writeBinary root).toList ++ [] := by
    rw [← (hlinked.renderBinary_eq_ok hrendered).1, (hlinked'.renderBinary_eq_ok hrendered').1]
  obtain ⟨hroots, -⟩ := readsBackBinary hlinked hlinked' hbare hbare' root
    hlinked.siblingRun_root hlinked'.siblingRun_root hwritten
  obtain ⟨hroot, -⟩ := List.forall₂_cons.mp hroots
  exact (hasLayout_of_build h).agreeInShapeAndValues (hasLayout_of_build h') hroot

/-- The limits may differ: the words have depth three, which is just enough. -/
theorem agreeInShapeAndValues_blankAndName_limits :
    (build .verbatim (.blankAndName "word") ["_ b"] = .ok (.blankAndName "word") ∧
      build .verbatim (.blankAndName "name") ["_ b"] = .ok (.blankAndName "name")) ∧
      ((blankAndName "word").HasBareValues ∧ (blankAndName "name").HasBareValues) ∧
      (blankAndName "word").renderBinary 1000 = .ok "(((())(_)((b)))(_ b))" ∧
      (blankAndName "name").renderBinary 3 = .ok "(((())(_)((b)))(_ b))" ∧
      (blankAndName "word").AgreeInShapeAndValues (blankAndName "name") := by
  obtain ⟨hbuilt, hbuilt'⟩ := build_blankAndName
  obtain ⟨hbare, hbare'⟩ := hasBareValues_blankAndName
  have hwritten : (blankAndName "word").renderBinary 1000 = .ok "(((())(_)((b)))(_ b))" := by
    decide +kernel
  have hwritten' : (blankAndName "name").renderBinary 3 = .ok "(((())(_)((b)))(_ b))" := by
    decide +kernel
  exact ⟨build_blankAndName, hasBareValues_blankAndName, hwritten, hwritten',
    agreeInShapeAndValues_of_renderBinary hbuilt hbuilt' hbare hbare' hwritten hwritten'⟩

end SyntaxTree

end SyntaxPaths
