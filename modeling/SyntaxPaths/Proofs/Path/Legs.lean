import SyntaxPaths.Proofs.Path.Leaf

/-!
# What the lengths of the legs decide

Of a merge, two numbers decide whether it qualifies: how many labels lie on the way up, and
how many on the way down (`Merge.legs`).  They decide what is written as moves, too.  So two
merges with different labels, but legs of the same lengths, are told apart only by styles
that write labels.

The three path styles describe one way.  Where both labels and moves are written, they take
turns, a label first and a label last: every second place, read alone, gives one of the other
two styles (`Merge.alternates_middle`).
-/

namespace SyntaxPaths

/-- A list takes turns between the items of two lists, of which the first one begins. -/
def Alternates {α : Type} (both first second : List α) : Prop :=
  ∀ k, both[2 * k]? = first[k]? ∧ both[2 * k + 1]? = second[k]?

theorem alternates_singleton {α : Type} (item : α) : Alternates [item] [item] [] := by
  intro k
  cases k with
  | zero => exact ⟨rfl, rfl⟩
  | succ k => exact ⟨rfl, rfl⟩

theorem Alternates.cons_cons {α : Type} {both first second : List α}
    (h : Alternates both first second) (item item' : α) :
    Alternates (item :: item' :: both) (item :: first) (item' :: second) := by
  intro k
  cases k with
  | zero => exact ⟨rfl, rfl⟩
  | succ k => exact h k

namespace Merge

variable {merge merge' : Merge}

/-- How many labels lie on the way up, and how many on the way down. -/
def legs (merge : Merge) : Nat × Nat :=
  (merge.upward.length, merge.downward.length)

/-- Of two merges with the same legs there are both, or neither. -/
theorem eq_none_or_exists_of_legs {found found' : Option Merge}
    (h : found.map legs = found'.map legs) :
    (found = none ∧ found' = none) ∨
      ∃ merge merge', found = some merge ∧ found' = some merge' ∧ merge.legs = merge'.legs := by
  cases found with
  | none => exact Or.inl ⟨rfl, Option.map_eq_none_iff.mp h.symm⟩
  | some merge =>
      obtain ⟨merge', hmerge', heq⟩ := Option.map_eq_some_iff.mp h.symm
      exact Or.inr ⟨merge, merge', rfl, hmerge', heq.symm⟩

theorem qualifies_congr (h : merge.legs = merge'.legs) (width length : Nat) :
    merge.qualifies width length = merge'.qualifies width length := by
  obtain ⟨hup, hdown⟩ := Prod.mk.inj h
  unfold qualifies imbalance Merge.length
  rw [hup, hdown]

theorem middle_moves_congr (h : merge.legs = merge'.legs) :
    merge.middle .moves = merge'.middle .moves := by
  obtain ⟨hup, hdown⟩ := Prod.mk.inj h
  unfold middle
  rw [hup, hdown]

/-! ### The three ways to write a middle -/

/-- On the way down each label has its move in front. -/
theorem alternates_descent (summit : String) (downward : List String) :
    Alternates (summit :: downward.flatMap fun label => [down, label]) (summit :: downward)
      (List.replicate downward.length down) := by
  induction downward generalizing summit with
  | nil => exact alternates_singleton summit
  | cons label downward ih => exact (ih label).cons_cons summit down

/-- **Labels and moves take turns** where both are written. -/
theorem alternates_middle (merge : Merge) :
    Alternates (merge.middle .labelsAndMoves) (merge.middle .labels) (merge.middle .moves) := by
  obtain ⟨upward, summit, downward⟩ := merge
  -- On the way up each label has its move behind it.
  induction upward with
  | nil => exact alternates_descent summit downward
  | cons label upward ih => exact ih.cons_cons label up

end Merge

/-! ### Leaf paths -/

section LeafPath

variable {shape shape' : LeafPathShape} {u v u' v' : RootPath}

/-- A leaf path leads where the merge qualifies, whatever the style. -/
theorem isSome_leafPath? (shape : LeafPathShape) (u v : RootPath) :
    (leafPath? shape u v).isSome =
      (merge? u.ancestors v.ancestors).any (·.qualifies shape.width shape.length) := by
  unfold leafPath?
  cases merge? u.ancestors v.ancestors with
  | none => rfl
  | some merge =>
      rw [Option.bind_some, Option.any_some]
      split
      · next h => exact h.symm
      · next h => exact (Bool.eq_false_iff.mpr h).symm

/-- **Legs of the same lengths** are joined, or not, in the same way. -/
theorem isSome_leafPath?_congr (hwidth : shape.width = shape'.width)
    (hlength : shape.length = shape'.length)
    (hlegs : (merge? u.ancestors v.ancestors).map Merge.legs =
      (merge? u'.ancestors v'.ancestors).map Merge.legs) :
    (leafPath? shape u v).isSome = (leafPath? shape' u' v').isSome := by
  rw [isSome_leafPath?, isSome_leafPath?, hwidth, hlength]
  obtain ⟨hnone, hnone'⟩ | ⟨merge, merge', hmerge, hmerge', heq⟩ :=
    Merge.eq_none_or_exists_of_legs hlegs
  · rw [hnone, hnone']
  · rw [hmerge, hmerge', Option.any_some, Option.any_some, Merge.qualifies_congr heq]

/-- **Where only moves are written**, the same anchors and legs of the same lengths give the
same path. -/
theorem leafPath?_moves_congr (hstyle : shape.style = .moves) (hsource : u.anchor = u'.anchor)
    (htarget : v.anchor = v'.anchor)
    (hlegs : (merge? u.ancestors v.ancestors).map Merge.legs =
      (merge? u'.ancestors v'.ancestors).map Merge.legs) :
    leafPath? shape u v = leafPath? shape u' v' := by
  unfold leafPath?
  rw [hstyle, hsource, htarget]
  obtain ⟨hnone, hnone'⟩ | ⟨merge, merge', hmerge, hmerge', heq⟩ :=
    Merge.eq_none_or_exists_of_legs hlegs
  · rw [hnone, hnone']
  · rw [hmerge, hmerge', Option.bind_some, Option.bind_some, Merge.qualifies_congr heq,
      Merge.middle_moves_congr heq]

end LeafPath

end SyntaxPaths
