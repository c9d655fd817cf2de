import SyntaxPaths.Randomness.Choice

/-!
# Choices of distinct indices

A chooser promises `amount` different indices below `length` (`Chooses`).  This is
all that sampling asks of randomness: which indices come up depends on the state, how
many there are does not.  `chooseIndices` keeps the promise in each of its three ways.

* **The shuffle** only ever swaps entries of a table of all indices, so its first
  `amount` entries are different, whatever was drawn.
* **The sweep** has chosen among the indices below its bound, and the bound itself
  is still free when a draw repeats (`IsChoice.sweep`).
* **Rejection** goes on until a draw is fresh, and a fresh index exists as long as
  not all are chosen (`drawFresh_spec`).

The last two need the draws to stay below their bound (`draw_lt`).
-/

namespace SyntaxPaths.Randomness

/-- Different indices below `length`, `amount` of them. -/
structure IsChoice (length amount : Nat) (chosen : List Nat) : Prop where
  /-- No index is chosen twice. -/
  nodup : chosen.Nodup
  /-- So many are chosen. -/
  length_eq : chosen.length = amount
  /-- They lie below the bound. -/
  lt : ∀ i ∈ chosen, i < length

namespace IsChoice

theorem nil (length : Nat) : IsChoice length 0 [] where
  nodup := List.nodup_nil
  length_eq := rfl
  lt := by simp

/-- One more index, not chosen before, makes a larger choice. -/
theorem cons {length amount i : Nat} {chosen : List Nat} (h : IsChoice length amount chosen)
    (hi : i < length) (hfresh : i ∉ chosen) : IsChoice length (amount + 1) (i :: chosen) where
  nodup := List.nodup_cons.mpr ⟨hfresh, h.nodup⟩
  length_eq := by simp [h.length_eq]
  lt := by
    intro j hj
    rcases List.mem_cons.mp hj with rfl | hj
    · exact hi
    · exact h.lt j hj

theorem mono {length length' amount : Nat} {chosen : List Nat}
    (h : IsChoice length amount chosen) (hle : length ≤ length') :
    IsChoice length' amount chosen where
  nodup := h.nodup
  length_eq := h.length_eq
  lt := fun i hi => Nat.lt_of_lt_of_le (h.lt i hi) hle

/-- A choice that leaves something out misses some index. -/
theorem exists_fresh {length amount : Nat} {chosen : List Nat}
    (h : IsChoice length amount chosen) (hlt : amount < length) :
    ∃ i, i < length ∧ i ∉ chosen := by
  by_cases hall : ∀ i, i < length → i ∈ chosen
  · -- All indices would fit into a shorter list without repetitions.
    have hsub : List.range length ⊆ chosen := by
      intro i hi
      exact hall i (List.mem_range.mp hi)
    have hle := List.nodup_range.length_le_of_subset hsub
    rw [List.length_range, h.length_eq] at hle
    omega
  · simpa using hall

end IsChoice

/-! ### Draws stay below their bound -/

namespace WordSize

theorem next_lt (size : WordSize) (stream : WordStream) : (size.next stream).1 < size.count := by
  cases size with
  | single => exact UInt32.toNat_lt _
  | double => exact UInt64.toNat_lt _

/-- The upper half of the product of a word with a bound lies below the bound. -/
theorem next_mul_div_lt (size : WordSize) (stream : WordStream) {bound : Nat} (h : 0 < bound) :
    (size.next stream).1 * bound / size.count < bound := by
  have hword := size.next_lt stream
  rw [Nat.div_lt_iff_lt_mul (by omega), Nat.mul_comm bound]
  exact Nat.mul_lt_mul_of_pos_right hword h

end WordSize

theorem draw_lt (size : WordSize) {bound : Nat} (zone tries : Nat) (stream : WordStream)
    (h : 0 < bound) : (draw size bound zone tries stream).1 < bound := by
  induction tries generalizing stream with
  | zero => exact h
  | succ tries ih =>
      simp only [draw]
      split
      · exact size.next_mul_div_lt stream h
      · exact ih _

theorem drawBelow_lt {bound : Nat} (stream : WordStream) (h : 0 < bound) :
    (drawBelow bound stream).1 < bound :=
  draw_lt _ _ _ stream h

/-! ### By a shuffle -/

theorem swapIfInBounds_perm (indices : Array Nat) (i j : Nat) :
    (indices.swapIfInBounds i j).toList.Perm indices.toList := by
  unfold Array.swapIfInBounds
  split
  · split
    · exact (Array.swap_perm _ _).toList
    · exact List.Perm.refl _
  · exact List.Perm.refl _

theorem shuffleFrom_succ (steps i : Nat) (indices : Array Nat) (stream : WordStream) :
    shuffleFrom (steps + 1) i indices stream =
      shuffleFrom steps (i + 1)
        (indices.swapIfInBounds i (i + (drawBelow (indices.size - i) stream).1))
        (drawBelow (indices.size - i) stream).2 := by
  rw [shuffleFrom]

theorem shuffleFrom_perm (steps i : Nat) (indices : Array Nat) (stream : WordStream) :
    (shuffleFrom steps i indices stream).1.toList.Perm indices.toList := by
  induction steps generalizing i indices stream with
  | zero => exact List.Perm.refl _
  | succ steps ih =>
      rw [shuffleFrom_succ]
      exact (ih _ _ _).trans (swapIfInBounds_perm indices i _)

theorem chooseByShuffle_isChoice {length amount : Nat} (stream : WordStream)
    (h : amount ≤ length) : IsChoice length amount (chooseByShuffle length amount stream).1 := by
  have hperm := shuffleFrom_perm amount 0 (Array.range length) stream
  rw [Array.toList_range] at hperm
  -- What was drawn does not matter: a permutation of all indices repeats none.
  refine ⟨?_, ?_, ?_⟩
  · exact (hperm.nodup_iff.mpr List.nodup_range).sublist (List.take_sublist _ _)
  · have hlen := hperm.length_eq
    rw [List.length_range] at hlen
    simp only [chooseByShuffle, List.length_take, hlen]
    omega
  · intro i hi
    exact List.mem_range.mp (hperm.mem_iff.mp (List.mem_of_mem_take hi))

/-! ### By a sweep -/

/-- One step of the sweep: the draw, or the bound itself when the draw repeats. -/
theorem IsChoice.sweep {j amount t : Nat} {chosen : List Nat} (h : IsChoice j amount chosen)
    (ht : t < j + 1) : IsChoice (j + 1) (amount + 1) ((if t ∈ chosen then j else t) :: chosen) := by
  have h' := h.mono (Nat.le_succ j)
  split
  · refine h'.cons (Nat.lt_succ_self j) ?_
    intro hj
    exact Nat.lt_irrefl j (h.lt j hj)
  · next hfresh => exact h'.cons ht hfresh

theorem sweepFrom_succ (steps j : Nat) (chosen : List Nat) (stream : WordStream) :
    sweepFrom (steps + 1) j chosen stream =
      sweepFrom steps (j + 1)
        ((if (drawBelow (j + 1) stream).1 ∈ chosen then j else (drawBelow (j + 1) stream).1) ::
          chosen)
        (drawBelow (j + 1) stream).2 := by
  rw [sweepFrom]

theorem sweepFrom_isChoice (steps : Nat) {j amount : Nat} {chosen : List Nat}
    (stream : WordStream) (h : IsChoice j amount chosen) :
    IsChoice (j + steps) (amount + steps) (sweepFrom steps j chosen stream).1 := by
  induction steps generalizing j amount chosen stream with
  | zero => exact h
  | succ steps ih =>
      have hstep := ih (drawBelow (j + 1) stream).2
        (h.sweep (drawBelow_lt stream (Nat.succ_pos j)))
      rw [sweepFrom_succ, ← Nat.succ_add_eq_add_succ j, ← Nat.succ_add_eq_add_succ amount]
      exact hstep

theorem chooseBySweep_isChoice {length amount : Nat} (stream : WordStream)
    (h : amount ≤ length) : IsChoice length amount (chooseBySweep length amount stream).1 := by
  have hsweep := sweepFrom_isChoice amount stream (IsChoice.nil (length - amount))
  rwa [Nat.sub_add_cancel h, Nat.zero_add] at hsweep

/-! ### By rejection -/

section Rejection

variable (size : WordSize)

theorem drawFresh_succ (length : Nat) (chosen : List Nat) (tries : Nat) (stream : WordStream) :
    drawFresh size length chosen (tries + 1) stream =
      if (draw size length (widestZone size length) period stream).1 ∈ chosen then
        drawFresh size length chosen tries
          (draw size length (widestZone size length) period stream).2
      else draw size length (widestZone size length) period stream := by
  rw [drawFresh]

/-- The search for a fresh index finds one, unless all are chosen. -/
theorem drawFresh_spec {length amount : Nat} {chosen : List Nat} (tries : Nat)
    (stream : WordStream) (h : IsChoice length amount chosen) (hlt : amount < length) :
    (drawFresh size length chosen tries stream).1 < length ∧
      (drawFresh size length chosen tries stream).1 ∉ chosen := by
  induction tries generalizing stream with
  | zero =>
      -- After the last try the first free index is taken, and there is one.
      obtain ⟨i, hi, hfresh⟩ := h.exists_fresh hlt
      cases hfind : (List.range length).find? (· ∉ chosen) with
      | none =>
          have hnone := List.find?_eq_none.mp hfind i (List.mem_range.mpr hi)
          simp [hfresh] at hnone
      | some t =>
          simp only [drawFresh, hfind, Option.getD_some]
          exact ⟨List.mem_range.mp (List.mem_of_find?_eq_some hfind),
            by simpa using List.find?_some hfind⟩
  | succ tries ih =>
      rw [drawFresh_succ]
      split
      · exact ih _
      · next hfresh => exact ⟨draw_lt _ _ _ stream (by omega), hfresh⟩

theorem rejectFrom_succ (length steps : Nat) (chosen : List Nat) (stream : WordStream) :
    rejectFrom size length (steps + 1) chosen stream =
      rejectFrom size length steps ((drawFresh size length chosen period stream).1 :: chosen)
        (drawFresh size length chosen period stream).2 := by
  rw [rejectFrom]

theorem rejectFrom_isChoice (steps : Nat) {length amount : Nat} {chosen : List Nat}
    (stream : WordStream) (h : IsChoice length amount chosen) (hle : amount + steps ≤ length) :
    IsChoice length (amount + steps) (rejectFrom size length steps chosen stream).1 := by
  induction steps generalizing amount chosen stream with
  | zero => exact h
  | succ steps ih =>
      -- A step remains, so not all indices are chosen yet.
      obtain ⟨hlt, hfresh⟩ := drawFresh_spec size period stream h (by omega)
      have hstep := ih (drawFresh size length chosen period stream).2 (h.cons hlt hfresh)
        (by omega)
      rw [rejectFrom_succ, ← Nat.succ_add_eq_add_succ amount]
      exact hstep

theorem chooseByRejection_isChoice {length amount : Nat} (stream : WordStream)
    (h : amount ≤ length) :
    IsChoice length amount (chooseByRejection size length amount stream).1 := by
  have hreject := rejectFrom_isChoice size amount stream (IsChoice.nil length)
    (by rwa [Nat.zero_add])
  rwa [Nat.zero_add] at hreject

end Rejection

/-! ### The choice -/

/-- **A chooser chooses**: `amount` different indices below `length`, whatever the
state. -/
def Chooses {σ : Type} (choose : Chooser σ) : Prop :=
  ∀ (length amount : Nat) (state : σ), amount ≤ length →
    IsChoice length amount (choose length amount state).1

/-- **The choice of indices is one**, whichever way it takes. -/
theorem chooses_chooseIndices : Chooses chooseIndices := by
  intro length amount stream h
  unfold chooseIndices
  split
  · exact chooseByRejection_isChoice .double stream h
  · split
    · exact chooseByShuffle_isChoice stream h
    · split
      · exact chooseBySweep_isChoice stream h
      · exact chooseByRejection_isChoice .single stream h

end SyntaxPaths.Randomness
