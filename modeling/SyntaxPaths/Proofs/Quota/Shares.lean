import SyntaxPaths.Proofs.Quota

/-!
# What each tier gives to a quota

The items that get a place are the shares of the tiers, one behind the other
(`flatten_shares`).  How large a share is follows from the sizes of the tiers: a tier gives as
much as it has and as there are places left for it (`exists_share`).  Which items it gives is
left to the chooser only where it has more than that.

* **Order.**  A tier gives something only if all tiers before it are kept whole
  (`take_shares_of_ne_nil`).
* **Frugality.**  As long as no tier is larger than the places that are left for it, nothing
  is drawn (`fillQuota_of_fits`).  A tier that comes when no place is left may be of any size,
  so this covers more than tiers that fit into the quota together.

All this holds of any chooser that keeps its promise, and of any items, as long as there is room
for a table of them (`exists_fillsInOrder`).  Without room no tier matters.
-/

namespace SyntaxPaths

open Randomness

variable {α σ : Type} {choose : Chooser σ}

/-- What each tier gives: a list per tier, empty where no place is left. -/
def shares (choose : Chooser σ) : (tiers : List (List α)) → (margin : Nat) → σ → List (List α)
  | [], _, _ => []
  | tier :: tiers, margin, state =>
    if margin = 0 then [] :: shares choose tiers 0 state
    else
      let (kept, state) := sampleUpTo choose tier margin state
      kept :: shares choose tiers (margin - kept.length) state

/-- The places that are left when it is the turn of tier number `i`. -/
def marginAt (margin : Nat) (parts : List (List α)) (i : Nat) : Nat :=
  margin - (parts.take i).flatten.length

@[simp] theorem marginAt_zero (margin : Nat) (parts : List (List α)) :
    marginAt margin parts 0 = margin := by
  simp [marginAt]

@[simp] theorem marginAt_cons_succ (margin : Nat) (part : List α) (parts : List (List α))
    (i : Nat) :
    marginAt margin (part :: parts) (i + 1) = marginAt (margin - part.length) parts i := by
  simp [marginAt, Nat.sub_sub]

theorem zero_marginAt (parts : List (List α)) (i : Nat) : marginAt 0 parts i = 0 :=
  Nat.zero_sub _

theorem shares_zero (choose : Chooser σ) (tiers : List (List α)) (state : σ) :
    shares choose tiers 0 state = tiers.map fun _ => [] := by
  induction tiers with
  | nil => rfl
  | cons tier tiers ih => rw [shares, if_pos rfl, ih, List.map_cons]

theorem shares_cons_of_pos (choose : Chooser σ) (tier : List α) (tiers : List (List α))
    {margin : Nat} (state : σ) (h : 0 < margin) :
    shares choose (tier :: tiers) margin state =
      (sampleUpTo choose tier margin state).1 ::
        shares choose tiers (margin - (sampleUpTo choose tier margin state).1.length)
          (sampleUpTo choose tier margin state).2 := by
  rw [shares, if_neg (by omega)]

theorem length_shares (choose : Chooser σ) (tiers : List (List α)) (margin : Nat) (state : σ) :
    (shares choose tiers margin state).length = tiers.length := by
  induction tiers generalizing margin state with
  | nil => rfl
  | cons tier tiers ih =>
      rcases Nat.eq_zero_or_pos margin with rfl | hpos
      · rw [shares_zero, List.length_map]
      · simp only [shares_cons_of_pos choose tier tiers state hpos, List.length_cons, ih]

/-- **The places are filled with the shares** of the tiers, one behind the other. -/
theorem flatten_shares (choose : Chooser σ) (tiers : List (List α)) (margin : Nat) (state : σ) :
    (shares choose tiers margin state).flatten = (fillQuota choose tiers margin state).1 := by
  induction tiers generalizing margin state with
  | nil => rfl
  | cons tier tiers ih =>
      rcases Nat.eq_zero_or_pos margin with rfl | hpos
      · simp [shares_zero]
      · simp only [shares_cons_of_pos choose tier tiers state hpos,
          fillQuota_cons_of_pos choose tier tiers state hpos, List.flatten_cons, ih]

/-- **A share** is a part of its tier, as large as the tier and the places that are left for
it allow. -/
theorem exists_share (hchoose : Chooses choose) {tiers : List (List α)} {i : Nat} {tier : List α}
    (margin : Nat) (state : σ) (h : tiers[i]? = some tier) :
    ∃ share, (shares choose tiers margin state)[i]? = some share ∧ share.Sublist tier ∧
      share.length = min tier.length (marginAt margin (shares choose tiers margin state) i) := by
  induction tiers generalizing margin state i with
  | nil => cases h
  | cons first tiers ih =>
      rcases Nat.eq_zero_or_pos margin with rfl | hpos
      · refine ⟨[], ?_, List.nil_sublist tier, ?_⟩
        · rw [shares_zero, List.getElem?_map, h, Option.map_some]
        · rw [zero_marginAt, Nat.min_zero, List.length_nil]
      · rw [shares_cons_of_pos choose first tiers state hpos]
        cases i with
        | zero =>
            obtain rfl := Option.some.inj h
            refine ⟨_, rfl, sampleUpTo_sublist choose first margin state, ?_⟩
            rw [marginAt_zero, length_sampleUpTo hchoose]
        | succ i =>
            obtain ⟨share, hshare, hsublist, hlength⟩ := ih
              (margin - (sampleUpTo choose first margin state).1.length)
              (sampleUpTo choose first margin state).2 h
            exact ⟨share, hshare, hsublist, by rw [marginAt_cons_succ, hlength]⟩

/-- **All places are filled** if there are enough items. -/
theorem length_fillQuota (hchoose : Chooses choose) (tiers : List (List α)) (margin : Nat)
    (state : σ) :
    (fillQuota choose tiers margin state).1.length = min margin tiers.flatten.length := by
  induction tiers generalizing margin state with
  | nil => simp
  | cons tier tiers ih =>
      rcases Nat.eq_zero_or_pos margin with rfl | hpos
      · simp
      · have hkept := length_sampleUpTo hchoose tier margin state
        simp only [fillQuota_cons_of_pos choose tier tiers state hpos, List.length_append, ih,
          List.flatten_cons]
        omega

/-- **A tier gives nothing before its turn**: if it gives something, all tiers before it are
kept whole. -/
theorem take_shares_of_ne_nil (hchoose : Chooses choose) {tiers : List (List α)} {i : Nat}
    {share : List α} {margin : Nat} {state : σ}
    (h : (shares choose tiers margin state)[i]? = some share) (hne : share ≠ []) :
    (shares choose tiers margin state).take i = tiers.take i := by
  induction tiers generalizing margin state i with
  | nil => cases h
  | cons tier tiers ih =>
      rcases Nat.eq_zero_or_pos margin with rfl | hpos
      · rw [shares_zero, List.getElem?_map] at h
        obtain ⟨-, -, rfl⟩ := Option.map_eq_some_iff.mp h
        exact absurd rfl hne
      · rw [shares_cons_of_pos choose tier tiers state hpos] at h ⊢
        cases i with
        | zero => rfl
        | succ i =>
            have hrest := ih h
            -- A place is left behind the first tier, so that tier is not cut.
            have hleft : (sampleUpTo choose tier margin state).1.length < margin := by
              refine Nat.lt_of_not_le fun hfull => ?_
              rw [List.getElem?_cons_succ, Nat.sub_eq_zero_of_le hfull, shares_zero,
                List.getElem?_map] at h
              obtain ⟨-, -, rfl⟩ := Option.map_eq_some_iff.mp h
              exact hne rfl
            have hlength := length_sampleUpTo hchoose tier margin state
            have hwhole : (sampleUpTo choose tier margin state).1 = tier :=
              (sampleUpTo_sublist choose tier margin state).eq_of_length (by omega)
            rw [List.take_succ_cons, List.take_succ_cons, hrest, hwhole]

/-- No tier is larger than the places that are left at its turn, if any are left. -/
def Fits (tiers : List (List α)) (margin : Nat) (parts : List (List α)) : Prop :=
  ∀ (i : Nat) (tier : List α), tiers[i]? = some tier → 0 < marginAt margin parts i →
    tier.length ≤ marginAt margin parts i

/-- **Where nothing is cut, nothing is drawn**, and from any other state the same is kept. -/
theorem fillQuota_of_fits {tiers : List (List α)} {margin : Nat} {state : σ}
    (h : Fits tiers margin (shares choose tiers margin state)) (state' : σ) :
    fillQuota choose tiers margin state' =
      ((shares choose tiers margin state).flatten, state') := by
  induction tiers generalizing margin state state' with
  | nil => rfl
  | cons tier tiers ih =>
      rcases Nat.eq_zero_or_pos margin with rfl | hpos
      · simp [shares_zero]
      · rw [shares_cons_of_pos choose tier tiers state hpos] at h ⊢
        have hfirst : tier.length ≤ margin := by
          have hturn := h 0 tier rfl
          rw [marginAt_zero] at hturn
          exact hturn hpos
        rw [sampleUpTo_of_length_le choose hfirst] at h ⊢
        have hrest : Fits tiers (margin - tier.length)
            (shares choose tiers (margin - tier.length) state) := by
          intro i next hnext
          have hturn := h (i + 1) next hnext
          rwa [marginAt_cons_succ] at hturn
        simp only [fillQuota_cons_of_pos choose tier tiers state' hpos,
          sampleUpTo_of_length_le choose hfirst, ih hrest, List.flatten_cons]

/-- A tier that is larger than the quota is no reason to draw when its turn never comes. -/
example (state : σ) : fillQuota choose [[1, 2], [3, 4, 5]] 2 state = ([1, 2], state) := by
  rfl

/-! ### All tiers -/

/-- **A quota is filled tier by tier**, where `parts` is what the tiers give, and `after` the
state behind it. -/
structure FillsInOrder (itemSize : Nat) (choose : Chooser σ) (tiers : List (List α)) (quota : Nat)
    (state : σ) (parts : List (List α)) (after : σ) : Prop where
  /-- The result consists of what the tiers give, in their order. -/
  result_eq : tryFillQuota itemSize choose tiers quota state = .ok (parts.flatten, after)
  /-- Every tier gives one part. -/
  length_eq : parts.length = tiers.length
  /-- A part has its items from its tier, in the same order, and none of them twice. -/
  part_sublist {i : Nat} {tier part : List α} : tiers[i]? = some tier → parts[i]? = some part →
    part.Sublist tier
  /-- It is the whole tier or fills the places that are left, whichever is less. -/
  length_part {i : Nat} {tier part : List α} : tiers[i]? = some tier → parts[i]? = some part →
    part.length = min tier.length (marginAt quota parts i)
  /-- As many places are filled as there are, or as there are items. -/
  length_flatten : parts.flatten.length = min quota tiers.flatten.length
  /-- A tier gives something only if all tiers before it are kept whole. -/
  take_eq {i : Nat} {part : List α} : parts[i]? = some part → part ≠ [] →
    parts.take i = tiers.take i
  /-- If no tier is cut, the state is left as it is, and does not matter. -/
  result_congr : Fits tiers quota parts → after = state ∧ ∀ state',
    tryFillQuota itemSize choose tiers quota state' = .ok (parts.flatten, state')
  /-- Every tier then gives all or nothing. -/
  eq_or_eq_nil {i : Nat} {tier part : List α} : Fits tiers quota parts →
    tiers[i]? = some tier → parts[i]? = some part → part = tier ∨ part = []

/-- **Every quota that there is room for is filled tier by tier**, whatever the tiers, their
number, the state and the chooser.  Without room none is filled. -/
theorem exists_fillsInOrder (hchoose : Chooses choose) (itemSize : Nat) (tiers : List (List α))
    (quota : Nat) (state : σ) :
    (HasRoom itemSize quota →
      ∃ parts after, FillsInOrder itemSize choose tiers quota state parts after) ∧
    (¬ HasRoom itemSize quota →
      tryFillQuota itemSize choose tiers quota state = .error .capacityOverflow) := by
  refine ⟨fun hroom => ?_, fun hroom => tryFillQuota_of_not_hasRoom choose hroom tiers state⟩
  have hspec {i : Nat} {tier part : List α} (htier : tiers[i]? = some tier)
      (hpart : (shares choose tiers quota state)[i]? = some part) :
      part.Sublist tier ∧
        part.length = min tier.length (marginAt quota (shares choose tiers quota state) i) := by
    obtain ⟨share, hshare, hsublist, hlength⟩ := exists_share hchoose quota state htier
    obtain rfl : share = part := Option.some.inj (hshare.symm.trans hpart)
    exact ⟨hsublist, hlength⟩
  refine ⟨shares choose tiers quota state, (fillQuota choose tiers quota state).2, ?_⟩
  exact
    { result_eq := by
        rw [tryFillQuota_of_hasRoom choose hroom, flatten_shares]
      length_eq := length_shares choose tiers quota state
      part_sublist := fun htier hpart => (hspec htier hpart).1
      length_part := fun htier hpart => (hspec htier hpart).2
      length_flatten := by
        rw [flatten_shares]
        exact length_fillQuota hchoose tiers quota state
      take_eq := take_shares_of_ne_nil hchoose
      result_congr := by
        intro hfits
        refine ⟨by rw [fillQuota_of_fits hfits state], fun state' => ?_⟩
        rw [tryFillQuota_of_hasRoom choose hroom, fillQuota_of_fits hfits state']
      eq_or_eq_nil := by
        intro i tier part hfits htier hpart
        obtain ⟨hsublist, hlength⟩ := hspec htier hpart
        rcases Nat.eq_zero_or_pos (marginAt quota (shares choose tiers quota state) i)
          with hzero | hpos
        · right
          rw [hzero, Nat.min_zero] at hlength
          exact List.length_eq_zero_iff.mp hlength
        · left
          rw [Nat.min_eq_left (hfits i tier htier hpos)] at hlength
          exact hsublist.eq_of_length hlength }

/-- Four places for three tiers: the second one is cut, and the third one gives nothing. -/
theorem fillsInOrder_threeTiers :
    HasRoom 8 4 ∧ ∃ parts after,
      FillsInOrder 8 chooseIndices [[1, 2], [3, 4, 5], [6]] 4 (.ofSeed 0) parts after := by
  have hroom : HasRoom 8 4 := by decide
  exact ⟨hroom, (exists_fillsInOrder chooses_chooseIndices 8 _ 4 _).1 hroom⟩

/-- A single item does not get one of 2⁶⁴ - 1 places: there is no table for them. -/
theorem tryFillQuota_everyPlace :
    Chooses chooseIndices ∧
      tryFillQuota 8 chooseIndices [[1]] (Nat.pow 2 64 - 1) (.ofSeed 0) =
        .error .capacityOverflow ∧
      (fillQuota chooseIndices [[1]] (Nat.pow 2 64 - 1) (.ofSeed 0)).1 = [1] := by
  refine ⟨chooses_chooseIndices, ?_, by decide +kernel⟩
  exact tryFillQuota_of_not_hasRoom _ (by decide) _ _

end SyntaxPaths
