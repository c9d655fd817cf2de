import SyntaxPaths.Text.Slice

/-!
# Slices between character boundaries

A slice is what stands between two parts of a text, where the numbers of bytes say how long the
part in front is, and where the part behind begins (`slice_eq_some_iff`).

A byte offset is a boundary of a text if the text can be split there: it does not lie behind
the end, nor inside a character.  A slice exists exactly between two boundaries in their order
(`isSome_slice_iff`).

The boundaries of a string are its valid positions (`isBoundary_toList`), and its number of
bytes is the size of its UTF-8 form (`utf8ByteSize_eq_byteLength`).
-/

namespace SyntaxPaths.Text

/-! ### Numbers of bytes -/

theorem byteLength_append (front back : List Char) :
    byteLength (front ++ back) = byteLength front + byteLength back := by
  induction front with
  | nil => simp
  | cons c front ih => rw [List.cons_append, byteLength_cons, byteLength_cons, ih, Nat.add_assoc]

theorem byteLength_eq_zero_iff {cs : List Char} : byteLength cs = 0 ↔ cs = [] := by
  cases cs with
  | nil => simp
  | cons c cs =>
      have hpos := c.utf8Size_pos
      rw [byteLength_cons]
      constructor
      · intro h
        omega
      · intro h
        cases h

theorem utf8ByteSize_eq_byteLength (s : String) : s.utf8ByteSize = byteLength s.toList := by
  suffices hchars : ∀ cs : List Char, (String.ofList cs).utf8ByteSize = byteLength cs by
    rw [← hchars, String.ofList_toList]
  intro cs
  induction cs with
  | nil => rfl
  | cons c cs ih =>
      rw [String.ofList_cons, String.utf8ByteSize_append, String.utf8ByteSize_singleton, ih,
        byteLength_cons]

/-! ### Boundaries -/

/-- A text can be split behind its first `n` bytes. -/
def IsBoundary (cs : List Char) (n : Nat) : Prop :=
  ∃ front back, cs = front ++ back ∧ byteLength front = n

/-- The end of a text is a boundary. -/
theorem isBoundary_byteLength (cs : List Char) : IsBoundary cs (byteLength cs) :=
  ⟨cs, [], (List.append_nil cs).symm, rfl⟩

/-- **The boundaries of a string** are its valid positions. -/
theorem isBoundary_toList {s : String} {n : Nat} :
    IsBoundary s.toList n ↔ (⟨n⟩ : String.Pos.Raw).IsValid s := by
  rw [String.Pos.Raw.isValid_iff_exists_append]
  constructor
  · rintro ⟨front, back, hs, hn⟩
    refine ⟨String.ofList front, String.ofList back, ?_, ?_⟩
    · rw [← String.ofList_append, ← hs, String.ofList_toList]
    · rw [String.Pos.Raw.ext_iff, String.byteIdx_rawEndPos, utf8ByteSize_eq_byteLength,
        String.toList_ofList, hn]
  · rintro ⟨front, back, rfl, hn⟩
    refine ⟨front.toList, back.toList, String.toList_append, ?_⟩
    rw [← utf8ByteSize_eq_byteLength, ← String.byteIdx_rawEndPos, ← hn]

/-! ### Both halves of a split -/

theorem dropBytes_cons {n : Nat} (hn : n ≠ 0) (c : Char) (cs : List Char) :
    dropBytes n (c :: cs) = if c.utf8Size ≤ n then dropBytes (n - c.utf8Size) cs else none := by
  cases n with
  | zero => exact absurd rfl hn
  | succ n => rfl

theorem takeBytes_cons {n : Nat} (hn : n ≠ 0) (c : Char) (cs : List Char) :
    takeBytes n (c :: cs) =
      if c.utf8Size ≤ n then (takeBytes (n - c.utf8Size) cs).map (c :: ·) else none := by
  cases n with
  | zero => exact absurd rfl hn
  | succ n => rfl

theorem dropBytes_byteLength_append (front back : List Char) :
    dropBytes (byteLength front) (front ++ back) = some back := by
  induction front with
  | nil => simp
  | cons c front ih =>
      have hpos := c.utf8Size_pos
      rw [List.cons_append, byteLength_cons, dropBytes_cons (by omega), if_pos (by omega),
        Nat.add_sub_cancel_left, ih]

theorem takeBytes_byteLength_append (front back : List Char) :
    takeBytes (byteLength front) (front ++ back) = some front := by
  induction front with
  | nil => simp
  | cons c front ih =>
      have hpos := c.utf8Size_pos
      rw [List.cons_append, byteLength_cons, takeBytes_cons (by omega), if_pos (by omega),
        Nat.add_sub_cancel_left, ih, Option.map_some]

theorem exists_append_of_dropBytes {n : Nat} {cs back : List Char}
    (h : dropBytes n cs = some back) : ∃ front, cs = front ++ back ∧ byteLength front = n := by
  fun_induction dropBytes n cs with
  | case1 cs =>
      cases h
      exact ⟨[], rfl, rfl⟩
  | case2 n => cases h
  | case3 n c cs hle ih =>
      obtain ⟨front, rfl, hlength⟩ := ih h
      exact ⟨c :: front, rfl, by rw [byteLength_cons, hlength]; omega⟩
  | case4 n c cs hle => cases h

theorem exists_append_of_takeBytes {n : Nat} {cs front : List Char}
    (h : takeBytes n cs = some front) : ∃ back, cs = front ++ back ∧ byteLength front = n := by
  fun_induction takeBytes n cs generalizing front with
  | case1 cs =>
      cases h
      exact ⟨cs, rfl, rfl⟩
  | case2 n => cases h
  | case3 n c cs hle ih =>
      obtain ⟨rest, hrest, rfl⟩ := Option.map_eq_some_iff.mp h
      obtain ⟨back, rfl, hlength⟩ := ih hrest
      exact ⟨back, rfl, by rw [byteLength_cons, hlength]; omega⟩
  | case4 n c cs hle => cases h

/-! ### Slices -/

/-- Of two splits of a text, the one with fewer bytes in front is the earlier one. -/
theorem exists_append_of_byteLength_le {front back front' back' : List Char}
    (h : front ++ back = front' ++ back') (hle : byteLength front ≤ byteLength front') :
    ∃ between, front' = front ++ between ∧ back = between ++ back' := by
  rcases List.append_eq_append_iff.mp h with hearlier | ⟨between, rfl, rfl⟩
  · exact hearlier
  · -- Nothing stands between the two, since every character takes a byte.
    rw [byteLength_append] at hle
    have hnil : between = [] := byteLength_eq_zero_iff.mp (by omega)
    subst hnil
    exact ⟨[], by simp, rfl⟩

/-- **A slice is a part of the text**, between one with as many bytes as its start says, and the
rest behind its stop. -/
theorem slice_eq_some_iff {start stop : Nat} {cs text : List Char} :
    slice start stop cs = some text ↔
      ∃ front back, cs = front ++ text ++ back ∧ byteLength front = start ∧
        byteLength (front ++ text) = stop := by
  unfold slice
  constructor
  · intro h
    split at h
    · cases h
    · next hle =>
        obtain ⟨rest, hdrop, htake⟩ := Option.bind_eq_some_iff.mp h
        obtain ⟨front, rfl, hfront⟩ := exists_append_of_dropBytes hdrop
        obtain ⟨back, rfl, hlength⟩ := exists_append_of_takeBytes htake
        refine ⟨front, back, (List.append_assoc _ _ _).symm, hfront, ?_⟩
        rw [byteLength_append, hfront, hlength]
        omega
  · rintro ⟨front, back, rfl, rfl, rfl⟩
    rw [byteLength_append, if_neg (by omega), List.append_assoc, dropBytes_byteLength_append,
      Option.bind_some, Nat.add_sub_cancel_left, takeBytes_byteLength_append]

/-- **A slice exists exactly between two boundaries**, the first of them not behind the
second. -/
theorem isSome_slice_iff {start stop : Nat} {cs : List Char} :
    (slice start stop cs).isSome = true ↔
      start ≤ stop ∧ IsBoundary cs start ∧ IsBoundary cs stop := by
  rw [Option.isSome_iff_exists]
  simp only [slice_eq_some_iff]
  constructor
  · rintro ⟨text, front, back, rfl, rfl, rfl⟩
    refine ⟨?_, ⟨front, text ++ back, List.append_assoc _ _ _, rfl⟩, front ++ text, back, rfl, rfl⟩
    rw [byteLength_append]
    omega
  · rintro ⟨hle, ⟨front, rest, rfl, rfl⟩, front', back, hsplit, rfl⟩
    obtain ⟨text, rfl, rfl⟩ := exists_append_of_byteLength_le hsplit hle
    exact ⟨text, front, back, (List.append_assoc _ _ _).symm, rfl, rfl⟩

end SyntaxPaths.Text
