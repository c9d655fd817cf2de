import SyntaxPaths.Proofs.Text.Pieces
import SyntaxPaths.Rendering.Tokens

/-!
# Tokens on both sides of a divider

What a text is split into can be said without a word about how it is cut (`SplitsInto`): tokens
are not empty and hold no divider, behind each of them comes a divider or the end, and together
with the dividers they are the text.  Every text is split in exactly one way, into its tokens
(`splitsInto_iff`).

No token reaches over a divider, so the tokens of a rendered tree are those of its parts.
-/

namespace SyntaxPaths.Rendering

open Text

/-! ### Splits -/

/-- A bracket, or a separator of sub-tokens. -/
def IsDivider (c : Char) : Prop :=
  c = '(' ∨ c = '|' ∨ c = ')'

/-- A text that is a token as it stands. -/
def IsToken (s : String) : Prop :=
  s ≠ "" ∧ '(' ∉ s.toList ∧ '|' ∉ s.toList ∧ ')' ∉ s.toList

/-- **What a text is split into**: no token is empty or holds a divider, and there is a divider
between any two of them. -/
inductive SplitsInto : String → List String → Prop
  /-- There is nothing to split. -/
  | nil : SplitsInto "" []
  /-- A divider in front of the rest is left out. -/
  | divider {d : Char} {text : String} {tokens : List String} :
      IsDivider d → SplitsInto text tokens → SplitsInto (String.singleton d ++ text) tokens
  /-- The rest is a token. -/
  | last {token : String} : IsToken token → SplitsInto token [token]
  /-- A token in front of the rest ends at a divider. -/
  | token {token : String} {d : Char} {text : String} {tokens : List String} :
      IsToken token → IsDivider d → SplitsInto text tokens →
        SplitsInto (token ++ String.singleton d ++ text) (token :: tokens)

theorem isTokenDivider_iff {c : Char} : isTokenDivider c = true ↔ IsDivider c := by
  simp [isTokenDivider, IsDivider, separator, or_assoc]

namespace IsToken

theorem append {s s' : String} (h : IsToken s) (h' : IsToken s') : IsToken (s ++ s') := by
  obtain ⟨hne, hopening, hseparator, hclosing⟩ := h
  obtain ⟨-, hopening', hseparator', hclosing'⟩ := h'
  refine ⟨?_, ?_, ?_, ?_⟩
  · simp [hne]
  all_goals
    rw [String.toList_append, List.mem_append, not_or]
  · exact ⟨hopening, hopening'⟩
  · exact ⟨hseparator, hseparator'⟩
  · exact ⟨hclosing, hclosing'⟩

theorem singleton {c : Char} (h : ¬ IsDivider c) : IsToken (String.singleton c) := by
  simp only [IsDivider, not_or] at h
  obtain ⟨hopening, hseparator, hclosing⟩ := h
  simp [IsToken, Ne.symm hopening, Ne.symm hseparator, Ne.symm hclosing]

theorem tokens_eq {s : String} (h : IsToken s) : tokens s = [s] := by
  obtain ⟨hne, hopening, hseparator, hclosing⟩ := h
  have hwhole : ∀ c ∈ s.toList, isTokenDivider c = false := by
    intro c hc
    rw [Bool.eq_false_iff, ne_eq, isTokenDivider_iff]
    rintro (rfl | rfl | rfl)
    · exact hopening hc
    · exact hseparator hc
    · exact hclosing hc
  have hnil : s.toList ≠ [] := fun hnil => hne (String.toList_eq_nil_iff.mp hnil)
  rw [tokens, tokenChars, cut_eq_splitOnP, List.splitOnP_eq_singleton hwhole]
  simp [hnil]

end IsToken

/-! ### Dividers -/

@[simp] theorem tokenChars_nil : tokenChars [] = [] := rfl

/-- **No token reaches over a divider.** -/
theorem tokenChars_append_cons {d : Char} (h : isTokenDivider d = true)
    (front back : List Char) :
    tokenChars (front ++ d :: back) = tokenChars front ++ tokenChars back := by
  rw [tokenChars, cut_append_cons h, List.filter_append, tokenChars, tokenChars]

theorem tokenChars_cons {d : Char} (h : isTokenDivider d = true) (back : List Char) :
    tokenChars (d :: back) = tokenChars back :=
  tokenChars_append_cons h [] back

theorem tokens_append_divider {d : Char} (h : IsDivider d) (front back : String) :
    tokens (front ++ String.singleton d ++ back) = tokens front ++ tokens back := by
  have hchars : (front ++ String.singleton d ++ back).toList =
      front.toList ++ d :: back.toList := by
    simp
  rw [tokens, hchars, tokenChars_append_cons (isTokenDivider_iff.mpr h), List.map_append]
  rfl

/-- The tokens of a node that is written in brackets, with its own value in brackets
between two renderings. -/
theorem tokens_bracketed (left value right : String) :
    tokens ("(" ++ left ++ "(" ++ value ++ ")" ++ right ++ ")") =
      tokens left ++ tokens value ++ tokens right := by
  have hchars : ("(" ++ left ++ "(" ++ value ++ ")" ++ right ++ ")").toList =
      '(' :: (left.toList ++ '(' :: (value.toList ++ ')' :: (right.toList ++ ')' :: []))) := by
    simp
  rw [tokens, hchars, tokenChars_cons rfl, tokenChars_append_cons rfl, tokenChars_append_cons rfl,
    tokenChars_append_cons rfl, tokenChars_nil, List.append_nil]
  simp [tokens]

/-- The tokens of a text in brackets, with a text before and a text behind. -/
theorem tokens_nested (before inner behind : String) :
    tokens (before ++ "(" ++ inner ++ ")" ++ behind) =
      tokens before ++ tokens inner ++ tokens behind := by
  have hchars : (before ++ "(" ++ inner ++ ")" ++ behind).toList =
      before.toList ++ '(' :: (inner.toList ++ ')' :: behind.toList) := by
    simp
  rw [tokens, hchars, tokenChars_append_cons rfl, tokenChars_append_cons rfl]
  simp [tokens]

/-! ### Every text is split into its tokens -/

namespace SplitsInto

/-- A text is split into nothing but its tokens. -/
theorem tokens_eq {text : String} {parts : List String} (h : SplitsInto text parts) :
    tokens text = parts := by
  induction h with
  | nil => rfl
  | @divider d text parts hd _ ih =>
      have hfront := tokens_append_divider hd "" text
      rwa [String.empty_append, ih] at hfront
  | last htoken => exact htoken.tokens_eq
  | token htoken hd _ ih =>
      rw [tokens_append_divider hd, htoken.tokens_eq, ih, List.singleton_append]

/-- A character in front of a text that is split: it is a divider, or goes to the first token,
or becomes one. -/
theorem exists_cons (c : Char) {text : String} {parts : List String} (h : SplitsInto text parts) :
    ∃ parts', SplitsInto (String.singleton c ++ text) parts' := by
  by_cases hc : IsDivider c
  · exact ⟨parts, .divider hc h⟩
  · have hchar := IsToken.singleton hc
    cases h with
    | nil =>
        rw [String.append_empty]
        exact ⟨_, .last hchar⟩
    | divider hd hrest =>
        rw [← String.append_assoc]
        exact ⟨_, .token hchar hd hrest⟩
    | last htoken => exact ⟨_, .last (hchar.append htoken)⟩
    | token htoken hd hrest =>
        rw [← String.append_assoc, ← String.append_assoc]
        exact ⟨_, .token (hchar.append htoken) hd hrest⟩

end SplitsInto

theorem exists_splitsInto (text : String) : ∃ parts, SplitsInto text parts := by
  rw [← String.ofList_toList (s := text)]
  induction text.toList with
  | nil => exact ⟨[], .nil⟩
  | cons c cs ih =>
      obtain ⟨parts, hparts⟩ := ih
      rw [String.ofList_cons]
      exact hparts.exists_cons c

theorem splitsInto_tokens (text : String) : SplitsInto text (tokens text) := by
  obtain ⟨parts, hparts⟩ := exists_splitsInto text
  rwa [hparts.tokens_eq]

/-- **A text is split in one way**, into its tokens. -/
theorem splitsInto_iff {text : String} {parts : List String} :
    SplitsInto text parts ↔ tokens text = parts := by
  constructor
  · exact SplitsInto.tokens_eq
  · rintro rfl
    exact splitsInto_tokens text

end SyntaxPaths.Rendering
