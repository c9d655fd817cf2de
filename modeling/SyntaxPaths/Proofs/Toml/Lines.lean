import SyntaxPaths.Proofs.Toml.Scalar

/-!
# Lines of a table

A document that holds one table begins with the header of the table, and goes on with a line
for each entry.  Each of these lines is read as a whole (`statements_header`,
`statements_entry`), and what is left to read is the rest of the document.
-/

namespace SyntaxPaths.Toml

open Text

/-! ### Names -/

/-- A name that needs no quotation marks. -/
def IsBareName (name : List Char) : Prop :=
  name ≠ [] ∧ ∀ c ∈ name, isBareChar c = true

instance (name : List Char) : Decidable (IsBareName name) :=
  -- The characters of the name are tried, not all characters that there are.
  @instDecidableAnd _ _ inferInstance (List.decidableBAll _ name)

theorem not_isLineBlank_of_isBareChar {c : Char} (h : isBareChar c = true) :
    isLineBlank c = false := by
  have hspace : c ≠ ' ' := ne_of_class h (by decide)
  have htab : c ≠ '\t' := ne_of_class h (by decide)
  simp [isLineBlank, hspace, htab]

section Name

variable {name : List Char} (h : IsBareName name)
include h

theorem exists_eq_cons_of_isBareName : ∃ c cs, name = c :: cs ∧ isBareChar c = true := by
  obtain ⟨c, cs, rfl⟩ := List.exists_cons_of_ne_nil h.1
  exact ⟨c, cs, rfl, h.2 c List.mem_cons_self⟩

theorem skipBlanks_name (rest : List Char) : skipBlanks (name ++ rest) = name ++ rest := by
  obtain ⟨c, cs, rfl, hc⟩ := exists_eq_cons_of_isBareName h
  exact skipBlanks_cons (not_isLineBlank_of_isBareChar hc) _

/-- A bare name goes on up to the first character that is not bare. -/
theorem keyName_append {c : Char} (hc : isBareChar c = false) (rest : List Char) :
    keyName (name ++ c :: rest) = some (String.ofList name, c :: rest) := by
  have htake : (name ++ c :: rest).takeWhile isBareChar = name := by
    rw [List.takeWhile_append_of_pos h.2, List.takeWhile_cons_of_neg (Bool.eq_false_iff.mp hc),
      List.append_nil]
  have hdrop : (name ++ c :: rest).dropWhile isBareChar = c :: rest := by
    rw [List.dropWhile_append_of_pos h.2, List.dropWhile_cons_of_neg (Bool.eq_false_iff.mp hc)]
  obtain ⟨first, name, rfl, hfirst⟩ := exists_eq_cons_of_isBareName h
  have hquoted : ¬ ((decide (first = quotationMark) || decide (first = apostrophe)) = true) := by
    simp [ne_of_class hfirst (show isBareChar quotationMark = false by decide),
      ne_of_class hfirst (show isBareChar apostrophe = false by decide)]
  rw [List.cons_append] at htake hdrop ⊢
  rw [keyName, if_neg hquoted, htake, hdrop]
  rfl

/-- A bare name with no dot behind it is a key of its own. -/
theorem key_append {c next : Char} {rest rest' : List Char} (hc : isBareChar c = false)
    (hskip : skipBlanks (c :: rest) = next :: rest') (hdot : next ≠ '.') :
    key (name ++ c :: rest) = some (([], String.ofList name), next :: rest') := by
  have hnames (fuel : Nat) : keyNames (fuel + 1) (name ++ c :: rest) =
      some ([String.ofList name], next :: rest') := by
    rw [keyNames, skipBlanks_name h, keyName_append h hc, Option.bind_some]
    simp only [hskip]
    split
    · next heq => exact absurd (List.cons.inj heq).1 hdot
    · rfl
  rw [key, hnames, Option.bind_some]
  rfl

end Name

/-! ### The header -/

/-- The state in a document with a single table, which is open and has the given entries. -/
def tableState (table : String) (entries : Entries) : State where
  entries := [(table, .table .header entries)]
  path := [table]

/-- The first character of a statement ends no line. -/
theorem endOfLine_cons {c : Char} (hblank : isLineBlank c = false) (hcomment : c ≠ '#')
    (hfeed : c ≠ '\n') (hreturn : c ≠ '\r') (cs : List Char) : endOfLine (c :: cs) = none := by
  have hskip : skipComment (c :: cs) = c :: cs := by
    unfold skipComment
    split
    · next heq => exact absurd (List.cons.inj heq).1 hcomment
    · rfl
  rw [endOfLine, skipBlanks_cons hblank, hskip]
  simp only
  unfold skipLineEnd?
  split
  · next heq => exact absurd (List.cons.inj heq).1 hfeed
  · next heq => exact absurd (List.cons.inj heq).1 hreturn
  · rfl

/-- A line that begins with a statement is read by it. -/
theorem statements_cons {c : Char} (hblank : isLineBlank c = false) (hcomment : c ≠ '#')
    (hfeed : c ≠ '\n') (hreturn : c ≠ '\r') (fuel : Nat) (state : State) (cs : List Char) :
    statements (fuel + 1) state (c :: cs) =
      (statement state (c :: cs)).bind fun (state, cs) => statements fuel state cs := by
  rw [statements, skipBlanks_cons hblank]
  simp only [endOfLine_cons hblank hcomment hfeed hreturn]

theorem statements_nil (fuel : Nat) (state : State) :
    statements (fuel + 1) state [] = some state := rfl

theorem endOfLine_feed (rest : List Char) : endOfLine ('\n' :: rest) = some rest := rfl

/-- **The header of a document** opens its table. -/
theorem statements_header {name : List Char} (h : IsBareName name) (fuel : Nat)
    (rest : List Char) :
    statements (fuel + 1) { entries := [], path := [] } ('[' :: (name ++ ']' :: '\n' :: rest)) =
      statements fuel (tableState (String.ofList name) []) rest := by
  have hkey : key (name ++ ']' :: '\n' :: rest) =
      some (([], String.ofList name), ']' :: '\n' :: rest) :=
    key_append h (by decide) (skipBlanks_cons (by decide) _) (by decide)
  have hline : headerLine [']'] openTable { entries := [], path := [] }
      (name ++ ']' :: '\n' :: rest) = some (tableState (String.ofList name) [], rest) := by
    simp only [headerLine, hkey, Option.bind_eq_bind, Option.bind_some, expect_cons_cons,
      if_pos, expect_nil, endOfLine_feed]
    rfl
  have hstatement : statement { entries := [], path := [] } ('[' :: (name ++ ']' :: '\n' :: rest)) =
      some (tableState (String.ofList name) [], rest) := by
    obtain ⟨c, cs, rfl, hc⟩ := exists_eq_cons_of_isBareName h
    unfold statement
    split
    · next heq =>
        have hbracket := (List.cons.inj (List.cons.inj heq).2).1
        exact absurd hbracket (ne_of_class hc (by decide))
    · next heq => rw [← (List.cons.inj heq).2, hline]
    · next hnot => exact absurd rfl (hnot _)
  rw [statements_cons (by decide) (by decide) (by decide) (by decide), hstatement,
    Option.bind_some]

/-! ### Entries -/

theorem find?_append (name : String) (front back : Entries) :
    find? name (front ++ back) = (find? name front).or (find? name back) := by
  induction front with
  | nil => rfl
  | cons entry front ih =>
      rw [List.cons_append, find?_cons, find?_cons, ih]
      split
      · rfl
      · rfl

/-- An entry that is added hides no other name, and brings none. -/
theorem find?_append_of_ne {name name' : String} (h : name' ≠ name) (item : Item)
    (entries : Entries) : find? name (append name' item entries) = find? name entries := by
  rw [append, find?_append, find?_cons, if_neg h, find?_nil, Option.or_none]

/-- A name that is new in the open table is added to it. -/
theorem assignBelow_tableState {table name : String} {entries : Entries}
    (hnew : find? name entries = none) (item : Item) :
    assignBelow (tableState table entries).path [] name item (tableState table entries).entries =
      some (tableState table (append name item entries)).entries := by
  have hassign : assign [] name item entries = some (append name item entries) := by
    rw [assign_nil, hnew]
    rfl
  simp [assignBelow, tableState, descend, find?_cons, mayPass, hassign, replace]

section Entry

variable {name text : List Char} {item : Item}

/-- The characters of the line of an entry. -/
def entryChars (name text : List Char) : List Char :=
  name ++ ' ' :: '=' :: ' ' :: (text ++ ['\n'])

/-- **The line of an entry** adds it to the open table. -/
theorem statements_entry (hname : IsBareName name) (htext : ReadsAs text item) {table : String}
    {entries : Entries} (hnew : find? (String.ofList name) entries = none) (fuel : Nat)
    (rest : List Char) :
    statements (fuel + 1) (tableState table entries) (entryChars name text ++ rest) =
      statements fuel (tableState table (append (String.ofList name) item entries)) rest := by
  have hchars : entryChars name text ++ rest =
      name ++ ' ' :: '=' :: ' ' :: (text ++ '\n' :: rest) := by
    simp [entryChars]
  have hkey : key (name ++ ' ' :: '=' :: ' ' :: (text ++ '\n' :: rest)) =
      some (([], String.ofList name), '=' :: ' ' :: (text ++ '\n' :: rest)) :=
    key_append hname (by decide) rfl (by decide)
  have hassignment : assignment (value (nestingLimit - 1)) (entryChars name text ++ rest) =
      some (([], String.ofList name, item), '\n' :: rest) := by
    have hblank : skipBlanks (' ' :: (text ++ '\n' :: rest)) = text ++ '\n' :: rest :=
      htext.skipBlanks_eq rest
    simp only [assignment, hchars, hkey, Option.bind_eq_bind, Option.bind_some, expect_cons_cons,
      if_pos, expect_nil, hblank, htext.value_eq]
    rfl
  have hstatement : statement (tableState table entries) (entryChars name text ++ rest) =
      some (tableState table (append (String.ofList name) item entries), rest) := by
    have hline : assignmentLine (tableState table entries) (entryChars name text ++ rest) =
        some (tableState table (append (String.ofList name) item entries), rest) := by
      simp only [assignmentLine, hassignment, Option.bind_eq_bind, Option.bind_some,
        endOfLine_feed, assignBelow_tableState hnew]
      rfl
    obtain ⟨c, cs, rfl, hc⟩ := exists_eq_cons_of_isBareName hname
    have hbracket : c ≠ '[' := ne_of_class hc (by decide)
    rw [← hline]
    unfold statement
    split
    · next heq => exact absurd (List.cons.inj heq).1 hbracket
    · next heq => exact absurd (List.cons.inj heq).1 hbracket
    · rfl
  obtain ⟨c, cs, rfl, hc⟩ := exists_eq_cons_of_isBareName hname
  have hfirst := statements_cons (not_isLineBlank_of_isBareChar hc)
    (ne_of_class hc (by decide)) (ne_of_class hc (by decide))
    (ne_of_class hc (by decide)) fuel (tableState table entries)
  rw [entryChars, List.cons_append, List.cons_append] at hstatement ⊢
  rw [hfirst, hstatement, Option.bind_some]

end Entry

end SyntaxPaths.Toml
