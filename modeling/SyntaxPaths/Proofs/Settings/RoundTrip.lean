import SyntaxPaths.Proofs.Toml.Lines
import SyntaxPaths.Settings.Format

/-!
# Settings survive their text

Settings that have a text can be read back from it, and nothing is lost
(`survivesToml_of_validate`).  Writing and reading meet in the items that stand in the table of
settings (`Settings.item?`).

* **Writing.**  The line of an item is read as an entry for it, so the text is read as a table
  with the items of all settings that are set (`parse?_toToml`).
* **Reading.**  Each setting is made of its item again (`Settings.ofItems?_item?`), and a
  setting without an item is left open.

The one thing that can prevent this is a number that needs more than 63 bits: then there is
no text.
-/

namespace SyntaxPaths

open Text Toml

/-! ### Items of settings -/

/-- The item of a natural number. -/
def naturalItem (n : Nat) : Item :=
  .integer (.ofNat n)

/-- The item of a setting, if that is set. -/
def Settings.item? (settings : Settings) : Field → Option Item
  | .treeStyle => settings.treeStyle.map fun style => .string style.name
  | .pathStyle => settings.pathStyle.map fun style => .string style.name
  | .rootPathQuota => settings.rootPathQuota.map naturalItem
  | .leafPathQuota => settings.leafPathQuota.map naturalItem
  | .pathWidth => settings.pathWidth.map naturalItem
  | .pathLength => settings.pathLength.map naturalItem
  | .depthLimit => settings.depthLimit.map naturalItem
  | .seed => settings.seed.map fun seed => naturalItem seed.toNat

/-- How an item is written, if it can be. -/
def itemText? : Item → Option (List Char)
  | .string name => some (quotationMark :: name.toList ++ [quotationMark])
  | .integer (.ofNat n) => if n < writtenBound then some (digits n) else none
  | _ => none

/-- The line of a setting with the given item. -/
def itemLine? (field : Field) (item : Item) : Option String :=
  (itemText? item).map fun text => entryLine field (String.ofList text)

/-- The line of a setting, which is empty if there is no item. -/
def fieldLine? (item? : Field → Option Item) (field : Field) : Option String :=
  optionalLine? (itemLine? field) (item? field)

theorem optionalLine?_congr {α β : Type} {line? : α → Option String} {line?' : β → Option String}
    {f : α → β} (h : ∀ value, line? value = line?' (f value)) (setting : Option α) :
    optionalLine? line? setting = optionalLine? line?' (setting.map f) := by
  cases setting with
  | none => rfl
  | some value => exact h value

theorem nameLine_eq (field : Field) (name : String) :
    some (nameLine field name) = itemLine? field (.string name) := by
  have hquoted : "\"" ++ name ++ "\"" =
      String.ofList (quotationMark :: name.toList ++ [quotationMark]) := by
    apply String.toList_inj.mp
    simp [quotationMark]
  rw [nameLine, hquoted]
  rfl

theorem numberLine?_eq (field : Field) (n : Nat) :
    numberLine? field n = itemLine? field (naturalItem n) := by
  rw [numberLine?, itemLine?, naturalItem, itemText?]
  split
  · rfl
  · rfl

/-- **The lines of settings** are those of their items. -/
theorem Settings.lines?_eq (settings : Settings) :
    settings.lines? = (Field.all.map (fieldLine? settings.item?)).mapM id := by
  rw [lines?, optionalLine?_congr fun style => nameLine_eq .treeStyle (TreeStyle.name style),
    optionalLine?_congr fun style => nameLine_eq .pathStyle (PathStyle.name style),
    optionalLine?_congr (numberLine?_eq .rootPathQuota),
    optionalLine?_congr (numberLine?_eq .leafPathQuota),
    optionalLine?_congr (numberLine?_eq .pathWidth),
    optionalLine?_congr (numberLine?_eq .pathLength),
    optionalLine?_congr (numberLine?_eq .depthLimit),
    optionalLine?_congr fun seed => numberLine?_eq .seed (UInt64.toNat seed)]
  rfl

/-! ### Writing -/

/-- The items of settings can be read. -/
def AreReadable (item? : Field → Option Item) : Prop :=
  ∀ field item text, item? field = some item → itemText? item = some text → ReadsAs text item

theorem readsAs_string {name : String} {text : List Char} (hplain : IsPlainText name.toList)
    (h : itemText? (.string name) = some text) : ReadsAs text (.string name) := by
  obtain rfl := Option.some.inj h
  have hreads := readsAs_quoted hplain
  rwa [String.ofList_toList] at hreads

theorem readsAs_naturalItem {n : Nat} {text : List Char}
    (h : itemText? (naturalItem n) = some text) :
    ReadsAs text (naturalItem n) := by
  rw [naturalItem, itemText?] at h
  split at h
  · next hbound =>
      obtain rfl := Option.some.inj h
      exact readsAs_digits hbound
  · cases h

theorem TreeStyle.isPlainText_name (style : TreeStyle) : IsPlainText style.name.toList := by
  cases style <;> decide

theorem PathStyle.isPlainText_name (style : PathStyle) : IsPlainText style.name.toList := by
  cases style <;> decide

theorem Settings.areReadable_item? (settings : Settings) : AreReadable settings.item? := by
  intro field item text hitem htext
  cases field with
  | treeStyle =>
      obtain ⟨style, -, rfl⟩ := Option.map_eq_some_iff.mp hitem
      exact readsAs_string style.isPlainText_name htext
  | pathStyle =>
      obtain ⟨style, -, rfl⟩ := Option.map_eq_some_iff.mp hitem
      exact readsAs_string style.isPlainText_name htext
  | rootPathQuota | leafPathQuota | pathWidth | pathLength | depthLimit | seed =>
      obtain ⟨_, -, rfl⟩ := Option.map_eq_some_iff.mp hitem
      exact readsAs_naturalItem htext

namespace Field

theorem isBareName_key (field : Field) : IsBareName field.key.toList := by
  cases field <;> decide

theorem key_inj {field field' : Field} (h : field.key = field'.key) : field = field' := by
  revert h
  cases field <;> cases field' <;> decide

theorem mem_all (field : Field) : field ∈ all := by
  cases field <;> decide

end Field

/-- The entries of the given settings, as far as they are set. -/
def writtenEntries (item? : Field → Option Item) (fields : List Field) : Entries :=
  fields.filterMap fun field => (item? field).map (field.key, ·)

section WrittenEntries

variable {item? : Field → Option Item} {field : Field}

theorem writtenEntries_cons_of_none (h : item? field = none) (fields : List Field) :
    writtenEntries item? (field :: fields) = writtenEntries item? fields := by
  rw [writtenEntries, List.filterMap_cons_none (by rw [h]; rfl), writtenEntries]

theorem writtenEntries_cons_of_some {item : Item} (h : item? field = some item)
    (fields : List Field) :
    writtenEntries item? (field :: fields) = (field.key, item) :: writtenEntries item? fields := by
  rw [writtenEntries, List.filterMap_cons_some (by rw [h]; rfl), writtenEntries]

end WrittenEntries

theorem toList_entryLine (field : Field) (text : List Char) :
    (entryLine field (String.ofList text)).toList = entryChars field.key.toList text := by
  simp [entryLine, entryChars]

/-- The line of an item adds an entry for it to the open table. -/
theorem statements_itemLine {field : Field} {item : Item} {line : String}
    (hreads : ∀ text, itemText? item = some text → ReadsAs text item)
    (h : itemLine? field item = some line) {entries : Entries}
    (hnew : find? field.key entries = none) (fuel : Nat) (rest : List Char) :
    statements (fuel + 1) (tableState settingsTable entries) (line.toList ++ rest) =
      statements fuel (tableState settingsTable (append field.key item entries)) rest := by
  obtain ⟨text, htext, rfl⟩ := Option.map_eq_some_iff.mp h
  have hname : find? (String.ofList field.key.toList) entries = none := by
    rwa [String.ofList_toList]
  rw [toList_entryLine, statements_entry field.isBareName_key (hreads text htext) hname,
    String.ofList_toList]

section Lines

variable {item? : Field → Option Item} (hreadable : AreReadable item?) {lines : List String}
include hreadable

/-- **The lines of settings** add the entries of all that are set to the open table. -/
theorem statements_lines {fields : List Field}
    (h : (fields.map (fieldLine? item?)).mapM id = some lines) (hnodup : fields.Nodup)
    {entries : Entries} (hnew : ∀ field ∈ fields, find? field.key entries = none) {fuel : Nat}
    (hfuel : fields.length < fuel) :
    statements fuel (tableState settingsTable entries) (String.join lines).toList =
      some (tableState settingsTable (entries ++ writtenEntries item? fields)) := by
  induction fields generalizing lines entries fuel with
  | nil =>
      obtain rfl := Option.some.inj h
      obtain ⟨fuel, rfl⟩ := Nat.exists_eq_add_one_of_ne_zero (Nat.ne_zero_of_lt hfuel)
      rw [writtenEntries, List.filterMap_nil, List.append_nil]
      exact statements_nil fuel _
  | cons field fields ih =>
      obtain ⟨hfield, hnodup⟩ := List.nodup_cons.mp hnodup
      obtain ⟨hnewField, hnew⟩ := List.forall_mem_cons.mp hnew
      rw [List.map_cons, List.mapM_cons, Option.bind_eq_bind, Option.bind_eq_some_iff] at h
      obtain ⟨line, hline, h⟩ := h
      rw [Option.bind_eq_bind, Option.bind_eq_some_iff] at h
      obtain ⟨lines, hlines, h⟩ := h
      obtain rfl := Option.some.inj h
      rw [String.join_cons, String.toList_append]
      cases hitem : item? field with
      | none =>
          rw [id, fieldLine?, hitem] at hline
          obtain rfl := Option.some.inj hline
          rw [writtenEntries_cons_of_none hitem]
          exact ih hlines hnodup hnew (Nat.lt_of_succ_lt hfuel)
      | some item =>
          rw [id, fieldLine?, hitem] at hline
          have hstill : ∀ next ∈ fields, find? next.key (append field.key item entries) = none := by
            intro next hnext
            have hne : field.key ≠ next.key := fun hkey => hfield (Field.key_inj hkey ▸ hnext)
            rw [find?_append_of_ne hne, hnew next hnext]
          obtain ⟨fuel, rfl⟩ := Nat.exists_eq_add_one_of_ne_zero (Nat.ne_zero_of_lt hfuel)
          have hreads (text : List Char) : itemText? item = some text → ReadsAs text item :=
            hreadable field item text hitem
          rw [statements_itemLine hreads hline hnewField,
            ih hlines hnodup hstill (Nat.lt_of_succ_lt_succ hfuel),
            writtenEntries_cons_of_some hitem, append, List.append_assoc, List.singleton_append]

/-- The header and the lines of all settings make a table of their entries. -/
theorem statements_settings (h : (Field.all.map (fieldLine? item?)).mapM id = some lines)
    {fuel : Nat} (hfuel : Field.all.length < fuel) :
    statements (fuel + 1) { entries := [], path := [] }
        ('[' :: (settingsTable.toList ++ ']' :: '\n' :: (String.join lines).toList)) =
      some (tableState settingsTable (writtenEntries item? Field.all)) := by
  rw [statements_header (by decide), String.ofList_toList]
  exact statements_lines hreadable h (by decide) (fun _ _ => rfl) hfuel

end Lines

/-- **The text of settings** is a document with a single table, which has the entries of all
settings that are set. -/
theorem parse?_toToml {settings : Settings} {text : String} (h : settings.toToml = .ok text) :
    Toml.parse? text =
      some (tableState settingsTable (writtenEntries settings.item? Field.all)).entries := by
  rw [Settings.toToml] at h
  split at h
  · next lines hlines =>
      obtain rfl := Except.ok.inj h
      rw [Settings.lines?_eq] at hlines
      have htext : ("[" ++ settingsTable ++ "]\n" ++ String.join lines).toList =
          '[' :: (settingsTable.toList ++ ']' :: '\n' :: (String.join lines).toList) := by
        simp
      have hlength : Field.all.length <
          (settingsTable.toList ++ ']' :: '\n' :: (String.join lines).toList).length + 1 := by
        have htable : settingsTable.toList.length = 10 := by decide
        have hfields : Field.all.length = 8 := by decide
        rw [List.length_append, htable, hfields]
        omega
      rw [Toml.parse?, htext]
      exact congrArg (Option.map State.entries)
        (statements_settings settings.areReadable_item? hlines hlength)
  · cases h

/-! ### Reading -/

theorem find?_writtenEntries (item? : Field → Option Item) (field : Field) (fields : List Field) :
    find? field.key (writtenEntries item? fields) =
      if field ∈ fields then item? field else none := by
  induction fields with
  | nil => rfl
  | cons first fields ih =>
      cases hitem : item? first with
      | none =>
          rw [writtenEntries_cons_of_none hitem, ih]
          by_cases heq : field = first
          · subst heq
            rw [if_pos List.mem_cons_self, hitem]
            split
            · rfl
            · rfl
          · simp [heq]
      | some item =>
          rw [writtenEntries_cons_of_some hitem, find?_cons, ih]
          by_cases heq : field = first
          · subst heq
            rw [if_pos rfl, if_pos List.mem_cons_self, hitem]
          · have hkey : first.key ≠ field.key := fun hkey => heq (Field.key_inj hkey).symm
            simp [heq, hkey]

theorem readOptional_map {α β : Type} {read : Item → Option β} {f : α → Item} {g : α → β}
    (h : ∀ value, read (f value) = some (g value)) (setting : Option α) :
    readOptional read (setting.map f) = some (setting.map g) := by
  cases setting with
  | none => rfl
  | some value => exact congrArg (Option.map some) (h value)

theorem naturalOfItem?_naturalItem (n : Nat) : naturalOfItem? (naturalItem n) = some n := rfl

/-- **Settings are made of their items** again. -/
theorem Settings.ofItems?_item? (settings : Settings) :
    Settings.ofItems? settings.item? = some settings := by
  have hnatural (setting : Option Nat) :
      readOptional naturalOfItem? (setting.map naturalItem) = some setting := by
    rw [readOptional_map naturalOfItem?_naturalItem, Option.map_id']
  have htree : readOptional (fun i => (nameOfItem? i).bind TreeStyle.ofName?)
      (settings.item? .treeStyle) = some settings.treeStyle := by
    rw [item?, readOptional_map (g := id) TreeStyle.ofName?_name, Option.map_id]
    rfl
  have hpath : readOptional (fun i => (nameOfItem? i).bind PathStyle.ofName?)
      (settings.item? .pathStyle) = some settings.pathStyle := by
    rw [item?, readOptional_map (g := id) PathStyle.ofName?_name, Option.map_id]
    rfl
  have hseed : readOptional naturalOfItem? (settings.item? .seed) =
      some (settings.seed.map UInt64.toNat) :=
    readOptional_map (g := UInt64.toNat) (fun seed => naturalOfItem?_naturalItem seed.toNat) _
  have hback : (settings.seed.map UInt64.toNat).map UInt64.ofNat = settings.seed := by
    cases settings.seed with
    | none => rfl
    | some seed => exact congrArg some (UInt64.ofNat_toNat)
  rw [ofItems?, htree, hpath, item?, hnatural, item?, hnatural, item?, hnatural, item?, hnatural,
    item?, hnatural, hseed]
  simp only [Option.bind_eq_bind, Option.bind_some, hback]
  rfl

/-- The settings in a text that was written for them. -/
theorem ofToml?_toToml {settings : Settings} {text : String} (h : settings.toToml = .ok text) :
    Settings.ofToml? text = some settings := by
  have hitems : (fun field => find? field.key (writtenEntries settings.item? Field.all)) =
      settings.item? := by
    funext field
    rw [find?_writtenEntries, if_pos field.mem_all]
  rw [Settings.ofToml?, parse?_toToml h, Option.bind_some, Settings.ofEntries?, tableState,
    find?_cons, if_pos rfl]
  simp only [Settings.ofItem?, hitems, Settings.ofItems?_item?]

/-! ### Numbers that have a text -/

/-- The numbers among the settings, as far as they are set. -/
def Settings.numbers (settings : Settings) : List Nat :=
  [settings.rootPathQuota, settings.leafPathQuota, settings.pathWidth, settings.pathLength,
    settings.depthLimit, settings.seed.map UInt64.toNat].filterMap id

/-- The greatest integer of 64 bits, one of which is the sign. -/
def greatestInteger : Nat := 0x7FFFFFFFFFFFFFFF

theorem exists_mapM_id_iff {α : Type} {options : List (Option α)} :
    (∃ items, options.mapM id = some items) ↔ ∀ option ∈ options, ∃ item, option = some item := by
  induction options with
  | nil => simp
  | cons option options ih =>
      rw [List.forall_mem_cons, ← ih, List.mapM_cons, id]
      cases option with
      | none => simp
      | some item => cases options.mapM id <;> simp

theorem exists_numberLine?_iff (field : Field) (setting : Option Nat) :
    (∃ line, optionalLine? (numberLine? field) setting = some line) ↔
      ∀ n ∈ setting, n ≤ greatestInteger := by
  cases setting with
  | none => simp [optionalLine?]
  | some n =>
      have hbound : n < writtenBound ↔ n ≤ greatestInteger := Nat.lt_iff_le_pred (by decide)
      by_cases hn : n < writtenBound
      · simp [optionalLine?, numberLine?, hn, hbound.mp hn]
      · simp [optionalLine?, numberLine?, hn, mt hbound.mpr hn]

/-- **Settings have a text** exactly if no number among them is too large. -/
theorem Settings.exists_lines?_iff (settings : Settings) :
    (∃ lines, settings.lines? = some lines) ↔ ∀ n ∈ settings.numbers, n ≤ greatestInteger := by
  have hstyle {α : Type} (line : α → String) (setting : Option α) :
      ∃ item, optionalLine? (fun style => some (line style)) setting = some item := by
    cases setting with
    | none => exact ⟨"", rfl⟩
    | some style => exact ⟨line style, rfl⟩
  have hseed : optionalLine? (fun seed => numberLine? .seed (UInt64.toNat seed)) settings.seed =
      optionalLine? (numberLine? .seed) (settings.seed.map UInt64.toNat) :=
    optionalLine?_congr (f := UInt64.toNat) (fun _ => rfl) _
  have hnumbers : (∀ n ∈ settings.numbers, n ≤ greatestInteger) ↔
      ∀ setting ∈ [settings.rootPathQuota, settings.leafPathQuota, settings.pathWidth,
        settings.pathLength, settings.depthLimit, settings.seed.map UInt64.toNat],
        ∀ n ∈ setting, n ≤ greatestInteger := by
    rw [numbers]
    simp only [List.mem_filterMap, id]
    constructor
    · intro h setting hsetting n hn
      exact h n ⟨setting, hsetting, hn⟩
    · rintro h n ⟨setting, hsetting, hn⟩
      exact h setting hsetting n hn
  rw [lines?, exists_mapM_id_iff, hnumbers, hseed]
  simp only [List.forall_mem_cons, exists_numberLine?_iff, hstyle, true_and, List.not_mem_nil,
    false_imp_iff, implies_true]

/-! ### Round trips -/

/-- **Settings survive their text.** -/
structure SurvivesToml (settings : Settings) : Prop where
  /-- There is a text exactly if no number needs more than 63 bits. -/
  exists_text_iff :
    (∃ text, settings.toToml = .ok text) ↔ ∀ n ∈ settings.numbers, n ≤ greatestInteger
  /-- The same settings are read back from it, and those that are left open stay so. -/
  fromToml_eq {text : String} : settings.toToml = .ok text →
    Settings.fromToml text = .ok settings
  /-- If there is none, the fault is found in writing. -/
  exists_toToml_eq_error : (∃ n ∈ settings.numbers, greatestInteger < n) →
    ∃ message, settings.toToml = .error (.malformed "<serialization>" message)

/-- **All acceptable settings** survive their text. -/
theorem survivesToml_of_validate {settings : Settings} (h : settings.validate = .ok ()) :
    SurvivesToml settings where
  exists_text_iff := by
    rw [← settings.exists_lines?_iff, Settings.toToml]
    cases settings.lines? with
    | none => simp
    | some lines => simp
  fromToml_eq := by
    intro text htext
    have hread : Settings.readToml textPath text = .ok settings := by
      rw [Settings.readToml, ofToml?_toToml htext]
    rw [Settings.fromToml, hread]
    exact congrArg (Except.map fun _ => settings) h
  exists_toToml_eq_error := by
    rintro ⟨n, hn, hlarge⟩
    have hnone : settings.lines? = none := by
      rw [Option.eq_none_iff_forall_ne_some]
      intro lines hlines
      have hle := settings.exists_lines?_iff.mp ⟨lines, hlines⟩ n hn
      exact Nat.not_lt.mpr hle hlarge
    rw [Settings.toToml, hnone]
    exact ⟨_, rfl⟩

/-- Renamed styles, and the largest seed that has a text. -/
theorem survivesToml_largestSeed :
    let settings :=
      { Settings.unset with
        treeStyle := some .hst, pathStyle := some .labelsAndMoves, pathLength := some 3,
        seed := some 0x7FFFFFFFFFFFFFFF }
    settings.validate = .ok () ∧
      settings.toToml = .ok
        ("[extraction]\ntree_style = \"HST\"\npath_style = \"U2D\"\n" ++
          "path_length_threshold = 3\nseed = 9223372036854775807\n") ∧
      SurvivesToml settings := by
  intro settings
  have hvalid : settings.validate = .ok () := rfl
  have htext : settings.toToml = .ok
      ("[extraction]\ntree_style = \"HST\"\npath_style = \"U2D\"\n" ++
        "path_length_threshold = 3\nseed = 9223372036854775807\n") :=
    congrArg Except.ok (by decide +kernel)
  exact ⟨hvalid, htext, survivesToml_of_validate hvalid⟩

end SyntaxPaths
