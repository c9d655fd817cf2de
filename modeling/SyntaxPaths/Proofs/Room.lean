import SyntaxPaths.Corpus

/-!
# Room for samples

What runs makes a table for each quota before it fills it.  With room for the tables it finds
what `sampleLeafPaths` and its like say, and nothing else; without room it gives up, whatever the
tree is (`trySampleLeafPaths_eq`).  So the settings alone decide which of both happens.

Root paths take one table and leaf paths take two, as root paths are sampled first
(`Settings.HasRoomFor`).  A source text without a tree has no samples, and so it is never given up
for its tables (`tryCodeTokens_eq_error_iff`).  A corpus is, as soon as one of its documents has a
tree (`tryCorpusSummary_eq_error_iff`).
-/

namespace SyntaxPaths

open Randomness

namespace Settings

/-- There is room for a table of root paths. -/
def HasRootRoom (settings : Settings) : Prop :=
  SyntaxPaths.HasRoom RootPath.itemSize settings.rootPathQuotaOrDefault

/-- There is room for a table of leaf paths. -/
def HasLeafRoom (settings : Settings) : Prop :=
  SyntaxPaths.HasRoom LeafPath.itemSize settings.leafPathQuotaOrDefault

/-- There is room for both tables. -/
def HasRoom (settings : Settings) : Prop :=
  settings.HasRootRoom ∧ settings.HasLeafRoom

/-- There is room for the tables that paths of a family take. -/
def HasRoomFor (settings : Settings) : PathFamily → Prop
  | .root => settings.HasRootRoom
  | .leaf => settings.HasRoom

instance (settings : Settings) : Decidable settings.HasRootRoom :=
  inferInstanceAs (Decidable (SyntaxPaths.HasRoom _ _))

instance (settings : Settings) : Decidable settings.HasLeafRoom :=
  inferInstanceAs (Decidable (SyntaxPaths.HasRoom _ _))

instance (settings : Settings) : Decidable settings.HasRoom :=
  inferInstanceAs (Decidable (_ ∧ _))

instance (settings : Settings) (family : PathFamily) : Decidable (settings.HasRoomFor family) :=
  match family with
  | .root => inferInstanceAs (Decidable settings.HasRootRoom)
  | .leaf => inferInstanceAs (Decidable settings.HasRoom)

end Settings

/-! ### Samples -/

section Samples

variable (settings : Settings) (tree : SyntaxTree) (session : Session) (stream : WordStream)

/-- **Root paths are sampled** if there is room for their table. -/
theorem trySampleRootPaths_eq :
    trySampleRootPaths settings tree session stream =
      if settings.HasRootRoom then .ok (sampleRootPaths settings tree session stream)
      else .error .capacityOverflow := by
  rw [trySampleRootPaths, tryFillQuota, apply_ite (Except.map _)]
  rfl

theorem trySampleLeafPathsFrom_eq (roots : List RootPath) :
    trySampleLeafPathsFrom settings roots session stream =
      if settings.HasLeafRoom then .ok (sampleLeafPathsFrom settings roots session stream)
      else .error .capacityOverflow := by
  rw [trySampleLeafPathsFrom, tryFillQuota, apply_ite (Except.map _)]
  rfl

/-- **Leaf paths are sampled** if there is room for both tables. -/
theorem trySampleLeafPaths_eq :
    trySampleLeafPaths settings tree session stream =
      if settings.HasRoom then .ok (sampleLeafPaths settings tree session stream)
      else .error .capacityOverflow := by
  rw [trySampleLeafPaths, trySampleRootPaths_eq]
  by_cases hroots : settings.HasRootRoom
  · rw [if_pos hroots, Except.bind, trySampleLeafPathsFrom_eq]
    by_cases hleaves : settings.HasLeafRoom
    · rw [if_pos hleaves, if_pos ⟨hroots, hleaves⟩, sampleLeafPaths]
    · rw [if_neg hleaves, if_neg fun hroom => hleaves hroom.2]
  · rw [if_neg hroots, if_neg fun hroom => hroots hroom.1]
    rfl

end Samples

/-! ### Units -/

namespace CodeUnit

/-- **The coverage is measured** if there is room for both tables. -/
theorem tryCoverage_eq (unit : CodeUnit) (stream : WordStream) :
    unit.tryCoverage stream =
      if unit.settings.HasRoom then .ok (unit.coverage stream)
      else .error .capacityOverflow := by
  rw [tryCoverage, trySampleLeafPaths, trySampleLeafPaths_eq, apply_ite (Except.map _)]
  rfl

theorem tryPathTokens_eq (unit : CodeUnit) (family : PathFamily) (stream : WordStream) :
    unit.tryPathTokens family stream =
      if unit.settings.HasRoomFor family then .ok (unit.pathTokens family stream)
      else .error .capacityOverflow := by
  cases family with
  | root =>
      rw [tryPathTokens, trySampleRootPaths, trySampleRootPaths_eq, apply_ite (Except.map _)]
      rfl
  | leaf =>
      rw [tryPathTokens, trySampleLeafPaths, trySampleLeafPaths_eq, apply_ite (Except.map _)]
      rfl

theorem settings_of_ofAnswer {normalizer : Normalizer} {settings : Settings}
    {parsed : Except ParseError ParseTree} {source : String} {unit : CodeUnit}
    (h : ofAnswer normalizer settings parsed source = .ok unit) : unit.settings = settings := by
  cases parsed with
  | error cause => cases h
  | ok raw =>
      rw [ofAnswer, ofSource] at h
      cases hbuild : SyntaxTree.build normalizer raw (sourceLines source) with
      | error cause =>
          rw [hbuild] at h
          cases h
      | ok tree =>
          rw [hbuild] at h
          cases h
          rfl

end CodeUnit

/-! ### Source texts -/

section SourceTexts

variable {normalizer : Normalizer} {settings : Settings} {unseeded : WordStream}

/-- **The tokens of a source text** are found if there is room. -/
theorem tryCodeTokens_of_hasRoomFor {family : PathFamily} (h : settings.HasRoomFor family)
    (parsed : Except ParseError ParseTree) (source : String) :
    tryCodeTokens normalizer settings family parsed source unseeded =
      .ok (codeTokens normalizer settings family parsed source unseeded) := by
  rw [tryCodeTokens, codeTokens]
  cases hunit : CodeUnit.ofAnswer normalizer settings parsed source with
  | error cause => rfl
  | ok unit =>
      rw [← CodeUnit.settings_of_ofAnswer hunit] at h
      simp only [CodeUnit.tryPathTokens_eq, if_pos h]
      rfl

/-- **A source text is given up** only for want of room, and only if it has a tree. -/
theorem tryCodeTokens_eq_error_iff {family : PathFamily} {parsed : Except ParseError ParseTree}
    {source : String} {fault : QuotaFault} :
    tryCodeTokens normalizer settings family parsed source unseeded = .error fault ↔
      ¬ settings.HasRoomFor family ∧
        ∃ unit, CodeUnit.ofAnswer normalizer settings parsed source = .ok unit := by
  by_cases hroom : settings.HasRoomFor family
  · simp [tryCodeTokens_of_hasRoomFor hroom, hroom]
  · rw [tryCodeTokens]
    cases hunit : CodeUnit.ofAnswer normalizer settings parsed source with
    | error cause => simp
    | ok unit =>
        rw [← CodeUnit.settings_of_ofAnswer hunit] at hroom
        simp only [CodeUnit.tryPathTokens_eq, if_neg hroom, Except.map]
        cases fault
        simpa [← CodeUnit.settings_of_ofAnswer hunit] using hroom

/-- **The tokens of a record** are found if there is room. -/
theorem Document.tryTokens_of_hasRoomFor {data : DataType}
    (h : ∀ family, data = .paths family → settings.HasRoomFor family) (doc : Document)
    (evaluation : Bool) (parsed : Except ParseError ParseTree) :
    doc.tryTokens normalizer settings data evaluation parsed unseeded =
      .ok (doc.tokens normalizer settings data evaluation parsed unseeded) := by
  cases data with
  | code => rfl
  | paths family => exact tryCodeTokens_of_hasRoomFor (h family rfl) _ _

end SourceTexts

/-! ### Corpora -/

section Corpora

variable {normalizer : Normalizer} {settings : Settings} {unseeded : WordStream}

/-- The source text of a document has a tree. -/
def ParsedDocument.HasUnit (normalizer : Normalizer) (settings : Settings)
    (entry : ParsedDocument) : Prop :=
  ∃ unit, CodeUnit.ofAnswer normalizer settings (answerIn entry.doc.language entry.parsed)
    entry.doc.code = .ok unit

/-- The coverage of a document is found unless it has a tree and there is no room. -/
theorem ParsedDocument.tryCoverage_eq_ok {entry : ParsedDocument}
    (h : settings.HasRoom ∨ ¬ entry.HasUnit normalizer settings) (i : Nat) :
    entry.tryCoverage normalizer settings i unseeded =
      .ok (entry.coverage normalizer settings i unseeded) := by
  rw [tryCoverage, coverage]
  cases hunit : CodeUnit.ofAnswer normalizer settings
      (answerIn entry.doc.language entry.parsed) entry.doc.code with
  | error cause => rfl
  | ok unit =>
      have hroom := h.resolve_right (not_not_intro ⟨unit, hunit⟩)
      rw [← CodeUnit.settings_of_ofAnswer hunit] at hroom
      simp only [CodeUnit.tryCoverage_eq, if_pos hroom]
      rfl

theorem ParsedDocument.tryCoverage_eq_error {entry : ParsedDocument}
    (hroom : ¬ settings.HasRoom) (h : entry.HasUnit normalizer settings) (i : Nat) :
    entry.tryCoverage normalizer settings i unseeded = .error .capacityOverflow := by
  obtain ⟨unit, hunit⟩ := h
  rw [← CodeUnit.settings_of_ofAnswer hunit] at hroom
  simp only [tryCoverage, hunit, CodeUnit.tryCoverage_eq, if_neg hroom, Except.map]

variable {α : Type} [OfNat α 0] [Add α] (read : Ratio → α)

theorem tryDocumentSummaries_eq_ok (i : Nat) {entries : List ParsedDocument}
    (h : settings.HasRoom ∨ ∀ entry ∈ entries, ¬ entry.HasUnit normalizer settings) :
    tryDocumentSummaries read normalizer settings unseeded i entries =
      .ok (documentSummaries read normalizer settings unseeded i entries) := by
  induction entries generalizing i with
  | nil => rfl
  | cons entry entries ih =>
      have hentry := h.imp_right fun hall => hall entry List.mem_cons_self
      have hrest := h.imp_right fun hall next hnext => hall next (List.mem_cons_of_mem entry hnext)
      rw [tryDocumentSummaries, ParsedDocument.tryCoverage_eq_ok hentry, ih (i + 1) hrest]
      rfl

theorem tryDocumentSummaries_eq_error (hroom : ¬ settings.HasRoom) (i : Nat)
    {entries : List ParsedDocument} (h : ∃ entry ∈ entries, entry.HasUnit normalizer settings) :
    tryDocumentSummaries read normalizer settings unseeded i entries =
      .error .capacityOverflow := by
  induction entries generalizing i with
  | nil => simp at h
  | cons entry entries ih =>
      rw [tryDocumentSummaries]
      by_cases hentry : entry.HasUnit normalizer settings
      · rw [ParsedDocument.tryCoverage_eq_error hroom hentry]
        rfl
      · have hrest : ∃ next ∈ entries, next.HasUnit normalizer settings := by
          obtain ⟨next, hnext, hunit⟩ := h
          rcases List.mem_cons.mp hnext with rfl | hnext
          · exact absurd hunit hentry
          · exact ⟨next, hnext, hunit⟩
        rw [ParsedDocument.tryCoverage_eq_ok (.inr hentry), ih (i + 1) hrest]
        rfl

/-- **A corpus is summed up** if there is room, and also if none of its documents has a tree. -/
theorem tryCorpusSummary_eq_ok {entries : List ParsedDocument}
    (h : settings.HasRoom ∨ ∀ entry ∈ entries, ¬ entry.HasUnit normalizer settings) :
    tryCorpusSummary read normalizer settings unseeded entries =
      .ok (corpusSummary read normalizer settings unseeded entries) := by
  rw [tryCorpusSummary, tryDocumentSummaries_eq_ok read 0 h]
  rfl

/-- **A corpus is given up** for a single document with a tree, if there is no room. -/
theorem tryCorpusSummary_eq_error_iff {entries : List ParsedDocument} {fault : QuotaFault} :
    tryCorpusSummary read normalizer settings unseeded entries = .error fault ↔
      ¬ settings.HasRoom ∧ ∃ entry ∈ entries, entry.HasUnit normalizer settings := by
  by_cases hcause : ¬ settings.HasRoom ∧ ∃ entry ∈ entries, entry.HasUnit normalizer settings
  · rw [tryCorpusSummary, tryDocumentSummaries_eq_error read hcause.1 0 hcause.2]
    cases fault
    exact iff_of_true rfl hcause
  · have hfine : settings.HasRoom ∨ ∀ entry ∈ entries, ¬ entry.HasUnit normalizer settings := by
      by_cases hroom : settings.HasRoom
      · exact .inl hroom
      · exact .inr fun entry hentry hunit => hcause ⟨hroom, entry, hentry, hunit⟩
    rw [tryCorpusSummary_eq_ok read hfine]
    exact iff_of_false (by simp) hcause

end Corpora

end SyntaxPaths
