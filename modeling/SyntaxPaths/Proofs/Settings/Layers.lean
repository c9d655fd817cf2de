import SyntaxPaths.Proofs.Settings.Variables

/-!
# The highest layer decides each setting

Loading reads the layers one after the other, merges them, and validates what they give
together (`takesHighest_load`).

* **What the layers say** is a matter of each layer alone: the file holds settings
  (`ProjectFile.Holds`), and each variable that is set stands for a value (`Readings.AreOf`).
  What they give together is taken setting by setting (`Settings.ofLayers`).
* **What is wrong** is found in the order of reading (`FirstFault`).  Each step fails in its own
  way only, and only if all steps before it succeed.
* **What is not looked at.**  A setting in the file matters only if no layer above sets it, for
  the result as well as for the validation (`Settings.ofLayers_congr`).
-/

namespace SyntaxPaths

/-! ### The file -/

/-- A project file holds settings: none of them is set if there is no file, and otherwise its
text is a document with settings of the right types. -/
inductive ProjectFile.Holds : ProjectFile → Settings → Prop where
  /-- No file leaves all settings open. -/
  | absent : Holds .absent .unset
  /-- The text can be read. -/
  | text {content : String} {settings : Settings} (h : Settings.ofToml? content = some settings) :
    Holds (.text content) settings

theorem ProjectFile.settings_eq_ok_iff {path : String} {file : ProjectFile} {settings : Settings} :
    file.settings path = .ok settings ↔ file.Holds settings := by
  cases file with
  | absent =>
      constructor
      · intro h
        obtain rfl := Except.ok.inj h
        exact .absent
      · rintro ⟨⟩
        rfl
  | unreadable => exact ⟨nofun, nofun⟩
  | text content =>
      rw [ProjectFile.settings, Settings.readToml]
      constructor
      · intro h
        cases hread : Settings.ofToml? content with
        | none =>
            rw [hread] at h
            cases h
        | some found =>
            rw [hread] at h
            obtain rfl := Except.ok.inj h
            exact .text hread
      · intro h
        cases h with
        | text hread => rw [hread]

theorem Settings.exists_readToml_eq_error {path content : String} {cause : ConfigError}
    (h : Settings.readToml path content = .error cause) :
    Settings.ofToml? content = none ∧ ∃ message, cause = .malformed path message := by
  rw [Settings.readToml] at h
  split at h
  · cases h
  · next hnone => exact ⟨hnone, _, (Except.error.inj h).symm⟩

theorem ProjectFile.settings_eq_error_iff {path : String} {file : ProjectFile}
    {cause : ConfigError} :
    file.settings path = .error cause ↔
      (file = .unreadable ∧ cause = .fileNotFound path) ∨
        ∃ content message, file = .text content ∧ cause = .malformed path message ∧
          Settings.ofToml? content = none ∧
            Settings.readToml path content = .error (.malformed path message) := by
  cases file with
  | absent => simp [ProjectFile.settings]
  | unreadable => simp [ProjectFile.settings, eq_comm]
  | text content =>
      constructor
      · intro h
        have hread : Settings.readToml path content = .error cause := h
        obtain ⟨hnone, message, rfl⟩ := Settings.exists_readToml_eq_error hread
        exact Or.inr ⟨content, message, rfl, rfl, hnone, hread⟩
      · rintro (⟨⟨⟩, -⟩ | ⟨_, message, ⟨⟩, rfl, -, hread⟩)
        exact hread

/-! ### What the layers give together -/

/-- **Setting by setting the highest layer**: what the caller sets, or else what a variable sets,
or else what the file sets. -/
def Settings.ofLayers (overrides : Overrides) (readings : Readings) (file : Settings) :
    Settings where
  treeStyle := overrides.treeStyle <|> readings.treeStyle <|> file.treeStyle
  pathStyle := overrides.pathStyle <|> readings.pathStyle <|> file.pathStyle
  rootPathQuota := file.rootPathQuota
  leafPathQuota := file.leafPathQuota
  pathWidth := file.pathWidth
  pathLength := file.pathLength
  depthLimit := readings.depthLimit <|> file.depthLimit
  seed := overrides.seed <|> readings.seed <|> file.seed

theorem Settings.over_eq_ofLayers (overrides : Overrides) (readings : Readings)
    (file : Settings) :
    overrides.settings.over (readings.settings.over file) =
      Settings.ofLayers overrides readings file := rfl

/-- **Validation refuses a setting as such.** -/
theorem Settings.exists_validate_eq_error {settings : Settings} {cause : ConfigError}
    (h : settings.validate = .error cause) :
    ∃ (field : Field) (message : String), cause = .validationFailed field.path message := by
  rw [Settings.validate] at h
  split at h
  · exact ⟨_, _, (Except.error.inj h).symm⟩
  · split at h
    · exact ⟨_, _, (Except.error.inj h).symm⟩
    · cases h

theorem Settings.validated_eq_ok_iff {settings result : Settings} :
    settings.validated = .ok result ↔ result = settings ∧ settings.validate = .ok () := by
  rw [Settings.validated]
  cases settings.validate with
  | error cause => exact ⟨nofun, nofun⟩
  | ok _ => simp [Except.map, eq_comm]

theorem Settings.validated_eq_error_iff {settings : Settings} {cause : ConfigError} :
    settings.validated = .error cause ↔ settings.validate = .error cause := by
  rw [Settings.validated]
  cases settings.validate with
  | error cause' => simp [Except.map]
  | ok _ => exact ⟨nofun, nofun⟩

/-! ### All layers -/

/-- **The first thing that is wrong**, in the order in which the layers are read. -/
inductive FirstFault (path : String) (file : ProjectFile) (environment : Environment)
    (overrides : Overrides) : ConfigError → Prop where
  /-- The file cannot be read. -/
  | unreadable : file = .unreadable →
      FirstFault path file environment overrides (.fileNotFound path)
  /-- The text of the file is no document with settings of the right types. -/
  | malformed {content message : String} : file = .text content →
      Settings.ofToml? content = none →
      Settings.readToml path content = .error (.malformed path message) →
      FirstFault path file environment overrides (.malformed path message)
  /-- The file holds settings, but a variable cannot be read. -/
  | badVariable {held : Settings} {cause : ConfigError} : file.Holds held →
      environment.FirstFault cause → FirstFault path file environment overrides cause
  /-- Everything can be read, but what the layers give together is not acceptable. -/
  | validation {held : Settings} {readings : Readings} {field : Field} {message : String} :
      file.Holds held → readings.AreOf environment →
      (Settings.ofLayers overrides readings held).validate =
        .error (.validationFailed field.path message) →
      FirstFault path file environment overrides (.validationFailed field.path message)

namespace Settings

section Load

variable {path : String} {file : ProjectFile} {environment : Environment} {overrides : Overrides}

theorem load_eq_ok_iff {settings : Settings} :
    Settings.load path file environment overrides = .ok settings ↔
      ∃ held readings, file.Holds held ∧ Readings.AreOf readings environment ∧
        settings = ofLayers overrides readings held ∧ settings.validate = .ok () := by
  unfold Settings.load
  simp only [bind_eq_ok_iff, ProjectFile.settings_eq_ok_iff, Environment.settings_eq_ok_iff,
    validated_eq_ok_iff]
  constructor
  · rintro ⟨held, hheld, _, ⟨readings, hreadings, rfl⟩, rfl, hvalid⟩
    exact ⟨held, readings, hheld, hreadings, over_eq_ofLayers overrides readings held, hvalid⟩
  · rintro ⟨held, readings, hheld, hreadings, rfl, hvalid⟩
    exact ⟨held, hheld, _, ⟨readings, hreadings, rfl⟩,
      (over_eq_ofLayers overrides readings held).symm, hvalid⟩

theorem load_eq_error_iff {cause : ConfigError} :
    Settings.load path file environment overrides = .error cause ↔
      FirstFault path file environment overrides cause := by
  unfold Settings.load
  simp only [bind_eq_error_iff, ProjectFile.settings_eq_ok_iff, ProjectFile.settings_eq_error_iff,
    Environment.settings_eq_ok_iff, Environment.settings_eq_error_iff, validated_eq_error_iff]
  constructor
  · rintro ((⟨hfile, rfl⟩ | ⟨content, message, hfile, rfl, hnone, hread⟩) |
      ⟨held, hheld, hfault | ⟨_, ⟨readings, hreadings, rfl⟩, hvalid⟩⟩)
    · exact .unreadable hfile
    · exact .malformed hfile hnone hread
    · exact .badVariable hheld hfault
    · obtain ⟨field, message, rfl⟩ := exists_validate_eq_error hvalid
      rw [over_eq_ofLayers] at hvalid
      exact .validation hheld hreadings hvalid
  · rintro (hfile | ⟨hfile, hnone, hread⟩ | ⟨hheld, hfault⟩ | ⟨hheld, hreadings, hvalid⟩)
    · exact Or.inl (Or.inl ⟨hfile, rfl⟩)
    · exact Or.inl (Or.inr ⟨_, _, hfile, rfl, hnone, hread⟩)
    · exact Or.inr ⟨_, hheld, Or.inl hfault⟩
    · rw [← over_eq_ofLayers] at hvalid
      exact Or.inr ⟨_, hheld, Or.inr ⟨_, ⟨_, hreadings, rfl⟩, hvalid⟩⟩

end Load

end Settings

/-! ### What is not looked at -/

/-- **Two files agree in what is left to them**: in every setting that neither a variable nor the
caller sets. -/
structure AgreeWhereOpen (environment : Environment) (overrides : Overrides)
    (held held' : Settings) : Prop where
  /-- The tree style is left open above the file, or it is the same. -/
  treeStyle : environment.treeStyle = none → overrides.treeStyle = none →
    held.treeStyle = held'.treeStyle
  /-- The same of the path style. -/
  pathStyle : environment.pathStyle = none → overrides.pathStyle = none →
    held.pathStyle = held'.pathStyle
  /-- The same of the seed. -/
  seed : environment.seed = none → overrides.seed = none → held.seed = held'.seed
  /-- The caller never sets the depth limit. -/
  depthLimit : environment.depthLimit = none → held.depthLimit = held'.depthLimit
  /-- The other settings can be set in the file only. -/
  rootPathQuota : held.rootPathQuota = held'.rootPathQuota
  /-- The same of the quota of leaf paths. -/
  leafPathQuota : held.leafPathQuota = held'.leafPathQuota
  /-- The same of the width of leaf paths. -/
  pathWidth : held.pathWidth = held'.pathWidth
  /-- The same of their length. -/
  pathLength : held.pathLength = held'.pathLength

theorem orElse_congr {α : Type} {upper lower lower' : Option α}
    (h : upper = none → lower = lower') : (upper <|> lower) = (upper <|> lower') := by
  cases upper with
  | none => exact h rfl
  | some _ => rfl

theorem eq_none_of_rel {α β : Type} {r : α → β → Prop} {setting : Option α} {value : Option β}
    (hrel : Option.Rel r setting value) (h : value = none) : setting = none := by
  cases hrel with
  | none => rfl
  | some _ => cases h

namespace Settings

variable {environment : Environment} {overrides : Overrides} {held held' : Settings}

/-- **What is replaced does not matter** for what the layers give together. -/
theorem ofLayers_congr {readings : Readings} (hreadings : readings.AreOf environment)
    (h : AgreeWhereOpen environment overrides held held') :
    ofLayers overrides readings held = ofLayers overrides readings held' := by
  have htree : (overrides.treeStyle <|> readings.treeStyle <|> held.treeStyle) =
      (overrides.treeStyle <|> readings.treeStyle <|> held'.treeStyle) :=
    orElse_congr fun hcaller => orElse_congr fun hvariable =>
      h.treeStyle (eq_none_of_rel hreadings.treeStyle hvariable) hcaller
  have hpath : (overrides.pathStyle <|> readings.pathStyle <|> held.pathStyle) =
      (overrides.pathStyle <|> readings.pathStyle <|> held'.pathStyle) :=
    orElse_congr fun hcaller => orElse_congr fun hvariable =>
      h.pathStyle (eq_none_of_rel hreadings.pathStyle hvariable) hcaller
  have hseed : (overrides.seed <|> readings.seed <|> held.seed) =
      (overrides.seed <|> readings.seed <|> held'.seed) :=
    orElse_congr fun hcaller => orElse_congr fun hvariable =>
      h.seed (eq_none_of_rel hreadings.seed hvariable) hcaller
  have hdepth : (readings.depthLimit <|> held.depthLimit) =
      (readings.depthLimit <|> held'.depthLimit) :=
    orElse_congr fun hvariable =>
      h.depthLimit (eq_none_of_rel hreadings.depthLimit hvariable)
  rw [ofLayers, ofLayers, htree, hpath, hseed, hdepth, h.rootPathQuota, h.leafPathQuota,
    h.pathWidth, h.pathLength]

/-- **What is replaced does not matter** for loading, and is not validated either. -/
theorem load_congr {path : String} {file file' : ProjectFile} (hheld : file.Holds held)
    (hheld' : file'.Holds held') (h : AgreeWhereOpen environment overrides held held') :
    Settings.load path file environment overrides =
      Settings.load path file' environment overrides := by
  rw [Settings.load, Settings.load, ProjectFile.settings_eq_ok_iff.mpr hheld,
    ProjectFile.settings_eq_ok_iff.mpr hheld']
  cases hmiddle : environment.settings with
  | error cause => rfl
  | ok middle =>
      obtain ⟨readings, hreadings, rfl⟩ := Environment.settings_eq_ok_iff.mp hmiddle
      have hmerged : overrides.settings.over (readings.settings.over held) =
          overrides.settings.over (readings.settings.over held') := by
        rw [over_eq_ofLayers, over_eq_ofLayers, ofLayers_congr hreadings h]
      exact congrArg Settings.validated hmerged

end Settings

/-! ### Only a file -/

/-- What is said of the text of a file, if it is said of the text as such. -/
def ConfigError.movedTo (path : String) : ConfigError → ConfigError
  | .malformed _ message => .malformed path message
  | cause => cause

theorem Settings.mapError_validated (path : String) (settings : Settings) :
    settings.validated.mapError (ConfigError.movedTo path) = settings.validated := by
  cases h : settings.validated with
  | ok _ => rfl
  | error cause =>
      obtain ⟨field, message, rfl⟩ := exists_validate_eq_error (validated_eq_error_iff.mp h)
      rfl

/-- **A file alone** is loaded as its text is read. -/
theorem Settings.load_text_empty (path content : String) :
    Settings.load path (.text content) .empty .none =
      (Settings.fromToml content).mapError (ConfigError.movedTo path) := by
  have hload : Settings.load path (.text content) .empty .none =
      (Settings.readToml path content).bind Settings.validated := rfl
  rw [hload, Settings.fromToml, Settings.readToml, Settings.readToml]
  cases Settings.ofToml? content with
  | none => rfl
  | some held => exact (mapError_validated path held).symm

/-- **The highest layer decides each setting**, and the first fault in the order of reading
decides what is said. -/
structure TakesHighest (path : String) (file : ProjectFile) (environment : Environment)
    (overrides : Overrides) : Prop where
  /-- The result is what the layers give together, setting by setting.  There is one exactly if
  each layer can be read and they give something acceptable together. -/
  load_eq_ok_iff : ∀ settings, Settings.load path file environment overrides = .ok settings ↔
    ∃ held readings, file.Holds held ∧ Readings.AreOf readings environment ∧
      settings = Settings.ofLayers overrides readings held ∧ settings.validate = .ok ()
  /-- Otherwise the first thing that is wrong is reported. -/
  load_eq_error_iff : ∀ cause, Settings.load path file environment overrides = .error cause ↔
    FirstFault path file environment overrides cause
  /-- What a higher layer replaces in the file is never looked at: another file with other
  settings in these places gives the same result, or the same fault. -/
  load_congr : ∀ file' held held', file.Holds held → ProjectFile.Holds file' held' →
    AgreeWhereOpen environment overrides held held' →
    Settings.load path file environment overrides = Settings.load path file' environment overrides
  /-- With no layer above it the text of a file is read as such, and only the path in the message
  differs. -/
  load_text : ∀ content, file = .text content → environment = .empty → overrides = .none →
    Settings.load path file environment overrides =
      (Settings.fromToml content).mapError (ConfigError.movedTo path)

/-- **Loading** takes the highest layer, setting by setting, whatever the layers are. -/
theorem takesHighest_load (path : String) (file : ProjectFile) (environment : Environment)
    (overrides : Overrides) : TakesHighest path file environment overrides where
  load_eq_ok_iff _ := Settings.load_eq_ok_iff
  load_eq_error_iff _ := Settings.load_eq_error_iff
  load_congr _ _ _ := Settings.load_congr
  load_text := by
    rintro content rfl rfl rfl
    exact Settings.load_text_empty path content

/-- A depth limit of zero in the file is refused, but not if a variable replaces it. -/
example :
    Settings.load "t" (.text "[extraction]\nlcrs_depth_limit = 0\n") .empty .none =
        .error (.validationFailed "extraction.lcrs_depth_limit" "must be greater than 0") ∧
      Settings.load "t" (.text "[extraction]\nlcrs_depth_limit = 0\n")
          ⟨none, none, none, some "5"⟩ .none =
        .ok { Settings.unset with depthLimit := some 5 } := by
  exact ⟨rfl, rfl⟩

end SyntaxPaths
