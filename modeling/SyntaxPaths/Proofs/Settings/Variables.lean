import SyntaxPaths.Settings.Layers

/-!
# Settings in variables

The middle layer of settings comes from variables, and is there exactly if each variable that is
set can be read (`Environment.settings_eq_ok_iff`).  Otherwise the first one that cannot be read
is reported (`Environment.settings_eq_error_iff`).

* **What the variables stand for** (`Readings`).  A variable that is not set stands for nothing,
  and a path style can always be read.
* **Seeds** are numbers of 64 bits, as all numbers that can be read are, so nothing is lost
  (`rel_seed_iff`).
-/

namespace SyntaxPaths

/-! ### Steps that can fail -/

section Steps

variable {α β ε : Type}

theorem bind_eq_ok_iff {step : Except ε α} {next : α → Except ε β} {result : β} :
    step >>= next = .ok result ↔ ∃ value, step = .ok value ∧ next value = .ok result := by
  cases step with
  | error cause => exact ⟨nofun, nofun⟩
  | ok value => exact ⟨fun h => ⟨value, rfl, h⟩, fun ⟨_, hvalue, h⟩ => Except.ok.inj hvalue ▸ h⟩

theorem bind_eq_error_iff {step : Except ε α} {next : α → Except ε β} {cause : ε} :
    step >>= next = .error cause ↔
      step = .error cause ∨ ∃ value, step = .ok value ∧ next value = .error cause := by
  cases step with
  | error cause' =>
      constructor
      · intro h
        exact Or.inl (Except.error.inj h ▸ rfl)
      · rintro (h | ⟨_, hvalue, -⟩)
        · exact Except.error.inj h ▸ rfl
        · cases hvalue
  | ok value =>
      constructor
      · intro h
        exact Or.inr ⟨value, rfl, h⟩
      · rintro (h | ⟨_, hvalue, h⟩)
        · cases h
        · exact Except.ok.inj hvalue ▸ h

/-- What is set is read, and what is not set stays so. -/
theorem mapM_eq_ok_iff {read : α → Except ε β} {setting : Option α} {result : Option β} :
    setting.mapM read = .ok result ↔
      Option.Rel (fun text value => read text = .ok value) setting result := by
  cases setting with
  | none =>
      constructor
      · intro h
        obtain rfl := Except.ok.inj h
        exact .none
      · rintro ⟨⟩
        rfl
  | some text =>
      rw [Option.mapM_some]
      constructor
      · intro h
        cases hread : read text with
        | error cause =>
            rw [hread] at h
            cases h
        | ok value =>
            rw [hread] at h
            obtain rfl := Except.ok.inj h
            exact .some hread
      · rintro ⟨hread⟩
        rw [hread]
        rfl

theorem mapM_eq_error_iff {read : α → Except ε β} {setting : Option α} {cause : ε} :
    setting.mapM read = .error cause ↔ ∃ text, setting = some text ∧ read text = .error cause := by
  cases setting with
  | none => exact ⟨nofun, nofun⟩
  | some text =>
      rw [Option.mapM_some]
      constructor
      · intro h
        cases hread : read text with
        | error cause' =>
            rw [hread] at h
            exact ⟨text, rfl, Except.error.inj h ▸ hread⟩
        | ok value =>
            rw [hread] at h
            cases h
      · rintro ⟨_, ⟨⟩, hread⟩
        rw [hread]
        rfl

end Steps

/-! ### What the variables stand for -/

/-- What the variables stand for, as far as they are set. -/
structure Readings where
  /-- The tree style. -/
  treeStyle : Option TreeStyle
  /-- The path style. -/
  pathStyle : Option PathStyle
  /-- The seed. -/
  seed : Option UInt64
  /-- The depth limit. -/
  depthLimit : Option Nat

namespace Readings

/-- **Each variable that is set can be read.** -/
structure AreOf (readings : Readings) (environment : Environment) : Prop where
  /-- The tree style is the one with the given name. -/
  treeStyle : Option.Rel (fun text style => TreeStyle.read text = .ok style)
    environment.treeStyle readings.treeStyle
  /-- The path style is the one for which the text stands, and any text stands for one. -/
  pathStyle : Option.Rel (fun text style => PathStyle.read text = style)
    environment.pathStyle readings.pathStyle
  /-- The seed is the given number. -/
  seed : Option.Rel (fun text (seed : UInt64) =>
    readVariable Environment.seedName .seed text = .ok seed.toNat)
    environment.seed readings.seed
  /-- The depth limit is the given number. -/
  depthLimit : Option.Rel (fun text limit =>
    readVariable Environment.depthLimitName .depthLimit text = .ok limit)
    environment.depthLimit readings.depthLimit

/-- The settings that the variables set. -/
def settings (readings : Readings) : Settings :=
  { Settings.unset with
    treeStyle := readings.treeStyle
    pathStyle := readings.pathStyle
    depthLimit := readings.depthLimit
    seed := readings.seed }

end Readings

/-! ### Numbers in variables -/

theorem readDigits_lt {n m : Nat} {cs : List Char} (hn : n < numberBound)
    (h : readDigits n cs = .ok m) : m < numberBound := by
  induction cs generalizing n with
  | nil => exact Except.ok.inj h ▸ hn
  | cons c cs ih =>
      rw [readDigits] at h
      split at h
      · cases h
      · split at h
        · next hlt => exact ih hlt h
        · cases h

/-- **A number that is read fits in 64 bits.** -/
theorem readNumber_lt {cs : List Char} {n : Nat} (h : readNumber cs = .ok n) : n < numberBound := by
  have hzero : 0 < numberBound := by decide
  unfold readNumber at h
  split at h
  · cases h
  · cases h
  · exact readDigits_lt hzero h
  · exact readDigits_lt hzero h

theorem readVariable_eq_ok_iff {name text : String} {field : Field} {n : Nat} :
    readVariable name field text = .ok n ↔ readNumber (Text.trimmed text.toList) = .ok n := by
  rw [readVariable]
  cases readNumber (Text.trimmed text.toList) with
  | error cause => exact ⟨nofun, nofun⟩
  | ok m =>
      constructor
      · intro h
        exact Except.ok.inj h ▸ rfl
      · intro h
        exact Except.ok.inj h ▸ rfl

/-- A variable that is no number is refused for its setting. -/
theorem exists_readVariable_eq_error {name text : String} {field : Field} {cause : ConfigError}
    (h : readVariable name field text = .error cause) :
    ∃ message, cause = .invalidValue field.path message := by
  rw [readVariable] at h
  cases hread : readNumber (Text.trimmed text.toList) with
  | error fault =>
      rw [hread] at h
      exact ⟨_, (Except.error.inj h).symm⟩
  | ok m =>
      rw [hread] at h
      cases h

/-- Seeds are numbers of 64 bits, and nothing is lost when one is read. -/
theorem rel_seed_iff {name : String} {field : Field} {setting : Option String}
    {seed : Option UInt64} :
    Option.Rel (fun text (seed : UInt64) => readVariable name field text = .ok seed.toNat)
        setting seed ↔
      ∃ number : Option Nat, seed = number.map UInt64.ofNat ∧
        Option.Rel (fun text n => readVariable name field text = .ok n) setting number := by
  constructor
  · rintro (hread | -)
    · exact ⟨some _, by simp, .some hread⟩
    · exact ⟨none, rfl, .none⟩
  · rintro ⟨number, rfl, hrel⟩
    cases hrel with
    | none => exact .none
    | some hread =>
        have hlt : _ < UInt64.size := readNumber_lt (readVariable_eq_ok_iff.mp hread)
        exact .some (hread.trans (by rw [UInt64.toNat_ofNat_of_lt' hlt]))

/-- A name that is none is refused for its setting. -/
theorem TreeStyle.exists_read_eq_error {text : String} {cause : ConfigError}
    (h : TreeStyle.read text = .error cause) :
    ∃ message, cause = .invalidValue Field.treeStyle.path message := by
  rw [TreeStyle.read] at h
  split at h
  · cases h
  · exact ⟨_, (Except.error.inj h).symm⟩

/-! ### The middle layer -/

namespace Environment

theorem rel_pathStyle_iff {setting : Option String} {style : Option PathStyle} :
    Option.Rel (fun text style => PathStyle.read text = style) setting style ↔
      style = setting.map PathStyle.read := by
  constructor
  · rintro (rfl | -)
    · rfl
    · rfl
  · rintro rfl
    cases setting with
    | none => exact .none
    | some text => exact .some rfl

/-- **The middle layer** is there exactly if each variable that is set can be read. -/
theorem settings_eq_ok_iff {environment : Environment} {settings : Settings} :
    environment.settings = .ok settings ↔
      ∃ readings : Readings, readings.AreOf environment ∧ settings = readings.settings := by
  unfold Environment.settings
  simp only [bind_eq_ok_iff, mapM_eq_ok_iff]
  constructor
  · rintro ⟨treeStyle, htree, number, hnumber, depthLimit, hdepth, h⟩
    obtain rfl := Except.ok.inj h
    exact ⟨⟨treeStyle, environment.pathStyle.map PathStyle.read, number.map UInt64.ofNat,
      depthLimit⟩, ⟨htree, rel_pathStyle_iff.mpr rfl, rel_seed_iff.mpr ⟨number, rfl, hnumber⟩,
      hdepth⟩, rfl⟩
  · rintro ⟨⟨treeStyle, pathStyle, seed, depthLimit⟩, ⟨htree, hpath, hseed, hdepth⟩, rfl⟩
    obtain rfl := rel_pathStyle_iff.mp hpath
    obtain ⟨number, rfl, hnumber⟩ := rel_seed_iff.mp hseed
    exact ⟨treeStyle, htree, number, hnumber, depthLimit, hdepth, rfl⟩

/-- **The first variable that is wrong.**  The path style is never wrong. -/
inductive FirstFault (environment : Environment) : ConfigError → Prop where
  /-- There is no tree style of the given name. -/
  | treeStyle {text message : String} : environment.treeStyle = some text →
      TreeStyle.read text = .error (.invalidValue Field.treeStyle.path message) →
      FirstFault environment (.invalidValue Field.treeStyle.path message)
  /-- The tree style can be read, but the seed is no number. -/
  | seed {treeStyle : Option TreeStyle} {text message : String} :
      Option.Rel (fun text style => TreeStyle.read text = .ok style)
        environment.treeStyle treeStyle →
      environment.seed = some text →
      readVariable seedName .seed text = .error (.invalidValue Field.seed.path message) →
      FirstFault environment (.invalidValue Field.seed.path message)
  /-- The tree style and the seed can be read, but the depth limit is no number. -/
  | depthLimit {treeStyle : Option TreeStyle} {seed : Option UInt64} {text message : String} :
      Option.Rel (fun text style => TreeStyle.read text = .ok style)
        environment.treeStyle treeStyle →
      Option.Rel (fun text (seed : UInt64) => readVariable seedName .seed text = .ok seed.toNat)
        environment.seed seed →
      environment.depthLimit = some text →
      readVariable depthLimitName .depthLimit text =
        .error (.invalidValue Field.depthLimit.path message) →
      FirstFault environment (.invalidValue Field.depthLimit.path message)

/-- **The first variable that cannot be read** is reported. -/
theorem settings_eq_error_iff {environment : Environment} {cause : ConfigError} :
    environment.settings = .error cause ↔ environment.FirstFault cause := by
  unfold Environment.settings
  simp only [bind_eq_error_iff, mapM_eq_error_iff, mapM_eq_ok_iff]
  constructor
  · rintro (⟨text, hset, hread⟩ | ⟨treeStyle, htree, ⟨text, hset, hread⟩ | ⟨number, hnumber,
      ⟨text, hset, hread⟩ | ⟨_, -, h⟩⟩⟩)
    · obtain ⟨message, rfl⟩ := TreeStyle.exists_read_eq_error hread
      exact .treeStyle hset hread
    · obtain ⟨message, rfl⟩ := exists_readVariable_eq_error hread
      exact .seed htree hset hread
    · obtain ⟨message, rfl⟩ := exists_readVariable_eq_error hread
      exact .depthLimit htree (rel_seed_iff.mpr ⟨number, rfl, hnumber⟩) hset hread
    · cases h
  · rintro (⟨hset, hread⟩ | ⟨htree, hset, hread⟩ | ⟨htree, hseed, hset, hread⟩)
    · exact Or.inl ⟨_, hset, hread⟩
    · exact Or.inr ⟨_, htree, Or.inl ⟨_, hset, hread⟩⟩
    · obtain ⟨number, -, hnumber⟩ := rel_seed_iff.mp hseed
      exact Or.inr ⟨_, htree, Or.inr ⟨number, hnumber, Or.inl ⟨_, hset, hread⟩⟩⟩

end Environment

end SyntaxPaths
