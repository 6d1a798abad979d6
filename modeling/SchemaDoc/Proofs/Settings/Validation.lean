import Mathlib.Data.List.Forall2
import SchemaDoc.Proofs.Value
import SchemaDoc.Settings.Basic

/-!
Contract: what the validation of settings says about them.

A mapping validates to settings exactly when each of its keys is a field and each field has what its
value reads as, or its default where there is no value (`validate_eq_ok_iff`). How a value reads as a
field is stated by the value that it has to be, truth values apart, for which there are many words. A
text may also be given by its bytes.
-/

namespace SchemaDoc.Settings

variable {α : Type} {entries : List (Value × Value)}

/-! ## Single values -/

def ReadsText (given : Value) (text : Text) : Prop :=
  given = .str text ∨ ∃ stored, given = .bytes stored ∧ Encoding.decodeUtf8 stored = some text

/-- Null reads as no text. -/
def ReadsOptional (given : Value) (text : Option Text) : Prop :=
  match text with
  | some text => ReadsText given text
  | none => given = .null

def ReadsOrder (given : Value) (order : SortOrder) : Prop :=
  given = .str order.label

def ReadsTruth (given : Value) (truth : Bool) : Prop :=
  truthOf given = .ok truth

def ReadsWord (words : List Text) (given : Value) (word : Text) : Prop :=
  given = .str word ∧ word ∈ words

/-- A list, a set or a pair of values that read as texts. -/
def ReadsTexts (given : Value) (texts : List Text) : Prop :=
  ∃ items, itemsOf? given = some items ∧ List.Forall₂ ReadsText items texts

theorem textOf_eq_ok_iff {given : Value} {text : Text} :
    textOf given = .ok text ↔ ReadsText given text := by
  cases given with
  | bytes stored =>
      rw [textOf]
      cases decoded : Encoding.decodeUtf8 stored <;> simp [ReadsText, decoded]
  | _ => simp [textOf, ReadsText]

theorem optionalTextOf_eq_ok_iff {given : Value} {text : Option Text} :
    optionalTextOf given = .ok text ↔ ReadsOptional given text := by
  by_cases isNull : given = .null
  · subst isNull
    cases text <;> simp [optionalTextOf, ReadsOptional, ReadsText]
  · have reads : optionalTextOf given = (textOf given).map some := by
      cases given <;> first | rfl | exact absurd rfl isNull
    rw [reads]
    cases text with
    | none => cases textOf given <;> simp [Except.map, ReadsOptional, isNull]
    | some text =>
        rw [ReadsOptional, ← textOf_eq_ok_iff]
        cases textOf given <;> simp [Except.map]

theorem ofLabel?_label (order : SortOrder) : SortOrder.ofLabel? order.label = some order := by
  cases order <;> decide

theorem orderOf_eq_ok_iff {given : Value} {order : SortOrder} :
    orderOf given = .ok order ↔ ReadsOrder given order := by
  cases given with
  | str value =>
      rw [orderOf, ReadsOrder, Value.str.injEq]
      constructor
      · intro read
        split at read
        · next found isLabel =>
            obtain rfl := Except.ok.inj read
            have same := List.find?_some (p := fun order : SortOrder => order.label = value) isLabel
            exact (of_decide_eq_true same).symm
        · exact absurd read (by simp)
      · rintro rfl
        rw [ofLabel?_label]
  | _ => simp [orderOf, ReadsOrder]

theorem literalOf_eq_ok_iff {words : List Text} {given : Value} {word : Text} :
    literalOf words given = .ok word ↔ ReadsWord words given word := by
  cases given with
  | str value =>
      rw [literalOf, ReadsWord, Value.str.injEq]
      by_cases known : value ∈ words
      · rw [if_pos (List.contains_iff_mem.mpr known), Except.ok.injEq]
        exact ⟨fun same => ⟨same, same ▸ known⟩, And.left⟩
      · rw [if_neg (mt List.contains_iff_mem.mp known)]
        exact ⟨fun read => absurd read (by simp), fun ⟨same, member⟩ => absurd (same ▸ member) known⟩
  | _ => simp [literalOf, ReadsWord]

theorem readTexts_iff (name : Text) (index : Nat) (items : List Value) (texts : List Text) :
    ((readTexts name index items).issues = [] ∧ (readTexts name index items).value = texts) ↔
      List.Forall₂ ReadsText items texts := by
  induction items generalizing index texts with
  | nil => cases texts <;> simp [readTexts]
  | cons item rest inductionHypothesis =>
      rw [readTexts]
      cases texts with
      | nil => cases textOf item <;> simp
      | cons first others =>
          rw [List.forall₂_cons, ← textOf_eq_ok_iff, ← inductionHypothesis (index + 1) others]
          cases textOf item with
          | error kind => simp
          | ok text =>
              simp only [List.cons.injEq, Except.ok.injEq]
              exact and_left_comm

/-! ## Fields -/

/-- What a value gives to a field: what it reads as, or the default when there is no value. -/
def Gives (found : Option Value) (reads : Value → α → Prop) (default value : α) : Prop :=
  match found with
  | none => value = default
  | some given => reads given value

theorem readField_iff (place : List PlaceStep) {name : String} {default value : α}
    {read : Value → Except IssueKind α} {reads : Value → α → Prop}
    (isRead : ∀ {given value}, read given = .ok value ↔ reads given value) :
    ((readField entries place name default read).issues = [] ∧
        (readField entries place name default read).value = value) ↔
      Gives (Value.lookup? name.toList entries) reads default value := by
  unfold readField Gives
  cases Value.lookup? name.toList entries with
  | none => simp [eq_comm]
  | some given =>
      simp only [← isRead]
      cases read given <;> simp

theorem readExcluded_iff {texts : List Text} :
    ((readExcluded entries).issues = [] ∧ (readExcluded entries).value = texts) ↔
      Gives (Value.lookup? "exclude_relations".toList entries) ReadsTexts [] texts := by
  unfold readExcluded
  extract_lets name
  change _ ↔ Gives (Value.lookup? name entries) ReadsTexts [] texts
  unfold Gives
  cases Value.lookup? name entries with
  | none => simp [eq_comm]
  | some given =>
      unfold ReadsTexts
      dsimp only
      cases itemsOf? given with
      | none => simp
      | some items => simpa using readTexts_iff name 0 items texts

/-- The settings of the log that the entries of a mapping give. -/
structure ReadsLog (inside : List (Value × Value)) (log : LogSettings) : Prop where
  level : Gives (Value.lookup? "level".toList inside) (ReadsWord LogSettings.levels)
    LogSettings.standard.level log.level
  format : Gives (Value.lookup? "format".toList inside) (ReadsWord LogSettings.formats)
    LogSettings.standard.format log.format
  useColor : Gives (Value.lookup? "use_color".toList inside) ReadsTruth
    LogSettings.standard.useColor log.useColor
  includeTimestamp : Gives (Value.lookup? "include_timestamp".toList inside) ReadsTruth
    LogSettings.standard.includeTimestamp log.includeTimestamp

def ReadsLogTable (given : Value) (log : LogSettings) : Prop :=
  ∃ inside, given = .map inside ∧ ReadsLog inside log

theorem readLogging_iff {log : LogSettings} :
    ((readLogging entries).issues = [] ∧ (readLogging entries).value = log) ↔
      Gives (Value.lookup? "logging".toList entries) ReadsLogTable .standard log := by
  unfold readLogging
  extract_lets name
  change _ ↔ Gives (Value.lookup? name entries) ReadsLogTable .standard log
  unfold Gives
  cases Value.lookup? name entries with
  | none => simp [eq_comm]
  | some given =>
      cases given with
      | map inside =>
          obtain ⟨level, format, useColor, includeTimestamp⟩ := log
          simp only [List.append_eq_nil_iff, LogSettings.mk.injEq, ReadsLogTable, Value.map.injEq,
            exists_eq_left']
          constructor
          · rintro ⟨⟨⟨⟨noLevel, noFormat⟩, noColor⟩, noTime⟩, isLevel, isFormat, isColor, isTime⟩
            exact ⟨(readField_iff _ literalOf_eq_ok_iff).mp ⟨noLevel, isLevel⟩,
              (readField_iff _ literalOf_eq_ok_iff).mp ⟨noFormat, isFormat⟩,
              (readField_iff _ Iff.rfl).mp ⟨noColor, isColor⟩,
              (readField_iff _ Iff.rfl).mp ⟨noTime, isTime⟩⟩
          · rintro ⟨level, format, useColor, includeTimestamp⟩
            obtain ⟨noLevel, isLevel⟩ :=
              (readField_iff [.key name] literalOf_eq_ok_iff).mpr level
            obtain ⟨noFormat, isFormat⟩ :=
              (readField_iff [.key name] literalOf_eq_ok_iff).mpr format
            obtain ⟨noColor, isColor⟩ :=
              (readField_iff [.key name] Iff.rfl).mpr useColor
            obtain ⟨noTime, isTime⟩ :=
              (readField_iff [.key name] Iff.rfl).mpr includeTimestamp
            exact ⟨⟨⟨⟨noLevel, noFormat⟩, noColor⟩, noTime⟩, isLevel, isFormat, isColor, isTime⟩
      | _ => simp [ReadsLogTable]

/-! ## All settings -/

/-- The settings that the entries of a mapping give; every key is a field. -/
structure Reads (entries : List (Value × Value)) (settings : Settings) : Prop where
  databaseUrl : Gives (Value.lookup? "database_url".toList entries) ReadsOptional none
    settings.databaseUrl
  driver : Gives (Value.lookup? "driver".toList entries) ReadsOptional none settings.driver
  modelsPackage : Gives (Value.lookup? "models_package".toList entries) ReadsText
    standard.modelsPackage settings.modelsPackage
  modulesDir : Gives (Value.lookup? "modules_dir".toList entries) ReadsText standard.modulesDir
    settings.modulesDir
  baseClass : Gives (Value.lookup? "base_class".toList entries) ReadsOptional none
    settings.baseClass
  sort : Gives (Value.lookup? "sort".toList entries) ReadsOrder standard.sort settings.sort
  dryRun : Gives (Value.lookup? "dry_run".toList entries) ReadsTruth standard.dryRun settings.dryRun
  excludeRelations : Gives (Value.lookup? "exclude_relations".toList entries) ReadsTexts []
    settings.excludeRelations
  logging : Gives (Value.lookup? "logging".toList entries) ReadsLogTable .standard settings.logging
  known : ∀ entry ∈ entries, ∃ name ∈ fieldNames, entry.1 = .str name

theorem strayKeys_eq_nil_iff :
    strayKeys entries = [] ↔ ∀ entry ∈ entries, ∃ name ∈ fieldNames, entry.1 = .str name := by
  induction entries with
  | nil => simp [strayKeys]
  | cons entry rest inductionHypothesis =>
      obtain ⟨key, value⟩ := entry
      rw [List.forall_mem_cons]
      cases key with
      | str name =>
          rw [strayKeys]
          by_cases known : name ∈ fieldNames
          · simp [known, inductionHypothesis]
          · simp [known]
      | _ => simp [strayKeys]

theorem validate_eq_ok_iff {settings : Settings} :
    validate (.map entries) = .ok settings ↔ Reads entries settings := by
  have isValid : validate (.map entries) = .ok settings ↔
      (check entries).issues = [] ∧ (check entries).value = settings := by
    unfold validate
    cases issues : (check entries).issues <;> simp [issues]
  obtain ⟨databaseUrl, driver, modelsPackage, modulesDir, baseClass, sort, dryRun, excluded,
    logging⟩ := settings
  rw [isValid, check]
  simp only [List.append_eq_nil_iff, Settings.mk.injEq]
  constructor
  · rintro ⟨⟨⟨⟨⟨⟨⟨⟨⟨⟨noUrl, noDriver⟩, noPackage⟩, noDirectory⟩, noBase⟩, noSort⟩, noDry⟩,
      noExcluded⟩, noLogging⟩, noStray⟩, isUrl, isDriver, isPackage, isDirectory, isBase, isSort,
      isDry, isExcluded, isLogging⟩
    exact {
      databaseUrl := (readField_iff _ optionalTextOf_eq_ok_iff).mp ⟨noUrl, isUrl⟩
      driver := (readField_iff _ optionalTextOf_eq_ok_iff).mp ⟨noDriver, isDriver⟩
      modelsPackage := (readField_iff _ textOf_eq_ok_iff).mp ⟨noPackage, isPackage⟩
      modulesDir := (readField_iff _ textOf_eq_ok_iff).mp ⟨noDirectory, isDirectory⟩
      baseClass := (readField_iff _ optionalTextOf_eq_ok_iff).mp ⟨noBase, isBase⟩
      sort := (readField_iff _ orderOf_eq_ok_iff).mp ⟨noSort, isSort⟩
      dryRun := (readField_iff _ Iff.rfl).mp ⟨noDry, isDry⟩
      excludeRelations := readExcluded_iff.mp ⟨noExcluded, isExcluded⟩
      logging := readLogging_iff.mp ⟨noLogging, isLogging⟩
      known := strayKeys_eq_nil_iff.mp noStray }
  · intro reads
    obtain ⟨noUrl, isUrl⟩ :=
      (readField_iff [] optionalTextOf_eq_ok_iff).mpr reads.databaseUrl
    obtain ⟨noDriver, isDriver⟩ :=
      (readField_iff [] optionalTextOf_eq_ok_iff).mpr reads.driver
    obtain ⟨noPackage, isPackage⟩ :=
      (readField_iff [] textOf_eq_ok_iff).mpr reads.modelsPackage
    obtain ⟨noDirectory, isDirectory⟩ :=
      (readField_iff [] textOf_eq_ok_iff).mpr reads.modulesDir
    obtain ⟨noBase, isBase⟩ :=
      (readField_iff [] optionalTextOf_eq_ok_iff).mpr reads.baseClass
    obtain ⟨noSort, isSort⟩ := (readField_iff [] orderOf_eq_ok_iff).mpr reads.sort
    obtain ⟨noDry, isDry⟩ := (readField_iff [] Iff.rfl).mpr reads.dryRun
    obtain ⟨noExcluded, isExcluded⟩ := readExcluded_iff.mpr reads.excludeRelations
    obtain ⟨noLogging, isLogging⟩ := readLogging_iff.mpr reads.logging
    exact ⟨⟨⟨⟨⟨⟨⟨⟨⟨⟨noUrl, noDriver⟩, noPackage⟩, noDirectory⟩, noBase⟩, noSort⟩, noDry⟩,
      noExcluded⟩, noLogging⟩, strayKeys_eq_nil_iff.mpr reads.known⟩, isUrl, isDriver, isPackage,
      isDirectory, isBase, isSort, isDry, isExcluded, isLogging⟩

/-! ## Settings as values -/

/-- The entries of the value that settings have. -/
def dumped (settings : Settings) : List (Value × Value) :=
  match settings.toValue with
  | .map entries => entries
  | _ => []

/-- The words that the settings of the log are made of are known ones. -/
theorem Reads.log_known {settings : Settings} (reads : Reads entries settings) :
    settings.logging.level ∈ LogSettings.levels ∧
      settings.logging.format ∈ LogSettings.formats := by
  have word {found : Option Value} {words : List Text} {default value : Text}
      (gives : Gives found (ReadsWord words) default value) (known : default ∈ words) :
      value ∈ words := by
    cases found with
    | none => exact (show value = default from gives) ▸ known
    | some given => exact gives.2
  have standard : LogSettings.standard.level ∈ LogSettings.levels ∧
      LogSettings.standard.format ∈ LogSettings.formats := by decide
  have gives := reads.logging
  cases found : Value.lookup? "logging".toList entries with
  | none =>
      rw [found] at gives
      rw [show settings.logging = .standard from gives]
      exact standard
  | some given =>
      rw [found] at gives
      obtain ⟨inside, -, readsLog⟩ := gives
      exact ⟨word readsLog.level standard.1, word readsLog.format standard.2⟩

theorem readsText_str (text : Text) : ReadsText (.str text) text :=
  .inl rfl

theorem readsOptional_getD (text : Option Text) :
    ReadsOptional ((text.map Value.str).getD .null) text := by
  cases text with
  | none => rfl
  | some text => exact readsText_str text

theorem readsTexts_list (texts : List Text) : ReadsTexts (.list (texts.map Value.str)) texts := by
  refine ⟨_, rfl, List.forall₂_map_left_iff.mpr ?_⟩
  exact List.forall₂_same.mpr fun text _ => readsText_str text

/-- Settings with known words are read back from the value that they have. -/
theorem reads_dumped {settings : Settings} (levelKnown : settings.logging.level ∈ LogSettings.levels)
    (formatKnown : settings.logging.format ∈ LogSettings.formats) :
    Reads settings.dumped settings where
  databaseUrl := readsOptional_getD _
  driver := readsOptional_getD _
  modelsPackage := readsText_str _
  modulesDir := readsText_str _
  baseClass := readsOptional_getD _
  sort := rfl
  dryRun := rfl
  excludeRelations := readsTexts_list _
  logging := ⟨_, rfl, ⟨rfl, levelKnown⟩, ⟨rfl, formatKnown⟩, rfl, rfl⟩
  known := strayKeys_eq_nil_iff.mp rfl

end SchemaDoc.Settings
