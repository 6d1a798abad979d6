import SchemaDoc.CommandLine.Command
import SchemaDoc.Proofs.Computation
import SchemaDoc.Proofs.Settings.Environment
import SchemaDoc.Proofs.Settings.Load
import SchemaDoc.Proofs.Settings.Validation

/-!
Contract: where the settings in force come from.

An option comes before the environment, the environment before the settings file, and the file before
the default (`InForce`); for the address of the database the general variable stands between the file
and the default. What counts as given differs: an option or a variable has to be filled, a key
of the file only has to be there. The settings are validated once more when the options are put in,
which never fails; but the command does not get there when it cannot print that the order is not known
(`settings_in_force`).
-/

namespace SchemaDoc.CommandLine

open Settings
open Value (setWhen lookup?_setWhen mem_setWhen)

variable {α β : Type}

/-! ## Layers -/

/-- The first choice where there is one, and otherwise what the others allow. -/
def Prefers (first : Option α) (others : α → Prop) (value : α) : Prop :=
  match first with
  | some chosen => value = chosen
  | none => others value

/-- A choice put in front of the others. -/
theorem Prefers.under {first second : Option α} {others : Option α → Prop} {value : Option α}
    (below : Prefers (second.map some) others value) :
    Prefers ((first.or second).map some) others (first.or value) := by
  cases first with
  | some chosen => exact rfl
  | none => exact below

/-- A value that is set in front of the found one. -/
theorem prefers_of_gives (taken : β → α) {first : Option β} {make : β → Value}
    {found : Option Value} {reads : Value → α → Prop} {default value : α}
    (gives : Gives ((first.map make).or found) reads default value)
    (isTaken : ∀ {chosen value}, reads (make chosen) value → value = taken chosen) :
    Prefers (first.map taken) (Gives found reads default) value := by
  cases first with
  | some chosen => exact isTaken gives
  | none => exact gives

/-- The settings that options, environment and settings file give together. -/
structure InForce (options : Options) (environment : Environment)
    (file inside : List (Value × Value)) (settings : Settings) : Prop where
  databaseUrl : Prefers
    (((Options.filled options.databaseUrl).or
      (environment.filled? "MODEL_DOC_DATABASE_URL")).map some)
    (Gives (Value.lookup? "database_url".toList file) ReadsOptional
      (environment.filled? "DATABASE_URL"))
    settings.databaseUrl
  driver : Prefers
    (((Options.filled options.driver).or (environment.filled? "MODEL_DOC_DRIVER")).map some)
    (Gives (Value.lookup? "driver".toList file) ReadsOptional none)
    settings.driver
  /-- A given order that is not known stands for the one by type. -/
  sort : Prefers
    (options.sort.map fun given =>
      (SortOrder.ofLabel? (Text.lower (Text.trim given))).getD .byType)
    (Gives (Value.lookup? "sort".toList file) ReadsOrder .byType)
    settings.sort
  dryRun : Prefers (if options.dryRun then some true else none)
    (Gives (Value.lookup? "dry_run".toList file) ReadsTruth false)
    settings.dryRun
  level : Prefers ((environment.filled? "MODEL_DOC_LOG_LEVEL").map Text.upper)
    (Gives (Value.lookup? "level".toList inside) (ReadsWord LogSettings.levels) "INFO".toList)
    settings.logging.level
  format : Prefers ((environment.filled? "MODEL_DOC_LOG_FORMAT").map Text.lower)
    (Gives (Value.lookup? "format".toList inside) (ReadsWord LogSettings.formats)
      "structured".toList)
    settings.logging.format
  /-- A word that is not known is passed over. -/
  useColor : Prefers
    ((environment.filled? "MODEL_DOC_LOG_COLOR").bind fun word => (Flag.parse word).toOption)
    (Gives (Value.lookup? "use_color".toList inside) ReadsTruth true)
    settings.logging.useColor
  includeTimestamp : Gives (Value.lookup? "include_timestamp".toList inside) ReadsTruth false
    settings.logging.includeTimestamp
  modelsPackage : Gives (Value.lookup? "models_package".toList file) ReadsText "app.models".toList
    settings.modelsPackage
  modulesDir : Gives (Value.lookup? "modules_dir".toList file) ReadsText "modules".toList
    settings.modulesDir
  baseClass : Gives (Value.lookup? "base_class".toList file) ReadsOptional none settings.baseClass
  excludeRelations : Gives (Value.lookup? "exclude_relations".toList file) ReadsTexts []
    settings.excludeRelations

/-! ## The environment and the file -/

section Loaded

variable {environment : Environment} {file inside : List (Value × Value)} {loaded : Settings}

/-- The settings of the log are read from its entries, also where it has none. -/
theorem readsLog_of_reads (lists : Environment.ListsLog file inside)
    (reads : Reads (environment.overrideBoth file inside) loaded) :
    ReadsLog (environment.overrideLogging inside).1 loaded.logging := by
  have gives := reads.logging
  rw [Environment.lookup?_overrideBoth, if_pos rfl] at gives
  cases isEmpty : (environment.overrideLogging inside).1 with
  | cons entry rest =>
      rw [isEmpty] at gives
      obtain ⟨entries, same, readsLog⟩ := gives
      rwa [Value.map.inj same]
  | nil =>
      rw [isEmpty] at gives
      rw [Environment.overrideLogging_eq] at isEmpty
      obtain rfl : inside = [] := Value.eq_nil_of_setWhen
        (Value.eq_nil_of_setWhen (Value.eq_nil_of_setWhen isEmpty))
      change Gives (Value.lookup? "logging".toList file) _ _ _ at gives
      unfold Environment.ListsLog Environment.logValue at lists
      cases found : Value.lookup? "logging".toList file with
      | none =>
          rw [found] at gives
          rw [show loaded.logging = .standard from gives]
          exact ⟨rfl, rfl, rfl, rfl⟩
      | some given =>
          rw [found] at gives lists
          obtain ⟨entries, rfl, readsLog⟩ := gives
          obtain rfl : entries = [] := by
            rw [Option.getD_some] at lists
            split at lists
            · next isEmpty => exact List.isEmpty_iff.mp isEmpty
            · exact Except.ok.inj lists
          exact readsLog

theorem readsOptional_str {text : Text} {value : Option Text}
    (reads : ReadsOptional (.str text) value) : value = some text := by
  cases value with
  | none => exact absurd reads (by simp [ReadsOptional])
  | some other =>
      rcases reads with same | ⟨stored, isBytes, -⟩
      · rw [Value.str.inj same]
      · contradiction

/-- The general variable stands in for an entry that the file does not have. -/
theorem prefers_databaseUrl {own general : Option Text} {found : Option Value} {url : Option Text}
    (gives : Gives (((own.map Value.str).or
      (if found.isSome then none else general.map Value.str)).or found) ReadsOptional none url) :
    Prefers (own.map some) (Gives found ReadsOptional general) url := by
  cases own with
  | some chosen => exact readsOptional_str gives
  | none =>
      cases found with
      | some given => exact gives
      | none =>
          cases general with
          | some chosen => exact readsOptional_str gives
          | none => exact gives

/-- Without options the environment and the file decide. -/
theorem inForce_of_reads (lists : Environment.ListsLog file inside)
    (reads : Reads (environment.overrideBoth file inside) loaded) :
    InForce Options.standard environment file inside loaded := by
  have log := readsLog_of_reads lists reads
  obtain ⟨databaseUrl, driver, modelsPackage, modulesDir, baseClass, sort, dryRun, excluded, -, -⟩ :=
    reads
  obtain ⟨level, format, useColor, includeTimestamp⟩ := log
  rw [Environment.lookup?_overrideBoth] at databaseUrl driver modelsPackage modulesDir baseClass
  rw [Environment.lookup?_overrideBoth] at sort dryRun excluded
  rw [Environment.lookup?_overrideLogging] at level format useColor includeTimestamp
  exact {
    databaseUrl := prefers_databaseUrl databaseUrl
    driver := prefers_of_gives some driver readsOptional_str
    sort := sort
    dryRun := dryRun
    level := by
      have layered := prefers_of_gives id level
        fun reads => (Value.str.inj reads.1).symm
      rwa [Option.map_id] at layered
    format := by
      have layered := prefers_of_gives id format
        fun reads => (Value.str.inj reads.1).symm
      rwa [Option.map_id] at layered
    useColor := by
      have layered := prefers_of_gives id useColor
        fun reads => (Except.ok.inj reads).symm
      rwa [Option.map_id] at layered
    includeTimestamp := includeTimestamp
    modelsPackage := modelsPackage
    modulesDir := modulesDir
    baseClass := baseClass
    excludeRelations := excluded }

end Loaded

/-! ## The options -/

section Options

variable {environment : Environment} {file inside : List (Value × Value)} {loaded : Settings}

theorem chooseSort_some (given : Text) (default : SortOrder) :
    Options.chooseSort (some given) default =
      (SortOrder.ofLabel? (Text.lower (Text.trim given))).getD .byType := by
  rw [Options.chooseSort, SortOrder.parse]
  cases SortOrder.ofLabel? (Text.lower (Text.trim given)) <;> rfl

/-- The options come in front of what is in force without them. -/
theorem InForce.override (inForce : InForce Options.standard environment file inside loaded)
    (options : Options) : InForce options environment file inside (options.override loaded) where
  databaseUrl := Prefers.under inForce.databaseUrl
  driver := Prefers.under inForce.driver
  sort := by
    have below := inForce.sort
    unfold Options.override
    cases options.sort with
    | none => exact below
    | some given => exact chooseSort_some given loaded.sort
  dryRun := by
    have below := inForce.dryRun
    unfold Options.override
    cases options.dryRun with
    | true => exact rfl
    | false => exact below
  level := inForce.level
  format := inForce.format
  useColor := inForce.useColor
  includeTimestamp := inForce.includeTimestamp
  modelsPackage := inForce.modelsPackage
  modulesDir := inForce.modulesDir
  baseClass := inForce.baseClass
  excludeRelations := inForce.excludeRelations

/-- The value of settings with the options put in, which is validated once more. -/
def Options.merged (options : Options) (settings : Settings) : List (Value × Value) :=
  setWhen "driver" ((Options.filled options.driver).map Value.str)
    (setWhen "database_url" ((Options.filled options.databaseUrl).map Value.str)
      (setWhen "dry_run" (if options.dryRun then some (.bool true) else none)
        (setWhen "sort" (some (.str (Options.chooseSort options.sort settings.sort).label))
          settings.dumped)))

/-- A key that is a field may be set. -/
theorem known_setWhen {name : String} {value : Option Value} {entries : List (Value × Value)}
    (isField : name.toList ∈ fieldNames)
    (known : ∀ entry ∈ entries, ∃ field ∈ fieldNames, entry.1 = .str field) :
    ∀ entry ∈ setWhen name value entries, ∃ field ∈ fieldNames, entry.1 = .str field := by
  intro entry member
  rcases mem_setWhen member with same | old
  · exact ⟨name.toList, isField, same⟩
  · exact known entry old

/-- The second validation succeeds, with the options in front of the settings. -/
theorem validate_merged (options : Options)
    (levelKnown : loaded.logging.level ∈ LogSettings.levels)
    (formatKnown : loaded.logging.format ∈ LogSettings.formats) :
    validate (.map (options.merged loaded)) = .ok (options.override loaded) := by
  have dumped := reads_dumped levelKnown formatKnown
  rw [validate_eq_ok_iff]
  constructor
  case known =>
    exact known_setWhen (by decide) (known_setWhen (by decide) (known_setWhen (by decide)
      (known_setWhen (by decide) dumped.known)))
  all_goals
    unfold Options.merged
    rw [lookup?_setWhen, lookup?_setWhen, lookup?_setWhen, lookup?_setWhen]
  case databaseUrl =>
    unfold Options.override
    cases Options.filled options.databaseUrl with
    | some chosen => exact readsText_str chosen
    | none => exact dumped.databaseUrl
  case driver =>
    unfold Options.override
    cases Options.filled options.driver with
    | some chosen => exact readsText_str chosen
    | none => exact dumped.driver
  case sort => exact rfl
  case dryRun =>
    unfold Options.override
    cases options.dryRun with
    | true => exact rfl
    | false => exact dumped.dryRun
  case modelsPackage => exact dumped.modelsPackage
  case modulesDir => exact dumped.modulesDir
  case baseClass => exact dumped.baseClass
  case excludeRelations => exact dumped.excludeRelations
  case logging => exact dumped.logging

end Options

/-! ## The settings of a command -/

theorem record_run (stamp : Log.Stamp) (records : List Log.Record) (session : Session) :
    ∃ after, (Act.record stamp records).run session = (.ok (), after) := by
  induction records generalizing session with
  | nil => exact ⟨session, rfl⟩
  | cons record rest inductionHypothesis => exact inductionHypothesis _

/-- A log whose level is known can be set up. -/
theorem configureLog_run {settings : LogSettings} (known : settings.level ∈ LogSettings.levels)
    (session : Session) :
    ∃ after, (Act.configureLog (.ofSettings settings)).run session = (.ok (), after) := by
  have named : ∀ level ∈ LogSettings.levels, (Log.Severity.ofName? level).isSome := by decide
  obtain ⟨severity, isSeverity⟩ := Option.isSome_iff_exists.mp (named _ known)
  have configures : (session.log.configure (.ofSettings settings) false).2 = .ok () := by
    unfold Log.State.configure Log.Configuration.ofSettings Log.Severity.ofValue
    simp only [isSeverity, Option.map_some, Option.getD_some]
    split <;> rfl
  refine ⟨{ session with log := (session.log.configure (.ofSettings settings) false).1 }, ?_⟩
  unfold Act.configureLog
  simp only [Computation.run_bind, Computation.run_get, configures]
  rfl

/-- The warning about the order, if there is one, can be printed. -/
def Options.SortIsShown (options : Options) : Prop :=
  ∀ warning, Options.sortWarning? options.sort = some warning →
    ∃ runs, Console.Markup.render warning = .ok runs

/-- A command that has its settings goes on with them, or its warning about the order ends it. -/
def GoesOn (options : Options) (loaded : Settings) (result : Except Ending Settings) : Prop :=
  (options.SortIsShown ∧ result = .ok (options.override loaded)) ∨
    ¬ options.SortIsShown ∧ ∃ fault, result = .error (.crashed (.markup fault))

theorem sortWarning_run (options : Options) (loaded : Settings) (session : Session) :
    let closing : Act Settings := do
      match Options.sortWarning? options.sort with
      | some warning => Act.printMarkup warning
      | none => pure ()
      return options.override loaded
    GoesOn options loaded (closing.run session).1 := by
  intro closing
  unfold closing GoesOn Options.SortIsShown
  cases Options.sortWarning? options.sort with
  | none => exact .inl ⟨by simp, rfl⟩
  | some warning =>
      simp only [Act.printMarkup, Option.some.injEq, forall_eq']
      cases renders : Console.Markup.render warning with
      | ok runs => exact .inl ⟨⟨runs, rfl⟩, rfl⟩
      | error fault => exact .inr ⟨by simp, fault, rfl⟩

theorem loadSettings_run {stamp : Log.Stamp} {site : Site} {root : Path} {logIsChosen : Bool}
    {options : Options} {loaded : Settings} {records : List Log.Record}
    (loads : load site.tree site.environment root
      (options.config.map fun path => (Path.parse path).render) = .ok (loaded, records))
    (known : loaded.logging.level ∈ LogSettings.levels) (session : Session) :
    GoesOn options loaded ((loadSettings stamp site root logIsChosen options).run session).1 := by
  obtain ⟨recorded, records⟩ := record_run stamp records session
  unfold loadSettings
  simp only [loads, Computation.run_bind, records]
  cases logIsChosen with
  | true => exact sortWarning_run options loaded recorded
  | false =>
      obtain ⟨configured, configures⟩ := configureLog_run known recorded
      simp only [Bool.not_false, if_true, Computation.run_bind, configures]
      exact sortWarning_run options loaded configured

theorem goesOn_iff {options : Options} {loaded : Settings} {result : Except Ending Settings}
    (goesOn : GoesOn options loaded result) :
    result = .ok (options.override loaded) ↔ options.SortIsShown := by
  rcases goesOn with ⟨isShown, rfl⟩ | ⟨isHidden, fault, rfl⟩
  · simp only [isShown]
  · simp only [isHidden, reduceCtorEq]

/-- The settings that options, environment and file give together are those of the second validation.
The command goes on with them exactly when its warning about the order can be printed; otherwise that
fault ends it. -/
theorem settings_in_force {site : Site} {root : Path} {options : Options} {loaded : Settings}
    {records : List Log.Record}
    (loads : load site.tree site.environment root
      (options.config.map fun path => (Path.parse path).render) = .ok (loaded, records)) :
    validate (.map (options.merged loaded)) = .ok (options.override loaded) ∧
      (∃ path found file inside,
        findFile site.tree site.environment root
            (options.config.map fun path => (Path.parse path).render) = .ok (path, found) ∧
          FileGives site.tree path file ∧
          Environment.ListsLog (site.environment.substituteEntries file) inside ∧
          InForce options site.environment (site.environment.substituteEntries file) inside
            (options.override loaded)) ∧
      ∀ stamp logIsChosen session,
        (((loadSettings stamp site root logIsChosen options).run session).1 =
            .ok (options.override loaded) ↔
          options.SortIsShown) ∧
        (¬ options.SortIsShown → ∃ fault,
          ((loadSettings stamp site root logIsChosen options).run session).1 =
            .error (.crashed (.markup fault))) := by
  have loading := Settings.loads site.tree site.environment root
    (options.config.map fun path => (Path.parse path).render)
  rw [loads] at loading
  cases loading with
  | valid finds gives overrides validates =>
      obtain ⟨inside, lists, rfl⟩ := Environment.override_eq_ok overrides
      have reads := validate_eq_ok_iff.mp validates
      obtain ⟨levelKnown, formatKnown⟩ := reads.log_known
      refine ⟨validate_merged options levelKnown formatKnown,
        ⟨_, _, _, inside, finds, gives, lists, (inForce_of_reads lists reads).override options⟩, ?_⟩
      intro stamp logIsChosen session
      have goesOn : GoesOn options loaded
          ((loadSettings stamp site root logIsChosen options).run session).1 :=
        loadSettings_run loads levelKnown session
      exact ⟨goesOn_iff goesOn, fun isHidden => (goesOn.resolve_left fun shown => isHidden shown.1).2⟩

/-! An order that closes a tag is not known, and the warning about it cannot be printed. -/

def closingOptions : Options :=
  { Options.standard with sort := some "[/x]".toList }

/-- A project without settings of its own. -/
def plainSite : Site where
  tree := FileTree.empty
  world := .create [] []
  environment := []
  databases := []
  log := .start
  screen := .wide
  wording := .brief

/-- What the settings of a project without a file come to under that order. -/
def closingResult : Except Ending Settings :=
  ((loadSettings ⟨[], []⟩ plainSite .project false closingOptions).run ⟨.wide, .start, []⟩).1

/-- Loading succeeds, and a value that is no order leaves the standard one in force; but the command ends in
front of it. -/
theorem closing_sort_unsettled :
    ¬ ((load plainSite.tree plainSite.environment .project none).toOption.map Prod.fst =
        some .standard →
      closingResult = .ok (closingOptions.override .standard)) := by
  have loads : (load plainSite.tree plainSite.environment .project none).toOption.map Prod.fst =
      some .standard := by decide +kernel
  have ends : closingResult.toOption.isNone = true := by decide +kernel
  intro goesOn
  rw [goesOn loads] at ends
  contradiction

/-! All layers at once: the file gives the address through a placeholder, the level and an order; the
environment gives the driver and another level; the options give an unknown order and an empty
driver. -/

def layeredSite : Site where
  tree := ⟨[(["pyproject.toml".toList], Encoding.encodeUtf8 (
    "[tool.model-doc]\ndatabase_url = 'sqlite:///$\x7bNAME\x7d'\nsort = 'db'\n" ++
      "[tool.model-doc.logging]\nlevel = 'INFO'\n"))], []⟩
  world := .create [] []
  environment := [("NAME".toList, "a.db".toList), ("DATABASE_URL".toList, "sqlite://".toList),
    ("MODEL_DOC_DRIVER".toList, "mysql".toList), ("MODEL_DOC_LOG_LEVEL".toList, "debug".toList)]
  databases := []
  log := .start
  screen := .wide
  wording := .brief

def layeredOptions : Options :=
  { Options.standard with sort := some "size".toList, driver := some [], dryRun := true }

def layeredSettings : Settings :=
  { Settings.standard with
    databaseUrl := some "sqlite:///a.db".toList
    driver := some "mysql".toList
    sort := .byDatabase
    logging := { LogSettings.standard with level := "DEBUG".toList } }

theorem sortIsShown_layeredOptions : layeredOptions.SortIsShown := by
  intro warning isWarning
  apply Computation.exists_ok_of_isSome
  rw [← Option.some.inj isWarning]
  decide +kernel

theorem settings_in_force_layered :
    ∃ records, load layeredSite.tree layeredSite.environment .project none =
        .ok (layeredSettings, records) ∧
      validate (.map (layeredOptions.merged layeredSettings)) =
        .ok { layeredSettings with sort := .byType, dryRun := true } ∧
      (∃ file inside, InForce layeredOptions layeredSite.environment file inside
        { layeredSettings with sort := .byType, dryRun := true }) ∧
      ∀ stamp logIsChosen session,
        ((loadSettings stamp layeredSite .project logIsChosen layeredOptions).run session).1 =
          .ok { layeredSettings with sort := .byType, dryRun := true } := by
  have found : (load layeredSite.tree layeredSite.environment .project none).toOption.map Prod.fst =
      some layeredSettings := by decide +kernel
  obtain ⟨⟨loaded, records⟩, isLoaded, rfl⟩ := Option.map_eq_some_iff.mp found
  have loads : load layeredSite.tree layeredSite.environment .project none =
      .ok (layeredSettings, records) := Computation.eq_ok_of_toOption isLoaded
  obtain ⟨validates, ⟨_, _, file, inside, -, -, -, inForce⟩, runs⟩ :=
    @settings_in_force layeredSite .project layeredOptions _ _ loads
  have isOverride : layeredOptions.override layeredSettings =
      { layeredSettings with sort := .byType, dryRun := true } := by decide +kernel
  simp only [isOverride] at validates inForce runs
  exact ⟨records, loads, validates, ⟨_, inside, inForce⟩,
    fun stamp logIsChosen session =>
      (runs stamp logIsChosen session).1.mpr sortIsShown_layeredOptions⟩

end SchemaDoc.CommandLine
