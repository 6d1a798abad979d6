import SchemaDoc.Proofs.Settings.Environment
import SchemaDoc.Proofs.Settings.Load

/-!
Contract: the faults of settings that are not faults of a configuration.

Loading ends with settings or with a fault that names what is wrong with the configuration, unless the
configuration escapes (`load_unreported_iff`). Each part of loading has its own ways out: the manifest
is looked at before it is chosen, a chosen file may store no text, hold a number that is too long, a
section that is no table or settings that hold themselves, and the entries for the log may be none
(`Escapes`).
-/

namespace SchemaDoc.Settings

variable {α β : Type} {tree : FileTree} {environment : Environment} {root path : Path}
  {given : Option Text} {entries : List (Value × Value)}

/-! ## Reported faults -/

/-- The fault names what is wrong with the configuration. -/
def LoadFault.IsConfiguration : LoadFault → Prop
  | .reported (.configuration _ _) => True
  | .invalid _ _ _ => True
  | .notToml _ _ => True
  | _ => False

/-- A part of loading fails, and its fault is none of the configuration. -/
def Unreported (result : Except LoadFault α) : Prop :=
  ∃ fault, result = .error fault ∧ ¬ fault.IsConfiguration

theorem not_unreported_ok (value : α) : ¬ Unreported (.ok value) := by
  rintro ⟨fault, fails, -⟩
  exact absurd fails (by simp)

theorem unreported_error_iff {fault : LoadFault} :
    Unreported (.error fault : Except LoadFault α) ↔ ¬ fault.IsConfiguration := by
  constructor
  · rintro ⟨other, same, unreported⟩
    rwa [Except.error.inj same]
  · exact fun unreported => ⟨fault, rfl, unreported⟩

/-- One part fails, or the next one does. -/
theorem unreported_bind {first : Except LoadFault α} {next : α → Except LoadFault β} :
    Unreported (first >>= next) ↔
      Unreported first ∨ ∃ value, first = .ok value ∧ Unreported (next value) := by
  cases first with
  | error fault =>
      change Unreported (.error fault) ↔ _
      simp [unreported_error_iff]
  | ok value =>
      change Unreported (next value) ↔ _
      simp [not_unreported_ok]

/-! ## Files in TOML -/

/-- The path leads to a file that stores this text in UTF-8. -/
def HasText (tree : FileTree) (path : Path) (text : Text) : Prop :=
  ∃ bytes, tree.read path = .ok bytes ∧ Encoding.decodeUtf8 bytes = some text

theorem readText_eq_ok_iff {text : Text} :
    readText tree path = .ok text ↔ HasText tree path text := by
  unfold readText HasText
  cases tree.read path with
  | error fault => simp
  | ok bytes =>
      dsimp only
      cases decoded : Encoding.decodeUtf8 bytes <;> simp [decoded]

theorem readText_unreported_iff :
    Unreported (readText tree path) ↔ ¬ ∃ text, HasText tree path text := by
  simp only [← readText_eq_ok_iff]
  unfold readText
  cases tree.read path with
  | error fault => simp [unreported_error_iff, LoadFault.IsConfiguration]
  | ok bytes =>
      dsimp only
      cases Encoding.decodeUtf8 bytes <;>
        simp [unreported_error_iff, not_unreported_ok, LoadFault.IsConfiguration]

/-- The value can be asked for members. -/
def HasMembers : Value → Prop
  | .map _ => True
  | .list _ => True
  | .str _ => True
  | _ => False

theorem namesSection_unreported_iff :
    Unreported (namesSection entries) ↔
      ∃ tool, Value.lookup? "tool".toList entries = some tool ∧ ¬ HasMembers tool := by
  unfold namesSection
  cases Value.lookup? "tool".toList entries with
  | none => simp [not_unreported_ok]
  | some tool =>
      cases tool <;>
        simp [unreported_error_iff, not_unreported_ok, LoadFault.IsConfiguration, HasMembers]

/-- The tool's section stands in a table and lists entries. -/
def HasSection (entries : List (Value × Value)) : Prop :=
  ∃ inside value, Value.lookup? "tool".toList entries = some (.map inside) ∧
    Value.lookup? toolSection inside = some value ∧ value.ListsEntries

theorem sectionEntries_unreported_iff (named : namesSection entries = .ok true) :
    Unreported (sectionEntries entries) ↔ ¬ HasSection entries := by
  unfold namesSection at named
  unfold sectionEntries HasSection
  cases found : Value.lookup? "tool".toList entries with
  | none => simp [unreported_error_iff, LoadFault.IsConfiguration]
  | some tool =>
      cases tool with
      | map inside =>
          rw [found] at named
          obtain ⟨value, isSection⟩ := Option.isSome_iff_exists.mp (Except.ok.inj named)
          simp only [isSection, ← Value.toEntries_isOk_iff, Option.some.injEq, Value.map.injEq]
          cases listed : value.toEntries <;>
            simp [isSection, listed, unreported_error_iff, not_unreported_ok,
              LoadFault.IsConfiguration]
      | _ => simp [unreported_error_iff, LoadFault.IsConfiguration]

/-- The ways in which a TOML file that holds settings is not reported. -/
inductive TomlEscapes (tree : FileTree) (path : Path) : Prop
  | noText (unread : ¬ ∃ text, HasText tree path text)
  | numberTooLong {text : Text} (hasText : HasText tree path text)
      (tooLong : Toml.parse text = .error .tooLong)
  | noMembers {text : Text} {entries : List (Value × Value)} {tool : Value}
      (hasText : HasText tree path text) (isToml : Toml.parse text = .ok entries)
      (found : Value.lookup? "tool".toList entries = some tool) (bare : ¬ HasMembers tool)
  | noSection {text : Text} {entries : List (Value × Value)}
      (hasText : HasText tree path text) (isToml : Toml.parse text = .ok entries)
      (named : namesSection entries = .ok true) (shapeless : ¬ HasSection entries)

theorem readToml_unreported_iff : Unreported (readToml tree path) ↔ TomlEscapes tree path := by
  rw [readToml, unreported_bind, readText_unreported_iff]
  simp only [readText_eq_ok_iff]
  constructor
  · rintro (noText | ⟨text, hasText, unreported⟩)
    · exact .noText noText
    · split at unreported
      · next => exact absurd trivial (unreported_error_iff.mp unreported)
      · next tooLong => exact .numberTooLong hasText tooLong
      · next entries isToml =>
          rcases unreported_bind.mp unreported with noMembers | ⟨named, isNamed, unreported⟩
          · obtain ⟨tool, found, bare⟩ := namesSection_unreported_iff.mp noMembers
            exact .noMembers hasText isToml found bare
          · cases named with
            | false =>
                rw [if_neg Bool.false_ne_true] at unreported
                split at unreported <;> exact absurd unreported (not_unreported_ok _)
            | true =>
                rcases unreported_bind.mp unreported with noSection | ⟨_, _, unreported⟩
                · exact .noSection hasText isToml isNamed
                    ((sectionEntries_unreported_iff isNamed).mp noSection)
                · exact absurd unreported (not_unreported_ok _)
  · intro escapes
    cases escapes with
    | noText noText => exact .inl noText
    | numberTooLong hasText tooLong =>
        refine .inr ⟨_, hasText, ?_⟩
        rw [tooLong]
        exact unreported_error_iff.mpr id
    | noMembers hasText isToml found bare =>
        refine .inr ⟨_, hasText, ?_⟩
        rw [isToml]
        exact unreported_bind.mpr (.inl (namesSection_unreported_iff.mpr ⟨_, found, bare⟩))
    | noSection hasText isToml named shapeless =>
        refine .inr ⟨_, hasText, ?_⟩
        rw [isToml]
        exact unreported_bind.mpr (.inr ⟨true, named, unreported_bind.mpr
          (.inl ((sectionEntries_unreported_iff named).mpr shapeless))⟩)

/-! ## Files in YAML -/

/-- The document says that it is a configuration, and its settings hold themselves. -/
def IsEndless (entries : List (Value × Value)) : Prop :=
  entryOf "kind" entries = .str "Config".toList ∧
    ∃ inside, entryOf "spec" entries = .map inside ∧ (Value.map inside).holdsItself = true

theorem documentSettings_unreported_iff {name : Text} :
    Unreported (documentSettings name entries) ↔ IsEndless entries := by
  unfold documentSettings IsEndless
  split
  · next isConfiguration =>
      rw [isConfiguration]
      split
      · next inside isMapping =>
          rw [isMapping]
          cases holds : (Value.map inside).holdsItself <;>
            simp [holds, not_unreported_ok, unreported_error_iff, LoadFault.IsConfiguration]
      · next other isOther =>
          have isNoMapping (inside : List (Value × Value)) : entryOf "spec" entries ≠ .map inside :=
            isOther inside
          split <;>
            simp [isNoMapping, not_unreported_ok, unreported_error_iff, LoadFault.IsConfiguration]
  · next other isOther =>
      refine iff_of_false ?_ fun ⟨isConfiguration, _⟩ => isOther isConfiguration
      exact fun unreported => absurd trivial (unreported_error_iff.mp unreported)

/-- The ways in which a YAML file that holds settings is not reported. -/
inductive YamlEscapes (tree : FileTree) (path : Path) : Prop
  | noText (unread : ¬ ∃ text, HasText tree path text)
  | noYaml {text : Text} {fault : Yaml.Fault} (hasText : HasText tree path text)
      (malformed : Yaml.parse (unifyLineEnds text) = .error fault)
  | endless {text : Text} {entries : List (Value × Value)} (hasText : HasText tree path text)
      (isYaml : Yaml.parse (unifyLineEnds text) = .ok (.map entries)) (isEndless : IsEndless entries)

theorem readYaml_unreported_iff : Unreported (readYaml tree path) ↔ YamlEscapes tree path := by
  rw [readYaml, unreported_bind, readText_unreported_iff]
  simp only [readText_eq_ok_iff]
  constructor
  · rintro (noText | ⟨text, hasText, unreported⟩)
    · exact .noText noText
    · split at unreported
      · next malformed => exact .noYaml hasText malformed
      · next isYaml => exact .endless hasText isYaml (documentSettings_unreported_iff.mp unreported)
      · exact absurd trivial (unreported_error_iff.mp unreported)
  · intro escapes
    cases escapes with
    | noText noText => exact .inl noText
    | noYaml hasText malformed =>
        refine .inr ⟨_, hasText, ?_⟩
        rw [malformed]
        exact unreported_error_iff.mpr id
    | endless hasText isYaml isEndless =>
        refine .inr ⟨_, hasText, ?_⟩
        rw [isYaml]
        exact documentSettings_unreported_iff.mpr isEndless

/-! ## The chosen file -/

/-- The ways in which the manifest is not reported when it is asked for the tool's section. -/
inductive ManifestEscapes (tree : FileTree) (path : Path) : Prop
  | noText (unread : ¬ ∃ text, HasText tree path text)
  | noToml {text : Text} {fault : Toml.Fault} (hasText : HasText tree path text)
      (malformed : Toml.parse text = .error fault)
  | noMembers {text : Text} {entries : List (Value × Value)} {tool : Value}
      (hasText : HasText tree path text) (isToml : Toml.parse text = .ok entries)
      (found : Value.lookup? "tool".toList entries = some tool) (bare : ¬ HasMembers tool)

theorem findManifest_unreported_iff :
    Unreported (findManifest tree root) ↔
      tree.fileExists (root.child Manifest.fileName) = true ∧
        ManifestEscapes tree (root.child Manifest.fileName) := by
  unfold findManifest
  extract_lets manifest
  cases tree.fileExists manifest with
  | false => simpa [pure, Except.pure] using not_unreported_ok (none : Option Path)
  | true =>
      rw [if_neg (by simp), unreported_bind, readText_unreported_iff]
      simp only [readText_eq_ok_iff, true_and]
      constructor
      · rintro (noText | ⟨text, hasText, unreported⟩)
        · exact .noText noText
        · split at unreported
          · next malformed => exact .noToml hasText malformed
          · next tooLong => exact .noToml hasText tooLong
          · next entries isToml =>
              rcases unreported_bind.mp unreported with noMembers | ⟨named, -, unreported⟩
              · obtain ⟨tool, found, bare⟩ := namesSection_unreported_iff.mp noMembers
                exact .noMembers hasText isToml found bare
              · split at unreported <;> exact absurd unreported (not_unreported_ok _)
      · intro escapes
        cases escapes with
        | noText noText => exact .inl noText
        | @noToml text fault hasText malformed =>
            refine .inr ⟨_, hasText, ?_⟩
            rw [malformed]
            cases fault <;> exact unreported_error_iff.mpr id
        | noMembers hasText isToml found bare =>
            refine .inr ⟨_, hasText, ?_⟩
            rw [isToml]
            exact unreported_bind.mpr (.inl (namesSection_unreported_iff.mpr ⟨_, found, bare⟩))

/-- Neither an argument nor the environment chooses a file. -/
def LooksForManifest (tree : FileTree) (environment : Environment) (given : Option Text) : Prop :=
  given.getD [] = [] ∧ ∀ named, environment.filled? "MODEL_DOC_CONFIG_PATH" = some named →
    tree.fileExists (Path.parse named) = false

theorem findManifest_behind_unreported_iff (records : List Log.Record) :
    Unreported (do return (← findManifest tree root, records)) ↔
      Unreported (findManifest tree root) := by
  rw [unreported_bind]
  exact or_iff_left fun ⟨_, _, unreported⟩ => not_unreported_ok _ unreported

theorem fromEnvironment_unreported_iff (isUngiven : given.getD [] = []) :
    Unreported (match environment.filled? "MODEL_DOC_CONFIG_PATH" with
      | none => do return (← findManifest tree root, [])
      | some named => do
        let path := Path.parse named
        if tree.fileExists path then return (some path, [])
        return (← findManifest tree root,
          [Log.Record.warning ("MODEL_DOC_CONFIG_PATH set but file not found: " ++ path.render)])) ↔
      LooksForManifest tree environment given ∧ Unreported (findManifest tree root) := by
  unfold LooksForManifest
  cases environment.filled? "MODEL_DOC_CONFIG_PATH" with
  | none => simpa [isUngiven] using findManifest_behind_unreported_iff []
  | some named =>
      dsimp only
      cases isThere : tree.fileExists (Path.parse named) with
      | true => simpa [isThere, pure, Except.pure] using not_unreported_ok _
      | false => simpa [isUngiven, isThere] using findManifest_behind_unreported_iff _

theorem findFile_unreported_iff :
    Unreported (findFile tree environment root given) ↔
      LooksForManifest tree environment given ∧ Unreported (findManifest tree root) := by
  unfold findFile
  cases given with
  | none => exact fromEnvironment_unreported_iff rfl
  | some text =>
      cases text with
      | nil => exact fromEnvironment_unreported_iff rfl
      | cons c rest =>
          have isGiven : ¬ LooksForManifest tree environment (some (c :: rest)) :=
            fun looks => absurd looks.1 (by simp)
          refine iff_of_false ?_ fun ⟨looks, _⟩ => isGiven looks
          intro unreported
          dsimp only at unreported
          split at unreported
          · exact absurd unreported (not_unreported_ok _)
          · exact absurd trivial (unreported_error_iff.mp unreported)

/-- The ways in which a chosen file is not reported. -/
def FileEscapes (tree : FileTree) (path : Path) : Prop :=
  if path.suffix = ".yaml".toList || path.suffix = ".yml".toList then YamlEscapes tree path
  else TomlEscapes tree path

theorem readFile_unreported_iff : Unreported (readFile tree path) ↔ FileEscapes tree path := by
  unfold readFile FileEscapes
  split
  · rw [unreported_bind, readYaml_unreported_iff]
    exact or_iff_left fun ⟨_, _, unreported⟩ => not_unreported_ok _ unreported
  · exact readToml_unreported_iff

/-! ## Loading -/

/-- The ways in which a configuration is not reported. -/
inductive Escapes (tree : FileTree) (environment : Environment) (root : Path) (given : Option Text) :
    Prop
  | manifest (looks : LooksForManifest tree environment given)
      (isThere : tree.fileExists (root.child Manifest.fileName) = true)
      (escapes : ManifestEscapes tree (root.child Manifest.fileName))
  | file {path : Path} {found : List Log.Record}
      (finds : findFile tree environment root given = .ok (some path, found))
      (escapes : FileEscapes tree path)
  | logging {path : Option Path} {found : List Log.Record} {file : List (Value × Value)}
      (finds : findFile tree environment root given = .ok (path, found))
      (gives : FileGives tree path file)
      (filled : (Environment.logValue (environment.substituteEntries file)).isEmpty = false)
      (shapeless : ¬ (Environment.logValue (environment.substituteEntries file)).ListsEntries)

theorem load_unreported_iff :
    Unreported (load tree environment root given) ↔ Escapes tree environment root given := by
  constructor
  · intro unreported
    have loading := loads tree environment root given
    generalize load tree environment root given = result at unreported loading
    cases loading with
    | notFound fails =>
        obtain ⟨looks, escapes⟩ := findFile_unreported_iff.mp
          ⟨_, fails, unreported_error_iff.mp unreported⟩
        obtain ⟨isThere, escapes⟩ := findManifest_unreported_iff.mp escapes
        exact .manifest looks isThere escapes
    | notRead finds fails =>
        exact .file finds
          (readFile_unreported_iff.mp ⟨_, fails, unreported_error_iff.mp unreported⟩)
    | shapeless finds gives fails =>
        obtain ⟨filled, shapeless⟩ := (Environment.override_isError_iff _ _).mp ⟨_, fails⟩
        exact .logging finds gives filled shapeless
    | invalid => exact absurd trivial (unreported_error_iff.mp unreported)
    | valid => exact absurd unreported (not_unreported_ok _)
  · intro escapes
    cases escapes with
    | manifest looks isThere escapes =>
        obtain ⟨fault, fails, unreported⟩ := findFile_unreported_iff.mpr
          ⟨looks, findManifest_unreported_iff.mpr ⟨isThere, escapes⟩⟩
        exact ⟨fault, load_of_notFound fails, unreported⟩
    | file finds escapes =>
        obtain ⟨fault, fails, unreported⟩ := readFile_unreported_iff.mpr escapes
        exact ⟨fault, load_of_notRead finds fails, unreported⟩
    | logging finds gives filled shapeless =>
        obtain ⟨fault, fails⟩ := (Environment.override_isError_iff _ _).mpr ⟨filled, shapeless⟩
        obtain ⟨read, loading⟩ := load_of_file finds gives
        rw [loading, fails]
        exact unreported_error_iff.mpr id

end SchemaDoc.Settings
