import SchemaDoc.Column
import SchemaDoc.Encoding.Codec

/-!
Contract: the settings of one invocation, and their validation.

Validation reads a dynamic value field by field, in the order of the fields, and goes on after an
issue; keys that are no field come last, in the order of the value. A field that is absent has its
default. Truth values may be written as words or as the numbers zero and one, and texts as the bytes of
their UTF-8 form.
-/

namespace SchemaDoc

/-- How the log is written. -/
structure LogSettings where
  level : Text
  format : Text
  useColor : Bool
  includeTimestamp : Bool
deriving DecidableEq, Repr

namespace LogSettings

def levels : List Text :=
  ["TRACE".toList, "DEBUG".toList, "INFO".toList, "WARNING".toList, "ERROR".toList,
   "CRITICAL".toList]

def formats : List Text :=
  ["console".toList, "json".toList, "structured".toList, "rich".toList]

def standard : LogSettings := ⟨"INFO", "structured", true, false⟩

end LogSettings

structure Settings where
  databaseUrl : Option Text
  driver : Option Text
  modelsPackage : Text
  modulesDir : Text
  baseClass : Option Text
  sort : SortOrder
  dryRun : Bool
  excludeRelations : List Text
  logging : LogSettings
deriving DecidableEq, Repr

/-- A step on the way to a faulty value. -/
inductive PlaceStep where
  | key (name : Text)
  | index (number : Int)
deriving DecidableEq, Repr

/-- What is wrong with a value. -/
inductive IssueKind where
  | notText
  /-- The bytes spell no text. -/
  | undecodable
  | notTruth
  | unknownTruth
  | notList
  | notMapping
  | unknownOrder
  | unknownLiteral
  | unknownKey
  | keyNotText
deriving DecidableEq, Repr

/-- A faulty value: the way to it, and what is wrong. -/
structure Issue where
  place : List PlaceStep
  kind : IssueKind
deriving DecidableEq, Repr

/-- The way to a faulty value, with dots between its steps. -/
def Issue.placeText (issue : Issue) : Text :=
  Text.join ['.'] (issue.place.map fun
    | .key name => name
    | .index number => Text.ofInt number)

namespace Settings

def standard : Settings where
  databaseUrl := none
  driver := none
  modelsPackage := "app.models"
  modulesDir := "modules"
  baseClass := none
  sort := .byType
  dryRun := false
  excludeRelations := []
  logging := .standard

/-- The names of the fields. -/
def fieldNames : List Text :=
  ["database_url".toList, "driver".toList, "models_package".toList, "modules_dir".toList,
   "base_class".toList, "sort".toList, "dry_run".toList, "exclude_relations".toList,
   "logging".toList]

/-! ## Single values -/

/-- The words for true and false, in lowercase. -/
def trueWords : List Text :=
  ["1".toList, "on".toList, "t".toList, "true".toList, "y".toList, "yes".toList]

def falseWords : List Text :=
  ["0".toList, "off".toList, "f".toList, "false".toList, "n".toList, "no".toList]

/-- A truth value written as an integer of 64 bits. -/
def truthOfInt (value : Int) : Except IssueKind Bool :=
  if value = 0 then .ok false
  else if value = 1 then .ok true
  else .error .unknownTruth

/-- Two to the power of 63. -/
def wordLimit : Int := Int.ofNat (Nat.pow 2 63)

/-- The truth value that a word stands for, in letters of either case. -/
def truthOfWord (text : Text) : Except IssueKind Bool :=
  let word := text.map Char.toLower
  if trueWords.contains word then .ok true
  else if falseWords.contains word then .ok false
  else .error .unknownTruth

/-- The truth value that a value stands for. -/
def truthOf : Value → Except IssueKind Bool
  | .bool value => .ok value
  | .str value => truthOfWord value
  | .bytes stored =>
    match Encoding.decodeUtf8 stored with
    | some text => truthOfWord text
    | none => .error .unknownTruth
  | .int value => if -wordLimit ≤ value && value < wordLimit then truthOfInt value else .error .notTruth
  | .real value =>
    match value.toInt? with
    | some whole =>
      if -wordLimit < whole && whole < wordLimit then truthOfInt whole else .error .notTruth
    | none => .error .notTruth
  | _ => .error .notTruth

def textOf : Value → Except IssueKind Text
  | .str value => .ok value
  | .bytes stored =>
    match Encoding.decodeUtf8 stored with
    | some text => .ok text
    | none => .error .undecodable
  | _ => .error .notText

/-- A text, or nothing. -/
def optionalTextOf : Value → Except IssueKind (Option Text)
  | .null => .ok none
  | value => (textOf value).map some

def orderOf : Value → Except IssueKind SortOrder
  | .str value =>
    match SortOrder.ofLabel? value with
    | some order => .ok order
    | none => .error .unknownOrder
  | _ => .error .unknownOrder

/-- One of the given words. -/
def literalOf (words : List Text) : Value → Except IssueKind Text
  | .str value => if words.contains value then .ok value else .error .unknownLiteral
  | _ => .error .unknownLiteral

/-! ## Fields -/

/-- A value read so far with the issues met: the default stands in for a faulty value. -/
structure Checked (α : Type) where
  value : α
  issues : List Issue

/-- Reads a field of a mapping; an absent one has its default. -/
def readField {α : Type} (entries : List (Value × Value)) (place : List PlaceStep) (name : String)
    (default : α) (read : Value → Except IssueKind α) : Checked α :=
  match Value.lookup? name.toList entries with
  | none => ⟨default, []⟩
  | some value =>
    match read value with
    | .ok found => ⟨found, []⟩
    | .error kind => ⟨default, [⟨place ++ [.key name.toList], kind⟩]⟩

/-- The items of a value that can be read as a list. -/
def itemsOf? : Value → Option (List Value)
  | .list items => some items
  | .members items => some items
  | .pair first second => some [first, second]
  | _ => none

/-- Reads the texts of a list; each faulty item is an issue. -/
def readTexts (name : Text) : Nat → List Value → Checked (List Text)
  | _, [] => ⟨[], []⟩
  | index, item :: rest =>
    let others := readTexts name (index + 1) rest
    match textOf item with
    | .ok text => ⟨text :: others.value, others.issues⟩
    | .error kind =>
      ⟨others.value, ⟨[.key name, .index index], kind⟩ :: others.issues⟩

/-- Reads the names of the relationships that are left out. -/
def readExcluded (entries : List (Value × Value)) : Checked (List Text) :=
  let name := "exclude_relations".toList
  match Value.lookup? name entries with
  | none => ⟨[], []⟩
  | some value =>
    match itemsOf? value with
    | some items => readTexts name 0 items
    | none => ⟨[], [⟨[.key name], .notList⟩]⟩

/-- Reads the settings of the log; keys that are no field are passed over. -/
def readLogging (entries : List (Value × Value)) : Checked LogSettings :=
  let name := "logging".toList
  match Value.lookup? name entries with
  | none => ⟨.standard, []⟩
  | some (.map inside) =>
    let level := readField inside [.key name] "level" LogSettings.standard.level
      (literalOf LogSettings.levels)
    let format := readField inside [.key name] "format" LogSettings.standard.format
      (literalOf LogSettings.formats)
    let useColor := readField inside [.key name] "use_color" LogSettings.standard.useColor truthOf
    let timestamp := readField inside [.key name] "include_timestamp"
      LogSettings.standard.includeTimestamp truthOf
    ⟨⟨level.value, format.value, useColor.value, timestamp.value⟩,
      level.issues ++ format.issues ++ useColor.issues ++ timestamp.issues⟩
  | some _ => ⟨.standard, [⟨[.key name], .notMapping⟩]⟩

/-- The step of a key that is no text. -/
def stepOf : Value → PlaceStep
  | .int value => .index value
  | .bool value => .index (if value then 1 else 0)
  | value => .key value.display

/-- The issues of keys that are no field. -/
def strayKeys : List (Value × Value) → List Issue
  | [] => []
  | (.str name, _) :: rest =>
    if fieldNames.contains name then strayKeys rest
    else ⟨[.key name], .unknownKey⟩ :: strayKeys rest
  | (key, _) :: rest => ⟨[stepOf key], .keyNotText⟩ :: strayKeys rest

/-- The settings that the entries of a mapping give, with all issues. -/
def check (entries : List (Value × Value)) : Checked Settings :=
  let databaseUrl := readField entries [] "database_url" none optionalTextOf
  let driver := readField entries [] "driver" none optionalTextOf
  let modelsPackage := readField entries [] "models_package" standard.modelsPackage textOf
  let modulesDir := readField entries [] "modules_dir" standard.modulesDir textOf
  let baseClass := readField entries [] "base_class" none optionalTextOf
  let sort := readField entries [] "sort" standard.sort orderOf
  let dryRun := readField entries [] "dry_run" standard.dryRun truthOf
  let excluded := readExcluded entries
  let logging := readLogging entries
  { value := {
      databaseUrl := databaseUrl.value
      driver := driver.value
      modelsPackage := modelsPackage.value
      modulesDir := modulesDir.value
      baseClass := baseClass.value
      sort := sort.value
      dryRun := dryRun.value
      excludeRelations := excluded.value
      logging := logging.value }
    issues := databaseUrl.issues ++ driver.issues ++ modelsPackage.issues ++ modulesDir.issues ++
      baseClass.issues ++ sort.issues ++ dryRun.issues ++ excluded.issues ++ logging.issues ++
      strayKeys entries }

/-- The settings that a value gives, or everything that is wrong with it. -/
def validate : Value → Except (List Issue) Settings
  | .map entries =>
    let checked := check entries
    if checked.issues.isEmpty then .ok checked.value else .error checked.issues
  | _ => .error [⟨[], .notMapping⟩]

/-- The settings as a value that validates to them. -/
def toValue (settings : Settings) : Value :=
  let optional (value : Option Text) : Value := (value.map Value.str).getD .null
  let entry (name : String) (value : Value) : Value × Value := (.str name.toList, value)
  .map
    [entry "database_url" (optional settings.databaseUrl),
     entry "driver" (optional settings.driver),
     entry "models_package" (.str settings.modelsPackage),
     entry "modules_dir" (.str settings.modulesDir),
     entry "base_class" (optional settings.baseClass),
     entry "sort" (.str settings.sort.label),
     entry "dry_run" (.bool settings.dryRun),
     entry "exclude_relations" (.list (settings.excludeRelations.map Value.str)),
     entry "logging" (.map
       [entry "level" (.str settings.logging.level),
        entry "format" (.str settings.logging.format),
        entry "use_color" (.bool settings.logging.useColor),
        entry "include_timestamp" (.bool settings.logging.includeTimestamp)])]

/-- The address of the database; an empty one is missing. -/
def requireDatabaseUrl (settings : Settings) : Except Fault Text :=
  match settings.databaseUrl with
  | some (c :: rest) => .ok (c :: rest)
  | _ =>
    .error (.configuration "database_url"
      "no database URL configured; pass --database-url or set MODEL_DOC_DATABASE_URL")

end Settings

end SchemaDoc
