import SchemaDoc.Log.Record
import SchemaDoc.Settings.Basic
import SchemaDoc.Template.Fill

/-!
Contract: what the log is asked to be.

The values of a configuration are kept as they were given, so that two configurations can be
compared; what they mean is decided when the log is set up. Levels are given by name, or by the
number that entries have to reach.
-/

namespace SchemaDoc.Log

/-- Why the log refuses a request. -/
inductive Fault where
  | unknownSetting (name : Text)
  | unknownLevel
  | negativeLevel
  /-- A level that is neither a name nor a number. -/
  | notLevel
  /-- A message whose placeholders cannot be filled in. -/
  | message (fault : Template.Fault)
deriving DecidableEq, Repr

/-- The settings of the log, as given. -/
structure Configuration where
  level : Value
  format : Value
  useColor : Value
  includeTimestamp : Value
deriving Repr

namespace Configuration

/-- The configuration that stands in for settings that are not given. -/
def standard : Configuration where
  level := .str "INFO"
  format := .str "structured"
  useColor := .bool true
  includeTimestamp := .bool true

def ofSettings (settings : LogSettings) : Configuration :=
  ⟨.str settings.level, .str settings.format, .bool settings.useColor,
    .bool settings.includeTimestamp⟩

/-- The configuration with a named setting changed, and whether it is to be set up anew in any
case. -/
def assign (name : Text) (value : Value) (request : Configuration × Bool) :
    Except Fault (Configuration × Bool) :=
  let (configuration, force) := request
  if name = "level".toList then .ok ({ configuration with level := value }, force)
  else if name = "format".toList then .ok ({ configuration with format := value }, force)
  else if name = "use_color".toList then .ok ({ configuration with useColor := value }, force)
  else if name = "include_timestamp".toList then
    .ok ({ configuration with includeTimestamp := value }, force)
  else if name = "force_reconfigure".toList then .ok (configuration, !value.isEmpty)
  else .error (.unknownSetting name)

/-- The configuration that named settings ask for, the standard one standing in. -/
def ofEntries (entries : List (Text × Value)) : Except Fault (Configuration × Bool) :=
  entries.foldlM (fun request entry => assign entry.1 entry.2 request) (standard, false)

/-- The two configurations ask for the same. -/
def same (left right : Configuration) : Bool :=
  left.level.same right.level && left.format.same right.format &&
    left.useColor.same right.useColor && left.includeTimestamp.same right.includeTimestamp

end Configuration

/-- A weight as entries show it. -/
structure Severity where
  name : Text
  number : Nat
deriving DecidableEq, Repr

namespace Severity

def ofLevel (level : Level) : Severity :=
  ⟨level.name, level.number⟩

/-- The weight of a name. -/
def ofName? (name : Text) : Option Severity :=
  (Level.all.find? (·.name = name)).map ofLevel

/-- The weight of a number that has no name. -/
def ofNumber (number : Int) : Except Fault Severity :=
  if number < 0 then .error .negativeLevel
  else .ok ⟨"Level " ++ Text.ofInt number, number.toNat⟩

/-- The weight that a value names: by a known name, or by a number. -/
def ofValue : Value → Except Fault Severity
  | .str name => ((ofName? name).map Except.ok).getD (.error .unknownLevel)
  | .int number => ofNumber number
  | .bool truth => ofNumber (if truth then 1 else 0)
  | _ => .error .notLevel

end Severity

end SchemaDoc.Log
