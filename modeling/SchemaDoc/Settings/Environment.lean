import SchemaDoc.Flag
import SchemaDoc.Log.Record
import SchemaDoc.Value

/-!
Contract: what the environment contributes to the settings.

Owns:
- placeholders `${NAME}` in texts, which stand for the value of a variable that is set; values are
  put in as they are and not searched again;
- the variables that override settings, which take effect when they are not empty.
-/

namespace SchemaDoc

/-- The variables that are set. -/
abbrev Environment := List (Text × Text)

namespace Environment

/-- The value of a variable. -/
def get? (environment : Environment) (name : Text) : Option Text :=
  (environment.find? (·.1 = name)).map Prod.snd

/-- The value of a variable that is set and not empty. -/
def filled? (environment : Environment) (name : String) : Option Text :=
  match environment.get? name.toList with
  | some (c :: rest) => some (c :: rest)
  | _ => none

/-! ## Placeholders -/

/-- The name of a placeholder whose opening was read, and what follows its closing brace. The name
is not empty and holds no closing brace. -/
def placeholder? (text : Text) : Option (Text × Text) :=
  let name := text.takeWhile (· != '\x7d')
  match text.drop name.length with
  | _ :: rest => if name.isEmpty then none else some (name, rest)
  | [] => none

theorem length_of_placeholder? {text name rest : Text}
    (found : placeholder? text = some (name, rest)) : rest.length < text.length := by
  unfold placeholder? at found
  simp only at found
  split at found
  · rename_i dropped
    split at found
    · contradiction
    · simp only [Option.some.injEq, Prod.mk.injEq] at found
      have measured := congrArg List.length dropped
      rw [found.2] at measured
      simp only [List.length_drop, List.length_cons] at measured
      omega
  · contradiction

/-- A text with the placeholders of set variables replaced. -/
def substitute (environment : Environment) : Text → Text
  | [] => []
  | '$' :: '\x7b' :: rest =>
    match found : placeholder? rest with
    | some (name, after) =>
      have := length_of_placeholder? found
      match environment.get? name with
      | some value => value ++ substitute environment after
      | none => '$' :: '\x7b' :: name ++ '\x7d' :: substitute environment after
    | none => '$' :: substitute environment ('\x7b' :: rest)
  | c :: rest => c :: substitute environment rest
termination_by text => text.length
decreasing_by all_goals simp_all <;> omega

mutual

/-- A value with the placeholders in its texts replaced; keys stay. -/
def substituteValue (environment : Environment) : Value → Value
  | .str text => .str (substitute environment text)
  | .list items => .list (substituteItems environment items)
  | .map entries => .map (substituteEntries environment entries)
  | other => other

def substituteItems (environment : Environment) : List Value → List Value
  | [] => []
  | item :: rest => substituteValue environment item :: substituteItems environment rest

def substituteEntries (environment : Environment) : List (Value × Value) → List (Value × Value)
  | [] => []
  | (key, value) :: rest =>
    (key, substituteValue environment value) :: substituteEntries environment rest

end

/-! ## Overriding variables -/

/-- The address of the database: the tool's own variable comes before the file, and the general
one stands in for a setting that the file does not have. -/
def overrideDatabase (environment : Environment) (entries : List (Value × Value)) :
    List (Value × Value) :=
  match environment.filled? "MODEL_DOC_DATABASE_URL" with
  | some url => Value.assign "database_url" (.str url) entries
  | none =>
    match Value.lookup? "database_url".toList entries, environment.filled? "DATABASE_URL" with
    | none, some url => Value.assign "database_url" (.str url) entries
    | _, _ => entries

def overrideDriver (environment : Environment) (entries : List (Value × Value)) :
    List (Value × Value) :=
  match environment.filled? "MODEL_DOC_DRIVER" with
  | some driver => Value.assign "driver" (.str driver) entries
  | none => entries

/-- The settings of the log with the environment's values, and a warning about a flag that cannot
be read. -/
def overrideLogging (environment : Environment) (entries : List (Value × Value)) :
    List (Value × Value) × List Log.Record :=
  let entries := match environment.filled? "MODEL_DOC_LOG_LEVEL" with
    | some level => Value.assign "level" (.str (Text.upper level)) entries
    | none => entries
  let entries := match environment.filled? "MODEL_DOC_LOG_FORMAT" with
    | some format => Value.assign "format" (.str (Text.lower format)) entries
    | none => entries
  match environment.filled? "MODEL_DOC_LOG_COLOR" with
  | none => (entries, [])
  | some word =>
    match Flag.parse word with
    | .ok value => (Value.assign "use_color" (.bool value) entries, [])
    | .error reason =>
      (entries, [.warning ("Invalid MODEL_DOC_LOG_COLOR value: " ++ reason)])

/-- The settings with the environment's values. The settings of the log may be anything that
lists entries; they are set only when there are any. -/
def override (environment : Environment) (entries : List (Value × Value)) :
    Except Value.ShapeFault (List (Value × Value) × List Log.Record) := do
  let logging := (Value.lookup? "logging".toList entries).getD .null
  let inside ← if logging.isEmpty then pure [] else logging.toEntries
  let entries := environment.overrideDriver (environment.overrideDatabase entries)
  let (inside, records) := environment.overrideLogging inside
  return (if inside.isEmpty then entries else Value.assign "logging" (.map inside) entries, records)

end Environment

end SchemaDoc
