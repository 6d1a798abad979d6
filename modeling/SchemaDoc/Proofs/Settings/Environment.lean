import SchemaDoc.Proofs.Value
import SchemaDoc.Settings.Environment

/-!
Contract: what the environment makes of the entries of a settings file.

Each variable that counts sets one key, and all other keys are found as before (`override_eq_ok`). The
only values that cannot be dealt with are entries for the log that are not empty and list nothing
(`override_isError_iff`).
-/

namespace SchemaDoc.Environment

open Value (setWhen lookup?_setWhen)

/-! ## Keys that variables set -/

theorem overrideDatabase_eq (environment : Environment) (file : List (Value × Value)) :
    environment.overrideDatabase file =
      setWhen "database_url"
        (((environment.filled? "MODEL_DOC_DATABASE_URL").map Value.str).or
          (if (Value.lookup? "database_url".toList file).isSome then none
            else (environment.filled? "DATABASE_URL").map Value.str)) file := by
  unfold overrideDatabase
  cases environment.filled? "MODEL_DOC_DATABASE_URL" with
  | some url => rfl
  | none =>
      cases Value.lookup? "database_url".toList file with
      | some given => rfl
      | none => cases environment.filled? "DATABASE_URL" <;> rfl

theorem overrideDriver_eq (environment : Environment) (file : List (Value × Value)) :
    environment.overrideDriver file =
      setWhen "driver" ((environment.filled? "MODEL_DOC_DRIVER").map Value.str) file := by
  unfold overrideDriver
  cases environment.filled? "MODEL_DOC_DRIVER" <;> rfl

theorem overrideLogging_eq (environment : Environment) (inside : List (Value × Value)) :
    (environment.overrideLogging inside).1 =
      setWhen "use_color"
        (((environment.filled? "MODEL_DOC_LOG_COLOR").bind fun word =>
          (Flag.parse word).toOption).map Value.bool)
        (setWhen "format"
          (((environment.filled? "MODEL_DOC_LOG_FORMAT").map Text.lower).map Value.str)
          (setWhen "level"
            (((environment.filled? "MODEL_DOC_LOG_LEVEL").map Text.upper).map Value.str)
            inside)) := by
  unfold overrideLogging
  cases environment.filled? "MODEL_DOC_LOG_COLOR" with
  | none =>
      cases environment.filled? "MODEL_DOC_LOG_LEVEL" <;>
        cases environment.filled? "MODEL_DOC_LOG_FORMAT" <;> rfl
  | some word =>
      simp only [Option.bind_some]
      cases Flag.parse word <;>
        cases environment.filled? "MODEL_DOC_LOG_LEVEL" <;>
          cases environment.filled? "MODEL_DOC_LOG_FORMAT" <;> rfl

/-! ## All overriding variables -/

/-- The value under the key of the log. -/
def logValue (file : List (Value × Value)) : Value :=
  (Value.lookup? "logging".toList file).getD .null

/-- The entries for the log: those that the value under their key lists. An empty value, of whatever
kind, lists none. -/
def ListsLog (file inside : List (Value × Value)) : Prop :=
  if (logValue file).isEmpty then inside = [] else (logValue file).toEntries = .ok inside

/-- The entries of a file and those for the log with the environment's values. -/
def overrideBoth (environment : Environment) (file inside : List (Value × Value)) :
    List (Value × Value) :=
  setWhen "logging"
    (if (environment.overrideLogging inside).1.isEmpty then none
      else some (.map (environment.overrideLogging inside).1))
    (environment.overrideDriver (environment.overrideDatabase file))

theorem override_eq (environment : Environment) (file : List (Value × Value)) :
    environment.override file =
      (if (logValue file).isEmpty then .ok [] else (logValue file).toEntries).map fun inside =>
        (environment.overrideBoth file inside, (environment.overrideLogging inside).2) := by
  have closes (inside entries : List (Value × Value)) :
      (if inside.isEmpty then entries else Value.assign "logging" (.map inside) entries) =
        setWhen "logging" (if inside.isEmpty then none else some (.map inside)) entries := by
    split <;> rfl
  unfold override
  extract_lets logging entries
  change _ = (if logging.isEmpty then .ok [] else logging.toEntries).map _
  split
  · exact congrArg (fun after => Except.ok (after, _)) (closes _ _)
  · cases logging.toEntries with
    | ok inside => exact congrArg (fun after => Except.ok (after, _)) (closes _ _)
    | error fault => rfl

theorem override_eq_ok {environment : Environment} {file after : List (Value × Value)}
    {records : List Log.Record} (overrides : environment.override file = .ok (after, records)) :
    ∃ inside, ListsLog file inside ∧ after = environment.overrideBoth file inside := by
  rw [override_eq] at overrides
  unfold ListsLog
  by_cases isEmpty : (logValue file).isEmpty
  · rw [if_pos isEmpty] at overrides
    exact ⟨[], by rw [if_pos isEmpty], (Prod.mk.inj (Except.ok.inj overrides)).1.symm⟩
  · rw [if_neg isEmpty] at overrides
    cases listed : (logValue file).toEntries with
    | error fault =>
        rw [listed] at overrides
        exact absurd overrides (by simp [Except.map])
    | ok inside =>
        rw [listed] at overrides
        exact ⟨inside, by rw [if_neg isEmpty], (Prod.mk.inj (Except.ok.inj overrides)).1.symm⟩

theorem lookup?_overrideBoth (environment : Environment) (file inside : List (Value × Value))
    (key : Text) :
    Value.lookup? key (environment.overrideBoth file inside) =
      if "logging".toList = key then
        (if (environment.overrideLogging inside).1.isEmpty then none
          else some (.map (environment.overrideLogging inside).1)).or (Value.lookup? key file)
      else if "driver".toList = key then
        ((environment.filled? "MODEL_DOC_DRIVER").map Value.str).or (Value.lookup? key file)
      else if "database_url".toList = key then
        (((environment.filled? "MODEL_DOC_DATABASE_URL").map Value.str).or
          (if (Value.lookup? key file).isSome then none
            else (environment.filled? "DATABASE_URL").map Value.str)).or (Value.lookup? key file)
      else Value.lookup? key file := by
  rw [overrideBoth, overrideDriver_eq, overrideDatabase_eq, lookup?_setWhen, lookup?_setWhen,
    lookup?_setWhen]
  by_cases isLogging : "logging".toList = key
  · subst isLogging
    rw [if_pos rfl, if_pos rfl, if_neg (show "driver".toList ≠ "logging".toList by decide),
      if_neg (show "database_url".toList ≠ "logging".toList by decide)]
  · rw [if_neg isLogging, if_neg isLogging]
    by_cases isDriver : "driver".toList = key
    · subst isDriver
      rw [if_pos rfl, if_pos rfl, if_neg (show "database_url".toList ≠ "driver".toList by decide)]
    · rw [if_neg isDriver, if_neg isDriver]
      split
      · next isUrl => rw [isUrl]
      · rfl

theorem lookup?_overrideLogging (environment : Environment) (inside : List (Value × Value))
    (key : Text) :
    Value.lookup? key (environment.overrideLogging inside).1 =
      if "use_color".toList = key then
        (((environment.filled? "MODEL_DOC_LOG_COLOR").bind fun word =>
          (Flag.parse word).toOption).map Value.bool).or (Value.lookup? key inside)
      else if "format".toList = key then
        (((environment.filled? "MODEL_DOC_LOG_FORMAT").map Text.lower).map Value.str).or
          (Value.lookup? key inside)
      else if "level".toList = key then
        (((environment.filled? "MODEL_DOC_LOG_LEVEL").map Text.upper).map Value.str).or
          (Value.lookup? key inside)
      else Value.lookup? key inside := by
  rw [overrideLogging_eq, lookup?_setWhen, lookup?_setWhen, lookup?_setWhen]
  by_cases isColor : "use_color".toList = key
  · subst isColor
    rw [if_pos rfl, if_pos rfl, if_neg (show "format".toList ≠ "use_color".toList by decide),
      if_neg (show "level".toList ≠ "use_color".toList by decide)]
  · rw [if_neg isColor, if_neg isColor]
    by_cases isFormat : "format".toList = key
    · subst isFormat
      rw [if_pos rfl, if_pos rfl, if_neg (show "level".toList ≠ "format".toList by decide)]
    · rw [if_neg isFormat, if_neg isFormat]

/-- The environment fails at entries for the log that are not empty and list nothing, and at nothing
else. -/
theorem override_isError_iff (environment : Environment) (file : List (Value × Value)) :
    (∃ fault, environment.override file = .error fault) ↔
      (logValue file).isEmpty = false ∧ ¬ (logValue file).ListsEntries := by
  rw [override_eq, ← Value.toEntries_isOk_iff]
  cases (logValue file).isEmpty with
  | true => simp [Except.map]
  | false => cases (logValue file).toEntries <;> simp [Except.map]

end SchemaDoc.Environment
