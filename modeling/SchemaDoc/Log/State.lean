import SchemaDoc.Log.Handler
import SchemaDoc.Settings.Environment

/-!
Contract: the log as it is set up, and what it writes.

Owns:
- the handlers, those of this library among handlers of others, which stay untouched;
- the configuration that is recorded as current, with which a request is compared;
- the set-up from the environment, when a logger is asked for before any other set-up.

A request whose level is refused takes the library's own handlers away and records nothing.
-/

namespace SchemaDoc.Log

/-- What is recorded about the set-up. -/
inductive Status where
  | unconfigured
  /-- The log counts as set up, without settings and without handlers. -/
  | silenced
  | configured (configuration : Configuration)
deriving Repr

structure State where
  handlers : List Handler
  /-- The numbers of the library's own handlers. -/
  own : List Nat
  /-- The number of the next handler. -/
  nextId : Nat
  status : Status
deriving Repr

namespace State

def start : State := ⟨[], [], 0, .unconfigured⟩

/-- The state of a log that is not to be set up by itself. -/
def silent : State := { start with status := .silenced }

/-- The configuration is the one recorded as current. -/
def isCurrent (state : State) (configuration : Configuration) : Bool :=
  match state.status with
  | .configured current => configuration.same current
  | _ => false

/-- The log without the library's own handlers. -/
def removeOwn (state : State) : State :=
  { state with
    handlers := state.handlers.filter fun handler => !state.own.contains handler.id
    own := [] }

/-- The log with a new handler of the library. -/
def install (state : State) (configuration : Configuration) (threshold : Nat) : State :=
  { handlers := state.handlers ++
      [{ id := state.nextId
         threshold
         layout := .ofFormat configuration.format
         isTimed := !configuration.includeTimestamp.isEmpty
         shownTime := none }]
    own := [state.nextId]
    nextId := state.nextId + 1
    status := .configured configuration }

/-- Sets the log up, unless it is already set up in this way. -/
def configure (state : State) (configuration : Configuration) (force : Bool) :
    State × Except Fault Unit :=
  if !force && state.isCurrent configuration then (state, .ok ())
  else
    let cleared := state.removeOwn
    match Severity.ofValue configuration.level with
    | .error fault => ({ cleared with nextId := cleared.nextId + 1 }, .error fault)
    | .ok least => (cleared.install configuration least.number, .ok ())

/-- Sets the log up by named settings. -/
def configureBy (state : State) (entries : List (Text × Value)) : State × Except Fault Unit :=
  match Configuration.ofEntries entries with
  | .error fault => (state, .error fault)
  | .ok (configuration, force) => state.configure configuration force

/-- The configuration that the environment asks for. -/
def configurationFrom (environment : Environment) : Configuration :=
  let level := (environment.get? "MODEL_DOC_LOG_LEVEL").getD "INFO"
  let format := (environment.get? "MODEL_DOC_LOG_FORMAT").getD "structured"
  { Configuration.standard with
    level := .str (Text.upper level)
    format := .str (Text.lower format) }

/-- Sets the log up by the environment, if it is not set up yet. -/
def ensureConfigured (state : State) (environment : Environment) : State × Except Fault Unit :=
  match state.status with
  | .unconfigured => state.configure (configurationFrom environment) false
  | _ => (state, .ok ())

/-- What the handlers write for an entry. -/
def emit (state : State) (stamp : Stamp) (entry : Entry) : State × List (Stream × Text) :=
  let reached (handler : Handler) : Bool := handler.threshold ≤ entry.severity.number
  ({ state with
      handlers := state.handlers.map fun handler =>
        if reached handler then handler.after stamp else handler },
    (state.handlers.filter reached).map fun handler =>
      (handler.layout.stream, handler.render stamp entry ++ ['\n']))

/-- What the handlers write for a record of the library's own. -/
def record (source : Text) (stamp : Stamp) (state : State) (record : Record) :
    State × List (Stream × Text) :=
  state.emit stamp ⟨source, .ofLevel record.level, record.message⟩

/-- The message of an entry; placeholders are filled in only when there are arguments. -/
def messageOf (text : Text) (arguments : List Value) : Except Fault Text :=
  if arguments.isEmpty then .ok text
  else (Template.fill text arguments).mapError .message

/-- Writes an entry whose level and arguments are given as values. A log without handlers looks at
neither, and one that no handler is open for does not look at the arguments. -/
def write (state : State) (stamp : Stamp) (source : Text) (level : Value) (text : Text)
    (arguments : List Value) : State × Except Fault (List (Stream × Text)) :=
  if state.handlers.isEmpty then (state, .ok [])
  else
    match Severity.ofValue level with
    | .error fault => (state, .error fault)
    | .ok severity =>
      if state.handlers.all fun handler => severity.number < handler.threshold then
        (state, .ok [])
      else
        match messageOf text arguments with
        | .error fault => (state, .error fault)
        | .ok message =>
          let (state, written) := state.emit stamp ⟨source, severity, message⟩
          (state, .ok written)

end State

end SchemaDoc.Log
