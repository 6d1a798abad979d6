import SchemaDoc.CommandLine.Session

/-!
Contract: the command that documents the models of a project.

Owns:
- the order of its parts: options, settings, log, database, run, summary;
- what each part prints, and which of its faults are reported.

A run that is asked for one model and reports it as skipped prints no summary.
-/

namespace SchemaDoc.CommandLine

open Generation

/-- What a command works on. -/
structure Site where
  tree : FileTree
  world : Program.World
  environment : Environment
  /-- The database files. -/
  databases : List (Path × Database)
  log : Log.State
  /-- Where its output is shown. -/
  screen : Console.Screen
  /-- How the faults of settings are put into words. -/
  wording : Settings.Wording

namespace Site

/-- The database at a place, or one in memory. A file that does not exist is created empty, when
its directory exists; a file of another kind is no database. -/
def database (site : Site) (place : Option Path) : Database :=
  let empty : Database := .ofFile []
  let unreachable : Database := { empty with isReachable := false }
  match place with
  | none => empty
  | some place =>
    let path := FileTree.resolve place
    match site.databases.find? (·.1 = path) with
    | some (_, database) => database
    | none =>
      if !site.tree.isDirectory path.parent then unreachable
      else
        match site.tree.read path with
        | .ok bytes => if bytes.isEmpty then empty else unreachable
        | .error .missing => empty
        | .error _ => unreachable

end Site

structure Outcome where
  site : Site
  ending : Ending
  /-- What the command wrote, in order. -/
  written : List Written

/-- What the command printed, without the log. -/
def Outcome.output (outcome : Outcome) : Text :=
  (outcome.written.filterMap Written.printed?).flatten

/-! ## Parts of the command -/

/-- The message of a fault of the settings that is reported; others end the command. -/
def loadMessage? (wording : Settings.Wording) : Settings.LoadFault → Option Text
  | .reported fault => some fault.message
  | .invalid source entries issues =>
    some (Fault.configuration source (wording.invalid entries issues)).message
  | .notToml name text => some (Fault.configuration name (wording.notToml text)).message
  | _ => none

/-- The settings in force, the log being set up by them unless an option did it. -/
def loadSettings (stamp : Log.Stamp) (site : Site) (root : Path) (logIsChosen : Bool)
    (options : Options) : Act Settings := do
  let given := options.config.map fun path => (Path.parse path).render
  match Settings.load site.tree site.environment root given with
  | .error fault =>
    match loadMessage? site.wording fault with
    | some message => Act.fail message
    | none => Act.crash (.settings fault)
  | .ok (settings, records) =>
    Act.record stamp records
    if !logIsChosen then Act.configureLog (.ofSettings settings.logging)
    match Options.sortWarning? options.sort with
    | some warning => Act.printMarkup warning
    | none => pure ()
    return options.override settings

/-- The database that the settings name. -/
def openDatabase (site : Site) (settings : Settings) : Act Database :=
  match settings.requireDatabaseUrl with
  | .error fault => Act.fail fault.message
  | .ok url =>
    match Address.file? url with
    | .ok place => return site.database place
    | .error fault =>
      match fault.report? with
      | some message => Act.fail message
      | none => Act.crash (.address fault)

/-- What is seen of a run: entries of the log, and the blocks that are only shown. -/
def follow (stamp : Log.Stamp) : List Note → Act Unit
  | [] => return ()
  | .logged record :: rest => do
    Act.record stamp [record]
    follow stamp rest
  | .shown target :: rest => do
    Act.print true ["📄 " ++ target.qualname ++ " (preview):"] ['\n']
    Act.print false [target.block] []
    follow stamp rest
  | .handed _ :: rest => follow stamp rest

/-- Ends the command with a run that was not completed. -/
def abort : Abort → Act Unit
  | .search fault => Act.crash (.search fault)
  | .reported fault => Act.fail fault.message
  | .write failed =>
    match failed.fault.report? failed.target.source.render failed.target.qualname with
    | some fault => Act.fail fault.message
    | none => Act.crash (.writing failed)

/-- Prints lines with style tags. -/
def printLines : List Text → Act Unit
  | [] => return ()
  | line :: rest => do
    Act.printMarkup line
    printLines rest

/-- What follows a run. -/
def conclude (model : Text) (outcome : Generation.Outcome) : Act Unit := do
  match outcome.abort with
  | some cause => abort cause
  | none => pure ()
  if exitStatus model outcome.report != 0 then
    throw (.exited (exitStatus model outcome.report))
  printLines (summary outcome.report)

/-- Ends the acts of a command. -/
def finish (site : Site) (session : Session) (result : Except Ending Unit) : Outcome :=
  { site := { site with log := session.log }
    ending := match result with
      | .ok () => .exited 0
      | .error ending => ending
    written := session.written }

/-- The settings of a command and its database. -/
def openRun (stamp : Log.Stamp) (site : Site) (root : Path) (logIsChosen : Bool)
    (options : Options) : Act (Settings × Database) := do
  let settings ← loadSettings stamp site root logIsChosen options
  return (settings, ← openDatabase site settings)

/-- The command with its options. -/
def generate (nameOf : Text → Option Nat) (stamp : Log.Stamp) (site : Site) (logIsChosen : Bool)
    (options : Options) (session : Session) : Outcome :=
  let root := FileTree.resolve ((options.projectRoot.map Path.parse).getD .project)
  match (openRun stamp site root logIsChosen options).run session with
  | (.error ending, session) => finish site session (.error ending)
  | (.ok (settings, database), session) =>
    let project : Project := ⟨root, site.tree, site.world, database⟩
    let model := options.modelText
    let outcome := Generation.run nameOf settings project model options.packageNames
    let closing : Act Unit := do
      follow stamp outcome.notes
      conclude model outcome
    let (result, session) := closing.run session
    finish { site with tree := outcome.project.tree, world := outcome.project.world } session
      result

/-! ## The command line -/

/-- The name of the only command. -/
def commandName : Text := "generate"

/-- How the tool is used. -/
def usage : Text :=
  "Usage: model-doc [-q] [-V] [--log-level LEVEL] generate [--sort ORDER] [--model PATH]\n" ++
    "  [--dry-run] [--ns PACKAGES] [--database-url URL] [--driver NAME] [--config FILE]\n" ++
    "  [--project-root DIRECTORY]\n"

/-- The options of the command; no arguments may be left. -/
def readOptions (arguments : List Text) : Except UsageFault Options :=
  match Options.grammar.read arguments with
  | .error fault => .error fault
  | .ok (given, []) => .ok (given.foldl Options.add Options.standard)
  | .ok (_, name :: _) => .error (.unknownCommand name)

/-- Ends a command with its usage. -/
def showUsage (site : Site) : Outcome :=
  ⟨site, .exited 0, [.printed usage]⟩

/-- The command behind the options that concern the log. -/
def runCommand (nameOf : Text → Option Nat) (stamp : Log.Stamp) (site : Site) (globals : Globals)
    (arguments : List Text) : Outcome :=
  let start : Act Unit :=
    match globals.level? with
    | none => return ()
    | some level =>
      Act.configureLog
        { Log.Configuration.standard with level := .str level, format := .str "rich" }
  match start.run ⟨site.screen, site.log, []⟩ with
  | (.error ending, session) => finish site session (.error ending)
  | (.ok (), session) =>
    match readOptions arguments with
    | .error fault => finish site session (.error (.misused fault))
    | .ok options =>
      if options.help then showUsage { site with log := session.log }
      else generate nameOf stamp site globals.level?.isSome options session

/-- Runs the tool on its arguments. -/
def run (nameOf : Text → Option Nat) (stamp : Log.Stamp) (site : Site) (arguments : List Text) :
    Outcome :=
  let misused (fault : UsageFault) : Outcome := ⟨site, .misused fault, []⟩
  if arguments.isEmpty then misused .noCommand
  else
    match Globals.grammar.read arguments with
    | .error fault => misused fault
    | .ok (given, rest) =>
      let globals := given.foldl Globals.add Globals.standard
      match rest with
      | [] => showUsage site
      | command :: rest =>
        if globals.help || globals.version then showUsage site
        else if command != commandName then misused (.unknownCommand command)
        else runCommand nameOf stamp site globals rest

end SchemaDoc.CommandLine
