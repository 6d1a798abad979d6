import SchemaDoc.CommandLine.Arguments
import SchemaDoc.Console.Markup
import SchemaDoc.Console.Screen
import SchemaDoc.Generation.Report
import SchemaDoc.Settings.Basic

/-!
Contract: the options of the tool, and what they change.

Owns:
- the options in front of the command, which choose the level of the log;
- the options of the command, of which the last one of a name counts;
- that an option comes before the settings, when it is given and not empty;
- the status that a command ends with.
-/

namespace SchemaDoc

/-- The packages of a comma-separated list; blank entries are left out. -/
def splitPackages (value : Text) : List Text :=
  ((Text.splitOnChar ',' value).map Text.trim).filter fun package => !package.isEmpty

namespace CommandLine

/-! ## Options in front of the command -/

structure Globals where
  quiet : Bool
  verbose : Bool
  logLevel : Option Text
  help : Bool
  version : Bool
deriving DecidableEq, Repr

namespace Globals

def grammar : Grammar where
  flags := ["--quiet", "-q", "--verbose", "-V", "--help", "--version", "-v"]
  valued := ["--log-level"]

def standard : Globals := ⟨false, false, none, false, false⟩

/-- The options with one more. -/
def add (globals : Globals) : Given → Globals
  | .value _ level => { globals with logLevel := some level }
  | .flag name =>
    if name = "--quiet".toList || name = "-q".toList then { globals with quiet := true }
    else if name = "--verbose".toList || name = "-V".toList then { globals with verbose := true }
    else if name = "--help".toList then { globals with help := true }
    else { globals with version := true }

/-- The level that the log is asked for: that of errors comes first, then that of all details, then
the one that is named. -/
def level? (globals : Globals) : Option Text :=
  if globals.quiet then some "ERROR"
  else if globals.verbose then some "DEBUG"
  else
    match globals.logLevel with
    | some (c :: rest) => some (Text.upper (c :: rest))
    | _ => none

end Globals

/-! ## Options of the command -/

structure Options where
  sort : Option Text
  model : Option Text
  dryRun : Bool
  packages : Option Text
  databaseUrl : Option Text
  driver : Option Text
  config : Option Text
  projectRoot : Option Text
  help : Bool
deriving DecidableEq, Repr

namespace Options

def grammar : Grammar where
  flags := ["--dry-run", "--help"]
  valued := ["--sort", "--model", "--ns", "--database-url", "--driver", "--config",
    "--project-root"]

def standard : Options := ⟨none, none, false, none, none, none, none, none, false⟩

/-- The options with the value of one set. -/
def assign (options : Options) (name value : Text) : Options :=
  if name = "--sort".toList then { options with sort := some value }
  else if name = "--model".toList then { options with model := some value }
  else if name = "--ns".toList then { options with packages := some value }
  else if name = "--database-url".toList then { options with databaseUrl := some value }
  else if name = "--driver".toList then { options with driver := some value }
  else if name = "--config".toList then { options with config := some value }
  else { options with projectRoot := some value }

/-- The options with one more. -/
def add (options : Options) : Given → Options
  | .value name value => options.assign name value
  | .flag name =>
    if name = "--dry-run".toList then { options with dryRun := true }
    else { options with help := true }

/-- The value of an option that is given and not empty. -/
def filled : Option Text → Option Text
  | some (c :: rest) => some (c :: rest)
  | _ => none

/-- The order that columns are listed in: the given one, or the standard one when the given one is
not known. -/
def chooseSort (given : Option Text) (default : SortOrder) : SortOrder :=
  match given with
  | none => default
  | some value =>
    match SortOrder.parse value with
    | .ok order => order
    | .error _ => .byType

/-- The warning about an order that is not known. -/
def sortWarning? (given : Option Text) : Option Text :=
  match given with
  | none => none
  | some value =>
    match SortOrder.parse value with
    | .ok _ => none
    | .error _ =>
      some ("[yellow]⚠[/yellow] Invalid sort option '" ++ value ++
        "'. Allowed: type, name, db. Defaulting to 'type'.")

/-- The settings in force: options come before them. -/
def override (options : Options) (settings : Settings) : Settings :=
  { settings with
    sort := chooseSort options.sort settings.sort
    dryRun := options.dryRun || settings.dryRun
    databaseUrl := (filled options.databaseUrl).or settings.databaseUrl
    driver := (filled options.driver).or settings.driver }

/-- The model that is asked for; an empty text asks for none. -/
def modelText (options : Options) : Text :=
  options.model.getD []

/-- The packages that are asked for. -/
def packageNames (options : Options) : List Text :=
  splitPackages (options.packages.getD [])

end Options

/-! ## The end of a command -/

/-- A complete run ends with status one when the model that it was asked for is reported, under the
path that was given, as skipped. -/
def exitStatus (model : Text) (report : Generation.Report) : Nat :=
  if !model.isEmpty && report.skipped.any (·.1 = model) then 1 else 0

/-- The texts that a complete run prints last, one per line. -/
def summary (report : Generation.Report) : List Text :=
  let count (items : Nat) : Text := Text.ofNat items
  let updated (name : Text) : Text := "[green]✨[/green] Updated: " ++ name
  report.updated.map updated ++
    ["[green]✓[/green] Done generating model docs (" ++ count report.updated.length ++
      " updated, " ++ count report.previewed.length ++ " previewed, " ++
      count report.skipped.length ++ " skipped)."]

end CommandLine

end SchemaDoc
