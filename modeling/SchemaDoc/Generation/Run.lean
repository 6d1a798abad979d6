import SchemaDoc.Generation.Report
import SchemaDoc.Settings.Basic

/-!
Contract: one run over a project, from its settings to its report.

Owns:
- the set-up: the project's source roots become importable, and the base class is imported;
- the choice between one model, named packages and the default packages;
- the ways in which a run ends early.
-/

namespace SchemaDoc.Generation

open Program

/-- Why a run ends early. -/
inductive Abort where
  | search (fault : SearchFault)
  | reported (fault : Fault)
  | write (failed : Failed)
deriving Repr

/-- What there is before a run, and after it. -/
structure Project where
  /-- The directory of the project. -/
  root : Path
  tree : FileTree
  world : World
  database : Database
deriving Repr

structure Outcome where
  project : Project
  report : Report
  /-- What was seen of the run, in order. -/
  notes : List Note
  abort : Option Abort
deriving Repr

namespace Outcome

/-- The outcome of a run that ends before its first step. -/
def early (project : Project) (world : World) (records : List Log.Record) (abort : Abort) :
    Outcome :=
  ⟨{ project with world }, .empty, records.map Note.logged, some abort⟩

/-- The targets whose blocks were shown, in order. -/
def shown (outcome : Outcome) : List Target :=
  outcome.notes.filterMap Note.shown?

/-- The targets whose blocks were handed to the writer, in order. -/
def handed (outcome : Outcome) : List Target :=
  outcome.notes.filterMap Note.handed?

/-- What was logged. -/
def records (outcome : Outcome) : List Log.Record :=
  outcome.notes.filterMap Note.record?

end Outcome

/-- The source roots of all mappings made importable, one after the other. -/
def importable (world : World) (mappings : List Mapping) : World :=
  mappings.foldl (fun world mapping => world.ensureImportable mapping.sourceRoot) world

/-- The mappings of the project, with their source roots made importable. -/
def openProject (tree : FileTree) : Search Unit := do
  let mappings ← Search.mappings tree
  modify fun state => { state with world := importable state.world mappings }

/-- The set-up of a run. -/
def prepare (settings : Settings) (project : Project) :
    SearchState × Except Abort Setup :=
  let search : SearchState :=
    ⟨project.world, Resolver.create project.root settings.modulesDir, []⟩
  match (openProject project.tree).run search with
  | (.error fault, search) => (search, .error (.search fault))
  | (.ok (), search) =>
    match Catalog.ofBase search.world settings.baseClass with
    | (world, .error fault) => ({ search with world }, .error (.reported fault))
    | (world, .ok catalog) =>
      ({ search with world },
        .ok ⟨catalog, settings.excludeRelations, settings.sort, project.database⟩)

/-- The steps for what was asked for: one model, or else packages. -/
def plan (settings : Settings) (project : Project) (setup : Setup) (model : Text)
    (packages : List Text) (search : SearchState) : SearchState × Except Abort Plan :=
  let reader := ColumnReader.create project.database settings.driver
  if !model.isEmpty then (search, .ok (modelPlan setup model ⟨search.world, reader⟩))
  else
    match (Search.targets project.tree settings.modelsPackage packages).run search with
    | (.error fault, search) => (search, .error (.search fault))
    | (.ok mappings, search) =>
      (search, .ok (scanPlan setup project.tree mappings ⟨search.world, reader⟩))

/-- What is logged at the end of a complete run. -/
def closing (model : Text) : List Log.Record :=
  if model.isEmpty then [.info "Done generating model docs."] else []

/-- The steps of a run carried out, from its search on to its end. -/
def complete (nameOf : Text → Option Nat) (dryRun : Bool) (project : Project) (model : Text)
    (search : SearchState) (steps : Plan) : Outcome :=
  let start := (Progress.start project.tree).log search.records
  let (progress, state, failed) := carryOut nameOf dryRun steps start
  { project := { project with tree := progress.tree, world := state.world }
    report := progress.report
    notes := progress.notes ++
      (if failed.isSome then [] else (closing model).map Note.logged)
    abort := failed.map Abort.write }

/-- Documents one model, if it is named, or else the models of the packages. -/
def run (nameOf : Text → Option Nat) (settings : Settings) (project : Project) (model : Text)
    (packages : List Text) : Outcome :=
  match prepare settings project with
  | (search, .error abort) => .early project search.world search.records abort
  | (search, .ok setup) =>
    match plan settings project setup model packages search with
    | (search, .error abort) => .early project search.world search.records abort
    | (search, .ok steps) => complete nameOf settings.dryRun project model search steps

/-- The packages that a run would scan. -/
def targets (settings : Settings) (project : Project) (packages : List Text) :
    SearchState × Except Abort (List Mapping) :=
  match prepare settings project with
  | (search, .error abort) => (search, .error abort)
  | (search, .ok _) =>
    match (Search.targets project.tree settings.modelsPackage packages).run search with
    | (.error fault, search) => (search, .error (.search fault))
    | (.ok mappings, search) => (search, .ok mappings)

end SchemaDoc.Generation
