import SchemaDoc.Block.Basic
import SchemaDoc.Catalog
import SchemaDoc.ColumnReader
import SchemaDoc.Mapping
import SchemaDoc.PackageSearch
import SchemaDoc.Program.Reading

/-!
Contract: what a run finds out, step by step, before any file is touched.

Owns:
- the block of one model class, or the reason why the class is skipped;
- the order of modules and classes, and that a failure concerns one module or one class;
- what is logged on the way.

The steps do not depend on whether blocks are written or only shown. Each step carries the state in
which it leaves the program, for a run that ends with it.
-/

namespace SchemaDoc.Generation

open Program

/-- What stays the same during a run. -/
structure Setup where
  catalog : Catalog
  /-- The names of relationships that blocks do not list. -/
  excluded : List Text
  sort : SortOrder
  database : Database
deriving Repr

/-- What a run changes while it looks at the program. -/
structure State where
  world : World
  reader : ColumnReader
deriving Repr

/-- A model class whose block is known. -/
structure Target where
  source : Path
  fullName : Text
  qualname : Text
  table : Text
  block : Text
deriving DecidableEq, Repr

inductive Event where
  /-- The scan of a package begins. -/
  | scanning (package : Text)
  /-- The documentation of one model begins. -/
  | processing (model : Text)
  /-- A module or class is left out. -/
  | skipped (name reason : Text)
  /-- A block is ready. -/
  | ready (target : Target)
deriving DecidableEq, Repr

structure Step where
  event : Event
  /-- What is logged before the event takes effect. -/
  records : List Log.Record
  /-- The state in which the step leaves the run. -/
  after : State
deriving Repr

/-- Some steps, and the state behind them. -/
abbrev Plan := List Step × State

namespace Plan

def none (state : State) : Plan := ([], state)

def single (event : Event) (records : List Log.Record) (after : State) : Plan :=
  ([⟨event, records, after⟩], after)

/-- A plan continued from the state that it leaves. -/
def andThen (first : Plan) (next : State → Plan) : Plan :=
  let (steps, state) := next first.2
  (first.1 ++ steps, state)

/-- The plans of several things, each from the state that the one before leaves. -/
def forEach (plan : α → State → Plan) : List α → State → Plan
  | [], state => none state
  | item :: rest, state => (plan item state).andThen (forEach plan rest)

end Plan

/-! ## One class -/

/-- Why a class has no block. -/
inductive NoBlock where
  | reported (cause : Fault)
  | noColumns
deriving Repr

/-- The reason as reports show it. -/
def NoBlock.reason : NoBlock → Text
  | .reported cause => cause.message
  | .noColumns => "no columns".toList

/-- What is logged about the reason. -/
def NoBlock.records : NoBlock → List Log.Record
  | .reported cause => [.warning cause.message]
  | .noColumns => []

/-- The block of a class with the columns and relationships of its table. -/
def blockOf? (sort : SortOrder) (qualname table : Text) (columns : List (Text × Text))
    (relations : List Relation) : Option Text :=
  let documented := columns.map fun column => Column.ofNative column.1 column.2
  Block.render? qualname table (sort.sort documented) relations

/-- The columns of a class's table, which has to exist. -/
def columnsOf (setup : Setup) (reader : ColumnReader) (fullName table : Text) :
    ColumnReader × List Log.Record × Except Fault (List (Text × Text)) :=
  match ColumnReader.hasTable setup.database table with
  | .error fault => (reader, [], .error fault)
  | .ok false =>
    (reader, [], .error (.schema table ("table not found for model " ++ fullName)))
  | .ok true =>
    let (reader, records, columns) := reader.read setup.database table
    (reader, records, .ok columns)

/-- The relationships of a class. -/
def relationsOf (setup : Setup) (world : World) (number : Nat) : World × List Relation :=
  match world.class? number with
  | none => (world, [])
  | some object =>
    let (findings, world) := (World.detect setup.excluded object).run world
    (world, findings.relations)

/-- The block of a class, with the state behind it and what is logged. -/
def documentClass (setup : Setup) (source : Path) (number : Nat) (object : ClassObject)
    (state : State) : State × List Log.Record × Except NoBlock Target :=
  let qualname := object.definition.qualname
  let table := object.table.getD []
  match Catalog.instantiate state.world object with
  | (world, .error fault) => ({ state with world }, [], .error (.reported fault))
  | (world, .ok ()) =>
    match columnsOf setup state.reader object.fullName table with
    | (reader, records, .error fault) => (⟨world, reader⟩, records, .error (.reported fault))
    | (reader, records, .ok columns) =>
      if columns.isEmpty then (⟨world, reader⟩, records, .error .noColumns)
      else
        let (world, relations) := relationsOf setup world number
        match blockOf? setup.sort qualname table columns relations with
        | none => (⟨world, reader⟩, records, .error .noColumns)
        | some block =>
          (⟨world, reader⟩, records, .ok ⟨source, object.fullName, qualname, table, block⟩)

/-- The step of one class. -/
def classPlan (setup : Setup) (source : Path) (number : Nat) (state : State) : Plan :=
  match state.world.class? number with
  | none => Plan.none state
  | some object =>
    match documentClass setup source number object state with
    | (after, records, .ok target) => Plan.single (.ready target) records after
    | (after, records, .error cause) =>
      Plan.single (.skipped object.fullName cause.reason) (records ++ cause.records) after

/-! ## Modules and packages -/

/-- The steps of one module file. -/
def filePlan (setup : Setup) (mapping : Mapping) (path : Path) (state : State) : Plan :=
  let name := (mapping.moduleName? path).getD []
  match Catalog.importModule state.world name with
  | (world, .error reason) =>
    Plan.single (.skipped name reason)
      [.warning ("Cannot load module " ++ path.render ++ ": " ++ reason)] { state with world }
  | (world, .ok ()) =>
    Plan.forEach (classPlan setup (FileTree.resolve path)) (setup.catalog.modelsIn world name)
      { state with world }

/-- The steps of one package, whose source root becomes importable. -/
def packagePlan (setup : Setup) (tree : FileTree) (mapping : Mapping) (state : State) : Plan :=
  let world := state.world.ensureImportable mapping.sourceRoot
  (Plan.single (.scanning mapping.package) [.info ("Scanning: " ++ mapping.package)]
    { state with world }).andThen
      (Plan.forEach (filePlan setup mapping) (moduleFiles tree mapping.directory))

/-- The steps of a scan of several packages. -/
def scanPlan (setup : Setup) (tree : FileTree) (packages : List Mapping) (state : State) : Plan :=
  Plan.forEach (packagePlan setup tree) packages state

/-- The class that a path names and the file it is written in. -/
def findModel (setup : Setup) (world : World) (model : Text) :
    World × Except Fault (Nat × Path) :=
  match setup.catalog.loadModel world model with
  | (world, .error fault) => (world, .error fault)
  | (world, .ok number) =>
    match world.class? number with
    | none => (world, .error (.input "--model" "not a SQLAlchemy model class" (.str model)))
    | some object => (world, (Catalog.sourceFile world object).map fun source => (number, source))

/-- The steps for one model class, named by its path. -/
def modelPlan (setup : Setup) (model : Text) (state : State) : Plan :=
  match findModel setup state.world model with
  | (world, .error fault) =>
    Plan.single (.skipped model fault.message) [.error fault.message] { state with world }
  | (world, .ok (number, source)) =>
    (Plan.single (.processing model) [.info ("Processing model: " ++ model)]
      { state with world }).andThen (classPlan setup source number)

end SchemaDoc.Generation
