import SchemaDoc.Proofs.Generation.Effects
import SchemaDoc.Proofs.Program.Ahead

/-!
Contract: the modules and classes that a scan comes to, each with the state in which it does.

A scan makes one stop after the other: at the packages, and at the module files of each
(`scanPlan_eq`). At a module file that can be imported it visits the models of the module, and each
of them has a block or fails (`documentClass_form`). The targets and the skipped names of a scan are
read off its visits (`Scan.targets_eq`, `Scan.skipped_eq`). No visit changes the module or the name
of a class that is there already (`Scan.keeps_of_mem_fileVisits`).
-/

namespace SchemaDoc.Generation

open Program

/-! ## Plans for several things -/

namespace Plan

variable {α β : Type} {plan : α → State → Plan}

theorem targets_andThen (first : Plan) (next : State → Plan) :
    (first.andThen next).targets = first.targets ++ (next first.2).targets :=
  List.filterMap_append

theorem skipped_andThen (first : Plan) (next : State → Plan) :
    (first.andThen next).skipped = first.skipped ++ (next first.2).skipped :=
  List.filterMap_append

theorem forEach_append (first second : List α) (state : State) :
    forEach plan (first ++ second) state =
      (forEach plan first state).andThen (forEach plan second) := by
  induction first generalizing state with
  | nil => rfl
  | cons item rest inductionHypothesis =>
      show (plan item state).andThen (forEach plan (rest ++ second)) = _
      rw [show forEach plan (rest ++ second) = _ from funext inductionHypothesis]
      exact Prod.ext (List.append_assoc _ _ _).symm rfl

theorem forEach_map (make : β → α) (items : List β) (state : State) :
    forEach plan (items.map make) state = forEach (fun item => plan (make item)) items state := by
  induction items generalizing state with
  | nil => rfl
  | cons item rest inductionHypothesis =>
      show (plan (make item) state).andThen (forEach plan (rest.map make)) = _
      rw [funext inductionHypothesis]
      rfl

/-- What holds across each item holds across all. -/
theorem relation_forEach {relation : State → State → Prop}
    (refl : ∀ state, relation state state)
    (trans : ∀ {first second third}, relation first second → relation second third →
      relation first third)
    (step : ∀ item state, relation state (plan item state).2) (items : List α) (state : State) :
    relation state (forEach plan items state).2 := by
  induction items generalizing state with
  | nil => exact refl state
  | cons item rest inductionHypothesis =>
      exact trans (step item state) (inductionHypothesis _)

end Plan

/-! ## Scans -/

/-- What a scan comes to. -/
inductive Stop where
  | opens (package : Mapping)
  | file (package : Mapping) (path : Path)

def Stop.plan (setup : Setup) : Stop → State → Plan
  | .opens package, state =>
    Plan.single (.scanning package.package) [.info ("Scanning: " ++ package.package)]
      { state with world := state.world.ensureImportable package.sourceRoot }
  | .file package path, state => filePlan setup package path state

def stops (tree : FileTree) (packages : List Mapping) : List Stop :=
  packages.flatMap fun package =>
    .opens package :: (moduleFiles tree package.directory).map (.file package)

/-- A scan makes its stops one after the other. -/
theorem scanPlan_eq (setup : Setup) (tree : FileTree) (packages : List Mapping) (state : State) :
    scanPlan setup tree packages state =
      Plan.forEach (Stop.plan setup) (stops tree packages) state := by
  induction packages generalizing state with
  | nil => rfl
  | cons package rest inductionHypothesis =>
      have atPackage (state : State) : packagePlan setup tree package state =
          Plan.forEach (Stop.plan setup)
            (.opens package :: (moduleFiles tree package.directory).map (.file package)) state := by
        show _ = (Stop.plan setup (.opens package) state).andThen _
        rw [show Plan.forEach (Stop.plan setup)
          ((moduleFiles tree package.directory).map (.file package)) = _ from
            funext (Plan.forEach_map _ _)]
        rfl
      show (packagePlan setup tree package state).andThen (scanPlan setup tree rest) = _
      rw [show scanPlan setup tree rest = _ from funext inductionHypothesis, atPackage,
        ← Plan.forEach_append]
      rfl

/-- What a scan goes by. -/
structure Scan where
  setup : Setup
  tree : FileTree
  packages : List Mapping
  start : State

namespace Scan

variable (scan : Scan)

def plan : Plan :=
  scanPlan scan.setup scan.tree scan.packages scan.start

def stops : List Stop :=
  Generation.stops scan.tree scan.packages

end Scan

/-! ## Visits -/

/-- A model class as a scan comes to it. -/
structure ClassVisit where
  source : Path
  number : Nat
  before : State

namespace ClassVisit

variable (setup : Setup) (visit : ClassVisit)

def plan : Plan :=
  classPlan setup visit.source visit.number visit.before

/-- The class's name with its module. -/
def fullName : Text :=
  ((visit.before.world.class? visit.number).map ClassObject.fullName).getD []

/-- The class's block, with the file that it goes to. -/
def target? : Option Target :=
  (visit.before.world.class? visit.number).bind fun object =>
    (documentClass setup visit.source visit.number object visit.before).2.2.toOption

/-- The reason why the class has no block. -/
def failure? : Option Text :=
  (visit.before.world.class? visit.number).bind fun object =>
    match (documentClass setup visit.source visit.number object visit.before).2.2 with
    | .error cause => some cause.reason
    | .ok _ => none

end ClassVisit

/-- The visits to the classes of a file. -/
def classVisits (setup : Setup) (source : Path) : List Nat → State → List ClassVisit
  | [], _ => []
  | number :: rest, state =>
    ⟨source, number, state⟩ :: classVisits setup source rest (classPlan setup source number state).2

/-- A module file as a scan comes to it. -/
structure FileVisit where
  package : Mapping
  path : Path
  before : State

namespace FileVisit

variable (setup : Setup) (visit : FileVisit)

def name : Text :=
  (visit.package.moduleName? visit.path).getD []

def plan : Plan :=
  filePlan setup visit.package visit.path visit.before

/-- The world behind the import of the module, and whether it succeeds. -/
def imported : World × Except Text Unit :=
  Catalog.importModule visit.before.world visit.name

/-- The reason why the module cannot be imported. -/
def failure? : Option Text :=
  match visit.imported.2 with
  | .error reason => some reason
  | .ok () => none

/-- The models of the module, if it can be imported. -/
def models : List Nat :=
  match visit.imported.2 with
  | .error _ => []
  | .ok () => setup.catalog.modelsIn visit.imported.1 visit.name

def classVisits : List ClassVisit :=
  Generation.classVisits setup (FileTree.resolve visit.path) (visit.models setup)
    { visit.before with world := visit.imported.1 }

end FileVisit

/-- The visits to the module files among some stops. -/
def fileVisits (setup : Setup) : List Stop → State → List FileVisit
  | [], _ => []
  | .opens package :: rest, state =>
    fileVisits setup rest (Stop.plan setup (.opens package) state).2
  | .file package path :: rest, state =>
    ⟨package, path, state⟩ :: fileVisits setup rest (Stop.plan setup (.file package path) state).2

namespace Scan

variable (scan : Scan)

def fileVisits : List FileVisit :=
  Generation.fileVisits scan.setup scan.stops scan.start

def classVisits : List ClassVisit :=
  scan.fileVisits.flatMap (FileVisit.classVisits scan.setup)

end Scan

/-! ## Runs that scan -/

/-- The scan of a run for packages, or why the run ends before it. -/
def scanOf (settings : Settings) (project : Project) (packages : List Text) :
    SearchState × Except Abort Scan :=
  match prepare settings project with
  | (search, .error abort) => (search, .error abort)
  | (search, .ok setup) =>
    match (Search.targets project.tree settings.modelsPackage packages).run search with
    | (.error fault, search) => (search, .error (.search fault))
    | (.ok mappings, search) =>
      (search, .ok ⟨setup, project.tree, mappings,
        ⟨search.world, ColumnReader.create project.database settings.driver⟩⟩)

/-- The scan of a run for packages, if the run gets that far. -/
def scan? (settings : Settings) (project : Project) (packages : List Text) : Option Scan :=
  (scanOf settings project packages).2.toOption

/-- A run for packages carries out its scan. -/
theorem run_scan (nameOf : Text → Option Nat) (settings : Settings) (project : Project)
    (packages : List Text) :
    run nameOf settings project [] packages =
      match scanOf settings project packages with
      | (search, .error abort) => .early project search.world search.records abort
      | (search, .ok scan) => complete nameOf settings.dryRun project [] search scan.plan := by
  unfold run scanOf
  rcases prepare settings project with ⟨search, abort | setup⟩
  · rfl
  · unfold Generation.plan
    simp only [List.isEmpty_nil, Bool.not_true, Bool.false_eq_true, if_false]
    rcases (Search.targets project.tree settings.modelsPackage packages).run search with
      ⟨fault | mappings, found⟩
    · rfl
    · rfl

/-! ## One class -/

/-- A table with columns has a block. -/
theorem isSome_blockOf? {columns : List (Text × Text)} (hasColumns : columns.isEmpty = false)
    (sort : SortOrder) (qualname table : Text) (relations : List Relation) :
    (blockOf? sort qualname table columns relations).isSome := by
  have sorted : (sort.sort (columns.map fun column => Column.ofNative column.1 column.2)).isEmpty =
      false := by
    rw [List.isEmpty_eq_false_iff, ← List.length_pos_iff] at hasColumns ⊢
    unfold SortOrder.sort
    rw [List.length_mergeSort, List.length_map]
    exact hasColumns
  show (Block.render? qualname table (sort.sort _) relations).isSome
  unfold Block.render?
  rw [sorted]
  rfl

/-- What becomes of a class: it cannot be instantiated, its columns cannot be read or are none, or it
has a block. -/
inductive ClassForm (setup : Setup) (source : Path) (number : Nat) (object : ClassObject)
    (state : State) : State × List Log.Record × Except NoBlock Target → Prop
  | notMade {world : World} {fault : Fault} :
      Catalog.instantiate state.world object = (world, .error fault) →
      ClassForm setup source number object state
        ({ state with world }, [], .error (.reported fault))
  | unread {world : World} {reader : ColumnReader} {records : List Log.Record} {fault : Fault} :
      Catalog.instantiate state.world object = (world, .ok ()) →
      columnsOf setup state.reader object.fullName (object.table.getD []) =
        (reader, records, .error fault) →
      ClassForm setup source number object state (⟨world, reader⟩, records, .error (.reported fault))
  | noColumns {world : World} {reader : ColumnReader} {records : List Log.Record} :
      Catalog.instantiate state.world object = (world, .ok ()) →
      columnsOf setup state.reader object.fullName (object.table.getD []) =
        (reader, records, .ok []) →
      ClassForm setup source number object state (⟨world, reader⟩, records, .error .noColumns)
  | ready {world : World} {reader : ColumnReader} {records : List Log.Record}
      {columns : List (Text × Text)} {block : Text} :
      Catalog.instantiate state.world object = (world, .ok ()) →
      columnsOf setup state.reader object.fullName (object.table.getD []) =
        (reader, records, .ok columns) →
      blockOf? setup.sort object.definition.qualname (object.table.getD []) columns
        (relationsOf setup world number).2 = some block →
      ClassForm setup source number object state
        (⟨(relationsOf setup world number).1, reader⟩, records,
          .ok ⟨source, object.fullName, object.definition.qualname, object.table.getD [], block⟩)

theorem documentClass_form (setup : Setup) (source : Path) (number : Nat) (object : ClassObject)
    (state : State) :
    ClassForm setup source number object state
      (documentClass setup source number object state) := by
  unfold documentClass
  rcases isMade : Catalog.instantiate state.world object with ⟨world, fault | _⟩
  · exact .notMade isMade
  · simp only
    rcases isRead : columnsOf setup state.reader object.fullName (object.table.getD []) with
      ⟨reader, records, fault | columns⟩
    · exact .unread isMade isRead
    · cases columns with
      | nil => exact .noColumns isMade isRead
      | cons column rest =>
          have rendered := @isSome_blockOf? (column :: rest) rfl setup.sort
            object.definition.qualname (object.table.getD []) (relationsOf setup world number).2
          obtain ⟨block, isBlock⟩ := Option.isSome_iff_exists.mp rendered
          simp only [List.isEmpty_cons, Bool.false_eq_true, if_false, isBlock]
          exact .ready isMade isRead isBlock

/-! ## Targets and skipped names -/

section Plans

variable (setup : Setup)

/-- What a class adds to the skipped names. -/
def ClassVisit.skipped (visit : ClassVisit) : List (Text × Text) :=
  (visit.failure? setup).toList.map fun reason => (visit.fullName, reason)

theorem documentClass_target {setup : Setup} {source : Path} {number : Nat} {object : ClassObject}
    {state : State} {target : Target}
    (isReady : (documentClass setup source number object state).2.2 = .ok target) :
    target.source = source ∧ target.fullName = object.fullName := by
  have form := documentClass_form setup source number object state
  generalize documentClass setup source number object state = outcome at form isReady
  cases form with
  | ready _ _ _ =>
      obtain rfl := Except.ok.inj isReady
      exact ⟨rfl, rfl⟩
  | _ => exact absurd isReady (by simp)

theorem ClassVisit.target?_eq_some_iff {setup : Setup} {visit : ClassVisit} {target : Target} :
    visit.target? setup = some target ↔
      ∃ object, visit.before.world.class? visit.number = some object ∧
        (documentClass setup visit.source visit.number object visit.before).2.2 = .ok target := by
  rw [ClassVisit.target?, Option.bind_eq_some_iff]
  refine exists_congr fun object => and_congr_right fun _ => ?_
  cases (documentClass setup visit.source visit.number object visit.before).2.2 with
  | error cause => simp [Except.toOption]
  | ok ready => simp [Except.toOption]

theorem ClassVisit.failure?_eq_some_iff {setup : Setup} {visit : ClassVisit} {reason : Text} :
    visit.failure? setup = some reason ↔
      ∃ object cause, visit.before.world.class? visit.number = some object ∧
        (documentClass setup visit.source visit.number object visit.before).2.2 = .error cause ∧
        cause.reason = reason := by
  rw [ClassVisit.failure?, Option.bind_eq_some_iff]
  refine exists_congr fun object => ?_
  rw [exists_and_left]
  refine and_congr_right fun _ => ?_
  cases (documentClass setup visit.source visit.number object visit.before).2.2 with
  | error cause => simp
  | ok ready => simp

/-- The block of a class goes to the file in which the class was found, under the class's name. -/
theorem ClassVisit.of_target? {setup : Setup} {visit : ClassVisit} {target : Target}
    (isReady : visit.target? setup = some target) :
    target.source = visit.source ∧ target.fullName = visit.fullName := by
  obtain ⟨object, found, result⟩ := ClassVisit.target?_eq_some_iff.mp isReady
  rw [ClassVisit.fullName, found]
  exact documentClass_target result

theorem classPlan_targets (visit : ClassVisit) :
    (visit.plan setup).targets = (visit.target? setup).toList := by
  unfold ClassVisit.plan ClassVisit.target? classPlan
  cases visit.before.world.class? visit.number with
  | none => rfl
  | some object =>
      simp only [Option.bind_some]
      rcases documentClass setup visit.source visit.number object visit.before with
        ⟨after, records, cause | target⟩ <;> rfl

theorem classPlan_skipped (visit : ClassVisit) :
    (visit.plan setup).skipped = visit.skipped setup := by
  unfold ClassVisit.plan ClassVisit.skipped ClassVisit.failure? ClassVisit.fullName classPlan
  cases visit.before.world.class? visit.number with
  | none => rfl
  | some object =>
      simp only [Option.bind_some]
      rcases documentClass setup visit.source visit.number object visit.before with
        ⟨after, records, cause | target⟩ <;> rfl

theorem targets_classes (source : Path) (numbers : List Nat) (state : State) :
    (Plan.forEach (classPlan setup source) numbers state).targets =
      (classVisits setup source numbers state).filterMap (ClassVisit.target? setup) := by
  induction numbers generalizing state with
  | nil => rfl
  | cons number rest inductionHypothesis =>
      have first := classPlan_targets setup ⟨source, number, state⟩
      rw [Plan.forEach, Plan.targets_andThen, inductionHypothesis, classVisits]
      rw [show (classPlan setup source number state).targets = _ from first]
      cases isTarget : ClassVisit.target? setup ⟨source, number, state⟩ with
      | none => exact (List.filterMap_cons_none isTarget).symm
      | some target => exact (List.filterMap_cons_some isTarget).symm

theorem source_of_mem_classVisits {setup : Setup} {source : Path} {numbers : List Nat} {state : State}
    {visit : ClassVisit} (member : visit ∈ classVisits setup source numbers state) :
    visit.source = source := by
  induction numbers generalizing state with
  | nil => exact absurd member List.not_mem_nil
  | cons number rest inductionHypothesis =>
      rcases List.mem_cons.mp member with rfl | later
      · rfl
      · exact inductionHypothesis later

theorem skipped_classes (source : Path) (numbers : List Nat) (state : State) :
    (Plan.forEach (classPlan setup source) numbers state).skipped =
      (classVisits setup source numbers state).flatMap (ClassVisit.skipped setup) := by
  induction numbers generalizing state with
  | nil => rfl
  | cons number rest inductionHypothesis =>
      have first := classPlan_skipped setup ⟨source, number, state⟩
      rw [Plan.forEach, Plan.skipped_andThen, inductionHypothesis, classVisits, List.flatMap_cons]
      exact congrArg (· ++ _) first

theorem FileVisit.imported_of_failure? {visit : FileVisit} {reason : Text}
    (fails : visit.failure? = some reason) : visit.imported = (visit.imported.1, .error reason) := by
  unfold FileVisit.failure? at fails
  split at fails
  · next other isError =>
      obtain rfl := Option.some.inj fails
      rw [← isError]
  · exact absurd fails (by simp)

theorem FileVisit.imported_of_succeeds {visit : FileVisit} (succeeds : visit.failure? = none) :
    visit.imported = (visit.imported.1, .ok ()) := by
  unfold FileVisit.failure? at succeeds
  split at succeeds
  · exact absurd succeeds (by simp)
  · next isOk => rw [← isOk]

theorem FileVisit.plan_eq (visit : FileVisit) :
    visit.plan setup = match visit.imported with
      | (world, .error reason) => Plan.single (.skipped visit.name reason)
          [.warning ("Cannot load module " ++ visit.path.render ++ ": " ++ reason)]
          { visit.before with world }
      | (world, .ok ()) => Plan.forEach (classPlan setup (FileTree.resolve visit.path))
          (setup.catalog.modelsIn world visit.name) { visit.before with world } :=
  rfl

theorem filePlan_failed {visit : FileVisit} {reason : Text}
    (fails : visit.failure? = some reason) :
    visit.plan setup = Plan.single (.skipped visit.name reason)
      [.warning ("Cannot load module " ++ visit.path.render ++ ": " ++ reason)]
      { visit.before with world := visit.imported.1 } := by
  rw [FileVisit.plan_eq, FileVisit.imported_of_failure? fails]

theorem filePlan_imported {visit : FileVisit} (succeeds : visit.failure? = none) :
    visit.plan setup = Plan.forEach (classPlan setup (FileTree.resolve visit.path))
      (visit.models setup) { visit.before with world := visit.imported.1 } := by
  rw [FileVisit.plan_eq, FileVisit.models, FileVisit.imported_of_succeeds succeeds]

theorem classVisits_failed {visit : FileVisit} (fails : visit.failure?.isSome) :
    visit.classVisits setup = [] := by
  obtain ⟨reason, isFailure⟩ := Option.isSome_iff_exists.mp fails
  rw [FileVisit.classVisits, FileVisit.models, FileVisit.imported_of_failure? isFailure]
  rfl

theorem filePlan_targets (visit : FileVisit) :
    (visit.plan setup).targets = (visit.classVisits setup).filterMap (ClassVisit.target? setup) := by
  cases fails : visit.failure? with
  | some reason =>
      rw [filePlan_failed setup fails, classVisits_failed setup (by rw [fails, Option.isSome_some])]
      rfl
  | none =>
      rw [filePlan_imported setup fails, targets_classes]
      rfl

/-- The blocks of a module's classes go to the module's file. -/
theorem source_of_mem_targets {visit : FileVisit} {target : Target}
    (member : target ∈ (visit.plan setup).targets) : target.source = FileTree.resolve visit.path := by
  rw [filePlan_targets] at member
  obtain ⟨classVisit, isVisit, isReady⟩ := List.mem_filterMap.mp member
  rw [(ClassVisit.of_target? isReady).1]
  exact source_of_mem_classVisits isVisit

/-- What a module file adds to the skipped names. -/
def FileVisit.skipped (visit : FileVisit) : List (Text × Text) :=
  match visit.failure? with
  | some reason => [(visit.name, reason)]
  | none => (visit.classVisits setup).flatMap (ClassVisit.skipped setup)

theorem filePlan_skipped (visit : FileVisit) :
    (visit.plan setup).skipped = visit.skipped setup := by
  unfold FileVisit.skipped
  cases fails : visit.failure? with
  | some reason =>
      rw [filePlan_failed setup fails]
      rfl
  | none =>
      rw [filePlan_imported setup fails, skipped_classes]
      rfl

theorem targets_stops (stops : List Stop) (state : State) :
    (Plan.forEach (Stop.plan setup) stops state).targets =
      (fileVisits setup stops state).flatMap fun visit =>
        (visit.classVisits setup).filterMap (ClassVisit.target? setup) := by
  induction stops generalizing state with
  | nil => rfl
  | cons stop rest inductionHypothesis =>
      rw [Plan.forEach, Plan.targets_andThen, inductionHypothesis]
      cases stop with
      | opens package => rfl
      | file package path =>
          have first := filePlan_targets setup ⟨package, path, state⟩
          exact congrArg (· ++ _) first

theorem skipped_stops (stops : List Stop) (state : State) :
    (Plan.forEach (Stop.plan setup) stops state).skipped =
      (fileVisits setup stops state).flatMap (FileVisit.skipped setup) := by
  induction stops generalizing state with
  | nil => rfl
  | cons stop rest inductionHypothesis =>
      rw [Plan.forEach, Plan.skipped_andThen, inductionHypothesis]
      cases stop with
      | opens package => rfl
      | file package path =>
          have first := filePlan_skipped setup ⟨package, path, state⟩
          exact congrArg (· ++ _) first

end Plans

namespace Scan

variable (scan : Scan)

/-- The targets of a scan are those of the classes that it visits, in order. -/
theorem targets_eq : scan.plan.targets =
    scan.classVisits.filterMap (ClassVisit.target? scan.setup) := by
  rw [Scan.plan, scanPlan_eq, targets_stops, classVisits, List.filterMap_flatMap]
  rfl

theorem skipped_eq : scan.plan.skipped =
    scan.fileVisits.flatMap (FileVisit.skipped scan.setup) := by
  rw [Scan.plan, scanPlan_eq, skipped_stops]
  rfl

end Scan

/-! ## Classes along a scan -/

theorem fst_instantiate (world : World) (object : ClassObject) :
    (Catalog.instantiate world object).1 = (world.instantiate object).1 := by
  unfold Catalog.instantiate
  rcases world.instantiate object with ⟨after, fault | _⟩
  · rfl
  · rfl

theorem rewires_relationsOf (setup : Setup) (world : World) (number : Nat) :
    World.Rewires world (relationsOf setup world number).1 := by
  unfold relationsOf
  cases world.class? number with
  | none => exact World.Rewires.refl world
  | some found => exact World.rewires_detect world setup.excluded found _

theorem rewires_documentClass (setup : Setup) (source : Path) (number : Nat) (object : ClassObject)
    (state : State) :
    World.Rewires state.world
      (documentClass setup source number object state).1.world := by
  have instantiated := World.rewires_instantiate state.world object
  rw [← fst_instantiate] at instantiated
  have form := documentClass_form setup source number object state
  generalize documentClass setup source number object state = outcome at form ⊢
  cases form with
  | notMade isMade =>
      rw [isMade] at instantiated
      exact instantiated
  | unread isMade _ =>
      rw [isMade] at instantiated
      exact instantiated
  | noColumns isMade _ =>
      rw [isMade] at instantiated
      exact instantiated
  | @ready world _ _ _ _ isMade _ _ =>
      rw [isMade] at instantiated
      exact instantiated.trans (rewires_relationsOf setup world number)

theorem rewires_classPlan (setup : Setup) (source : Path) (number : Nat) (state : State) :
    World.Rewires state.world (classPlan setup source number state).2.world := by
  unfold classPlan
  cases state.world.class? number with
  | none => exact World.Rewires.refl state.world
  | some object =>
      have documented := rewires_documentClass setup source number object state
      simp only
      rcases isMade : documentClass setup source number object state with
        ⟨after, records, cause | target⟩
      · rw [isMade] at documented
        exact documented
      · rw [isMade] at documented
        exact documented

/-- The classes of the first state stay. -/
def State.Keeps (state after : State) : Prop :=
  World.Keeps state.world after.world

namespace State.Keeps

theorem refl (state : State) : State.Keeps state state :=
  World.Keeps.refl state.world

theorem trans {first second third : State} (one : State.Keeps first second)
    (two : State.Keeps second third) : State.Keeps first third :=
  World.Keeps.trans one two

end State.Keeps

theorem keeps_classPlan (setup : Setup) (source : Path) (number : Nat) (state : State) :
    State.Keeps state (classPlan setup source number state).2 :=
  (rewires_classPlan setup source number state).keeps

theorem FileVisit.keeps_imported (setup : Setup) (visit : FileVisit) :
    World.Keeps visit.imported.1 (visit.plan setup).2.world := by
  cases fails : visit.failure? with
  | some reason =>
      rw [filePlan_failed setup fails]
      exact World.Keeps.refl visit.imported.1
  | none =>
      rw [filePlan_imported setup fails]
      exact Plan.relation_forEach State.Keeps.refl State.Keeps.trans (keeps_classPlan setup _) _
        { visit.before with world := visit.imported.1 }

theorem FileVisit.keeps_plan (setup : Setup) (visit : FileVisit) :
    State.Keeps visit.before (visit.plan setup).2 :=
  (World.keeps_importModule visit.before.world visit.name).trans (visit.keeps_imported setup)

theorem keeps_stop (setup : Setup) (stop : Stop) (state : State) :
    State.Keeps state (stop.plan setup state).2 := by
  cases stop with
  | opens package =>
      show World.Keeps state.world (state.world.ensureImportable package.sourceRoot)
      unfold World.ensureImportable
      split
      · exact World.Keeps.refl state.world
      · exact fun number object found => ⟨object, found, rfl, rfl⟩
  | file package path => exact FileVisit.keeps_plan setup ⟨package, path, state⟩

/-- The classes that are there behind the import of a module stay up to the end. -/
theorem keeps_of_mem_fileVisits {setup : Setup} {stops : List Stop} {state : State}
    {visit : FileVisit} (member : visit ∈ fileVisits setup stops state) :
    World.Keeps visit.imported.1 (Plan.forEach (Stop.plan setup) stops state).2.world := by
  induction stops generalizing state with
  | nil => exact absurd member (by simp [fileVisits])
  | cons stop rest inductionHypothesis =>
      cases stop with
      | opens package => exact inductionHypothesis member
      | file package path =>
          rcases List.mem_cons.mp member with rfl | later
          · have others := Plan.relation_forEach State.Keeps.refl State.Keeps.trans
              (keeps_stop setup) rest (filePlan setup package path state).2
            exact (FileVisit.keeps_imported setup ⟨package, path, state⟩).trans others
          · exact inductionHypothesis later

end SchemaDoc.Generation
