import SchemaDoc.Proofs.Generation.Once

/-!
Contract: when a failure stays with the module or class that fails.

A run is compared with the one that leaves out of its scan what fails in it (`runWithout`). The two
do the same when what fails leaves nothing behind that matters later (`Scan.Contained`): the modules
that a failing import loads are loaded by the next import that succeeds as well, the set-up that a
failing class starts adds no relationship, and no registry is lost that could be set up later.

The run that leaves out trails behind: it has imported less and set up less (`Trails`), but each
module and class that does not fail is the same to it (`follow_stops`).
-/

namespace SchemaDoc.Generation

open Program

/-! ## One class in two worlds -/

/-- The second state is behind the first one, and reads columns in the same way. -/
structure Follows (state other : State) : Prop where
  ahead : World.Ahead state.world other.world
  dialect : other.reader.dialect = state.reader.dialect

section Class

variable (setup : Setup) {state other : State}

/-- Reading columns does not change the dialect. -/
theorem dialect_columnsOf (reader : ColumnReader) (fullName table : Text) :
    (columnsOf setup reader fullName table).1.dialect = reader.dialect := by
  unfold columnsOf
  rcases ColumnReader.hasTable setup.database table with fault | _ | _
  · rfl
  · rfl
  · rfl

/-- Readers of one dialect read the same columns. -/
theorem columnsOf_dialect {reader second : ColumnReader} (same : second.dialect = reader.dialect)
    (fullName table : Text) :
    (columnsOf setup second fullName table).2.2 = (columnsOf setup reader fullName table).2.2 ∧
      (columnsOf setup second fullName table).1.dialect =
        (columnsOf setup reader fullName table).1.dialect := by
  refine ⟨?_, by rw [dialect_columnsOf, dialect_columnsOf, same]⟩
  unfold columnsOf
  rcases ColumnReader.hasTable setup.database table with fault | _ | _
  · rfl
  · rfl
  · simp only [ColumnReader.read, ColumnReader.readFrom, same]

theorem relationsOf_ahead {world second : World} (ahead : World.Ahead world second)
    (settled : World.Settled world second) (number : Nat) :
    (relationsOf setup second number).2 = (relationsOf setup world number).2 ∧
      World.Ahead (relationsOf setup world number).1 (relationsOf setup second number).1 := by
  unfold relationsOf
  rw [ahead.alike.class?]
  cases world.class? number with
  | none => exact ⟨rfl, ahead⟩
  | some object =>
      obtain ⟨sameFindings, stays⟩ := ahead.detect settled setup.excluded object
        (object.attributes.map fun entry => (entry.1, World.formOf entry.2))
      exact ⟨congrArg Detection.Findings.relations sameFindings.symm, stays⟩

/-- A class has the same block in a state that is behind, or fails there as well. -/
theorem documentClass_follows (follows : Follows state other)
    (settled : World.Settled state.world other.world) (source : Path) (number : Nat)
    (object : ClassObject) :
    (documentClass setup source number object other).2.2 =
        (documentClass setup source number object state).2.2 ∧
      Follows (documentClass setup source number object state).1
        (documentClass setup source number object other).1 := by
  obtain ⟨sameResult, stays, staysSettled⟩ := follows.ahead.instantiate settled object
  unfold documentClass Catalog.instantiate
  rcases isMade : state.world.instantiate object with ⟨world, result⟩
  rcases otherIsMade : other.world.instantiate object with ⟨second, otherResult⟩
  rw [isMade, otherIsMade] at sameResult stays staysSettled
  simp only at sameResult
  subst sameResult
  cases result with
  | error fault => exact ⟨rfl, stays, follows.dialect⟩
  | ok made =>
      obtain ⟨sameColumns, sameDialect⟩ :=
        columnsOf_dialect setup follows.dialect object.fullName (object.table.getD [])
      simp only
      rcases isRead : columnsOf setup state.reader object.fullName (object.table.getD []) with
        ⟨reader, records, columns⟩
      rcases otherIsRead : columnsOf setup other.reader object.fullName (object.table.getD []) with
        ⟨otherReader, otherRecords, otherColumns⟩
      rw [isRead, otherIsRead] at sameColumns sameDialect
      simp only at sameColumns sameDialect
      subst sameColumns
      cases otherColumns with
      | error fault => exact ⟨rfl, stays, sameDialect⟩
      | ok columns =>
          obtain ⟨sameRelations, ends⟩ := relationsOf_ahead setup stays staysSettled number
          simp only [sameRelations]
          split
          · exact ⟨rfl, stays, sameDialect⟩
          · split
            · exact ⟨rfl, ends, sameDialect⟩
            · exact ⟨rfl, ends, sameDialect⟩

/-- A class that fails is instantiated, and that is all that happens to the program. -/
theorem documentClass_failed {source : Path} {number : Nat} {object : ClassObject} {cause : NoBlock}
    (fails : (documentClass setup source number object state).2.2 = .error cause) :
    (documentClass setup source number object state).1.world =
        (state.world.instantiate object).1 ∧
      (documentClass setup source number object state).1.reader.dialect =
        state.reader.dialect := by
  have sameDialect :=
    dialect_columnsOf setup state.reader object.fullName (object.table.getD [])
  rw [← fst_instantiate]
  have form := documentClass_form setup source number object state
  generalize documentClass setup source number object state = outcome at form fails ⊢
  cases form with
  | notMade isMade =>
      rw [isMade]
      exact ⟨rfl, rfl⟩
  | unread isMade isRead =>
      rw [isRead] at sameDialect
      rw [isMade]
      exact ⟨rfl, sameDialect⟩
  | noColumns isMade isRead =>
      rw [isRead] at sameDialect
      rw [isMade]
      exact ⟨rfl, sameDialect⟩
  | ready _ _ _ => exact absurd fails (by simp)

theorem classPlan_snd {source : Path} {number : Nat} {object : ClassObject}
    (found : state.world.class? number = some object) :
    (classPlan setup source number state).2 =
      (documentClass setup source number object state).1 := by
  unfold classPlan
  rw [found]
  simp only
  rcases documentClass setup source number object state with ⟨after, records, cause | target⟩
  · rfl
  · rfl

end Class

/-! ## Scans that leave modules and classes out -/

/-- What is left out of a scan: modules by their names, classes by their numbers. -/
structure Omission where
  modules : List Text
  classes : List Nat

/-- A stop of a scan that leaves something out. -/
def Stop.planWithout (setup : Setup) (omission : Omission) : Stop → State → Plan
  | .opens package, state => Stop.plan setup (.opens package) state
  | .file package path, state =>
    let name := (package.moduleName? path).getD []
    if omission.modules.contains name then Plan.none state
    else
      match Catalog.importModule state.world name with
      | (world, .error reason) =>
        Plan.single (.skipped name reason)
          [.warning ("Cannot load module " ++ path.render ++ ": " ++ reason)] { state with world }
      | (world, .ok ()) =>
        Plan.forEach (classPlan setup (FileTree.resolve path))
          ((setup.catalog.modelsIn world name).filter fun number =>
            !omission.classes.contains number) { state with world }

/-- The plan of a scan that makes the same stops and leaves something out. -/
def Scan.planWithout (scan : Scan) (omission : Omission) : Plan :=
  Plan.forEach (Stop.planWithout scan.setup omission) scan.stops scan.start

/-- A run for packages that leaves something out of its scan. -/
def runWithout (nameOf : Text → Option Nat) (settings : Settings) (project : Project)
    (packages : List Text) (omission : Omission) : Outcome :=
  match scanOf settings project packages with
  | (search, .error abort) => .early project search.world search.records abort
  | (search, .ok scan) =>
    complete nameOf settings.dryRun project [] search (scan.planWithout omission)

/-- A run that leaves nothing out is the run itself. -/
theorem runWithout_nothing (nameOf : Text → Option Nat) (settings : Settings) (project : Project)
    (packages : List Text) :
    runWithout nameOf settings project packages ⟨[], []⟩ =
      run nameOf settings project [] packages := by
  have samePlan (scan : Scan) : scan.planWithout ⟨[], []⟩ = scan.plan := by
    have sameStop : Stop.planWithout scan.setup ⟨[], []⟩ = Stop.plan scan.setup := by
      funext stop state
      cases stop with
      | opens package => rfl
      | file package path =>
          have everyModel (numbers : List Nat) :
              (numbers.filter fun number => !([] : List Nat).contains number) = numbers :=
            List.filter_eq_self.mpr fun _ _ => rfl
          simp only [Stop.planWithout, everyModel]
          rfl
    rw [Scan.planWithout, sameStop, Scan.plan, scanPlan_eq]
    rfl
  rw [run_scan, runWithout]
  rcases scanOf settings project packages with ⟨search, abort | scan⟩
  · rfl
  · simp only [samePlan]

/-! ## Failures -/

/-- What fails in a scan. -/
def Scan.failures (scan : Scan) : Omission where
  modules := (scan.fileVisits.filter fun visit => visit.failure?.isSome).map FileVisit.name
  classes := (scan.classVisits.filter fun visit => (visit.failure? scan.setup).isSome).map
    ClassVisit.number

/-- A class that fails starts no set-up that adds relationships. Where a class does not fail, the
registries that are lost could not be set up. -/
structure ClassVisit.Contained (setup : Setup) (visit : ClassVisit) : Prop where
  quiet : (visit.failure? setup).isSome → ∀ number ∈ (visit.plan setup).2.world.configured,
    number ∈ visit.before.world.configured ∨ visit.before.world.AsksNothing number
  settled : visit.failure? setup = none → ∀ registry ∈ visit.before.world.failed,
    visit.before.world.isSatisfied registry = false

instance (setup : Setup) (visit : ClassVisit) : Decidable (visit.Contained setup) :=
  decidable_of_iff (((visit.failure? setup).isSome →
      ∀ number ∈ (visit.plan setup).2.world.configured,
        number ∈ visit.before.world.configured ∨ visit.before.world.AsksNothing number) ∧
      (visit.failure? setup = none → ∀ registry ∈ visit.before.world.failed,
        visit.before.world.isSatisfied registry = false))
    ⟨fun ⟨quiet, settled⟩ => ⟨quiet, settled⟩, fun ⟨quiet, settled⟩ => ⟨quiet, settled⟩⟩

/-- Module files, each with the world in which it would be imported without the failing imports
directly before it. -/
def undisturbed : Option World → List FileVisit → List (World × FileVisit)
  | _, [] => []
  | waiting, visit :: rest =>
    let clear := waiting.getD visit.before.world
    (clear, visit) :: undisturbed (visit.failure?.map fun _ => clear) rest

/-- The import of the module does the same without the failing imports directly before it. -/
def Absorbs (clear : World) (visit : FileVisit) : Prop :=
  (Catalog.importModule clear visit.name).2 = .ok () ∧
    World.Alike (Catalog.importModule clear visit.name).1 visit.imported.1

instance (clear : World) (visit : FileVisit) : Decidable (Absorbs clear visit) :=
  decidable_of_iff ((Catalog.importModule clear visit.name).2.toOption = some () ∧
      World.Alike (Catalog.importModule clear visit.name).1 visit.imported.1) <| by
    unfold Absorbs
    cases (Catalog.importModule clear visit.name).2 <;> simp [Except.toOption]

/-- Failures of a scan stay where they happen: the imports that succeed make up for those that failed
before them, classes are contained, and what fails once fails each time. -/
structure Scan.Contained (scan : Scan) : Prop where
  imports : ∀ entry ∈ undisturbed none scan.fileVisits,
    entry.2.failure? = none → Absorbs entry.1 entry.2
  classes : ∀ visit ∈ scan.classVisits, visit.Contained scan.setup
  sameModules : ∀ visit ∈ scan.fileVisits,
    visit.name ∈ scan.failures.modules → visit.failure?.isSome
  sameClasses : ∀ visit ∈ scan.classVisits,
    visit.number ∈ scan.failures.classes → (visit.failure? scan.setup).isSome

instance (scan : Scan) : Decidable scan.Contained :=
  decidable_of_iff ((∀ entry ∈ undisturbed none scan.fileVisits,
        entry.2.failure? = none → Absorbs entry.1 entry.2) ∧
      (∀ visit ∈ scan.classVisits, visit.Contained scan.setup) ∧
      (∀ visit ∈ scan.fileVisits, visit.name ∈ scan.failures.modules → visit.failure?.isSome) ∧
      ∀ visit ∈ scan.classVisits,
        visit.number ∈ scan.failures.classes → (visit.failure? scan.setup).isSome)
    ⟨fun ⟨imports, classes, sameModules, sameClasses⟩ =>
        ⟨imports, classes, sameModules, sameClasses⟩,
      fun ⟨imports, classes, sameModules, sameClasses⟩ =>
        ⟨imports, classes, sameModules, sameClasses⟩⟩

/-! ## Two scans side by side -/

section Follow

variable {setup : Setup} {omission : Omission} {other : State}

/-- A class that has a block has it in the scan that leaves out. -/
theorem follow_class {visit : ClassVisit} (contained : visit.Contained setup)
    (succeeds : visit.failure? setup = none) (follows : Follows visit.before other) :
    (classPlan setup visit.source visit.number other).targets = (visit.plan setup).targets ∧
      Follows (visit.plan setup).2 (classPlan setup visit.source visit.number other).2 := by
  have settled : World.Settled visit.before.world other.world :=
    fun registry lost => .inr (contained.settled succeeds registry lost)
  have sameClass := follows.ahead.alike.class? visit.number
  have targets := classPlan_targets setup visit
  have otherTargets := classPlan_targets setup ⟨visit.source, visit.number, other⟩
  unfold ClassVisit.target? at targets otherTargets
  unfold ClassVisit.plan at targets otherTargets ⊢
  simp only [sameClass] at otherTargets
  cases found : visit.before.world.class? visit.number with
  | none =>
      rw [found] at targets otherTargets
      refine ⟨otherTargets.trans targets.symm, ?_⟩
      unfold classPlan
      rw [sameClass, found]
      exact follows
  | some object =>
      obtain ⟨sameResult, stays⟩ :=
        documentClass_follows setup follows settled visit.source visit.number object
      rw [found, Option.bind_some] at targets otherTargets
      rw [classPlan_snd setup found, classPlan_snd setup (sameClass.trans found)]
      refine ⟨?_, stays⟩
      rw [otherTargets, targets, sameResult]

/-- A class that fails may be left out. -/
theorem leave_class {visit : ClassVisit} (contained : visit.Contained setup)
    (fails : (visit.failure? setup).isSome) (follows : Follows visit.before other) :
    (visit.plan setup).targets = [] ∧ Follows (visit.plan setup).2 other := by
  have noTarget := ClassVisit.target?_of_failure? fails
  have quiet := contained.quiet fails
  obtain ⟨reason, isFailure⟩ := Option.isSome_iff_exists.mp fails
  obtain ⟨object, cause, found, result, -⟩ := ClassVisit.failure?_eq_some_iff.mp isFailure
  obtain ⟨sameWorld, sameDialect⟩ := documentClass_failed setup result
  have after : (visit.plan setup).2 =
      (documentClass setup visit.source visit.number object visit.before).1 :=
    classPlan_snd setup found
  rw [after, sameWorld] at quiet
  refine ⟨?_, ?_, ?_⟩
  · rw [classPlan_targets, noTarget, Option.toList_none]
  · rw [after, sameWorld]
    exact follows.ahead.instantiate_left quiet
  · rw [after, sameDialect]
    exact follows.dialect

theorem follow_classes {source : Path} {numbers : List Nat} {state : State}
    (follows : Follows state other)
    (contained : ∀ visit ∈ classVisits setup source numbers state, visit.Contained setup)
    (omits : ∀ visit ∈ classVisits setup source numbers state,
      visit.number ∈ omission.classes ↔ (visit.failure? setup).isSome) :
    let whole := Plan.forEach (classPlan setup source) numbers state
    let rest := Plan.forEach (classPlan setup source)
      (numbers.filter fun number => !omission.classes.contains number) other
    rest.targets = whole.targets ∧ Follows whole.2 rest.2 := by
  induction numbers generalizing state other with
  | nil => exact ⟨rfl, follows⟩
  | cons number numbers inductionHypothesis =>
      have first := contained ⟨source, number, state⟩ List.mem_cons_self
      have isOmitted := omits ⟨source, number, state⟩ List.mem_cons_self
      have later := fun visit member => contained visit (List.mem_cons_of_mem _ member)
      have omitsLater := fun visit member => omits visit (List.mem_cons_of_mem _ member)
      simp only [Plan.forEach, Plan.targets_andThen]
      cases fails : ClassVisit.failure? setup ⟨source, number, state⟩ with
      | some reason =>
          have isFailure : (ClassVisit.failure? setup ⟨source, number, state⟩).isSome := by
            rw [fails, Option.isSome_some]
          have inOmission : number ∈ omission.classes := isOmitted.mpr isFailure
          obtain ⟨noTargets, stays⟩ := leave_class first isFailure follows
          rw [List.filter_cons_of_neg (by simpa using inOmission)]
          have others := inductionHypothesis stays later omitsLater
          rw [show (classPlan setup source number state).targets = [] from noTargets,
            List.nil_append]
          exact others
      | none =>
          have notInOmission : number ∉ omission.classes := by simp [isOmitted, fails]
          obtain ⟨sameTargets, stays⟩ := follow_class first fails follows
          rw [List.filter_cons_of_pos (by simpa using notInOmission)]
          have others := inductionHypothesis stays later omitsLater
          simp only [Plan.forEach, Plan.targets_andThen]
          refine ⟨congrArg₂ (· ++ ·) sameTargets others.1, others.2⟩

theorem modelsIn_alike {world second : World} (alike : World.Alike world second)
    (catalog : Catalog) (name : Text) : catalog.modelsIn second name = catalog.modelsIn world name := by
  have sameDerives (number ancestor : Nat) :
      second.derives number ancestor = world.derives number ancestor := by
    unfold World.derives
    rw [alike.class?]
  have sameModel (number : Nat) : catalog.isModel second number = catalog.isModel world number := by
    unfold Catalog.isModel
    rw [alike.class?]
    cases catalog.base with
    | none => rfl
    | some base => simp only [sameDerives]
  unfold Catalog.modelsIn
  rw [alike.modules]
  refine congrArg (List.filterMap · _) (funext fun entry => ?_)
  cases entry.2 with
  | classObject number => simp only [alike.class?, sameModel]
  | _ => rfl

/-- The second state is behind the first one as it was before the failing imports made last, in the
given world. -/
structure Trails (clear : World) (state other : State) : Prop where
  follows : Follows { state with world := clear } other
  marks : clear.failed = state.world.failed ∧ clear.configured = state.world.configured

theorem Trails.opens {waiting : Option World} {state : State}
    (trails : Trails (waiting.getD state.world) state other) (package : Mapping) :
    Trails (waiting.getD (Stop.plan setup (.opens package) state).2.world)
      (Stop.plan setup (.opens package) state).2
      (Stop.planWithout setup omission (.opens package) other).2 := by
  have importable (world : World) : ∃ path,
      world.ensureImportable package.sourceRoot = { world with searchPath := path } := by
    unfold World.ensureImportable
    split
    · exact ⟨world.searchPath, rfl⟩
    · exact ⟨_, rfl⟩
  obtain ⟨path, isImportable⟩ := importable state.world
  obtain ⟨otherPath, otherIsImportable⟩ := importable other.world
  have after : (Stop.plan setup (.opens package) state).2 =
      { state with world := { state.world with searchPath := path } } := by
    rw [← isImportable]
    rfl
  have otherAfter : (Stop.planWithout setup omission (.opens package) other).2 =
      { other with world := { other.world with searchPath := otherPath } } := by
    rw [← otherIsImportable]
    rfl
  rw [after, otherAfter]
  cases waiting with
  | none =>
      exact ⟨⟨trails.follows.ahead.searchPath path otherPath, trails.follows.dialect⟩, ⟨rfl, rfl⟩⟩
  | some clear =>
      exact ⟨⟨trails.follows.ahead.searchPath clear.searchPath otherPath, trails.follows.dialect⟩,
        trails.marks⟩

/-- A module that cannot be imported may be left out; its import waits for the next one. -/
theorem leave_file {visit : FileVisit} {clear : World} (trails : Trails clear visit.before other)
    (fails : visit.failure?.isSome) :
    (visit.plan setup).targets = [] ∧ Trails clear (visit.plan setup).2 other := by
  obtain ⟨reason, isFailure⟩ := Option.isSome_iff_exists.mp fails
  obtain ⟨sameFailed, sameConfigured⟩ :=
    Catalog.marks_importModule visit.before.world visit.name
  rw [filePlan_failed setup isFailure]
  exact ⟨rfl, trails.follows, ⟨trails.marks.1.trans sameFailed.symm,
    trails.marks.2.trans sameConfigured.symm⟩⟩

theorem planWithout_file_left {package : Mapping} {path : Path}
    (left : (package.moduleName? path).getD [] ∈ omission.modules) :
    Stop.planWithout setup omission (.file package path) other = Plan.none other :=
  if_pos (List.contains_iff_mem.mpr left)

theorem planWithout_file {package : Mapping} {path : Path}
    (kept : (package.moduleName? path).getD [] ∉ omission.modules)
    {world : World} (isImported :
      Catalog.importModule other.world ((package.moduleName? path).getD []) = (world, .ok ())) :
    Stop.planWithout setup omission (.file package path) other =
      Plan.forEach (classPlan setup (FileTree.resolve path))
        ((setup.catalog.modelsIn world ((package.moduleName? path).getD [])).filter fun number =>
          !omission.classes.contains number) { other with world } := by
  unfold Stop.planWithout
  simp only [List.contains_eq_mem, kept, decide_false, Bool.false_eq_true, if_false, isImported]

/-- A module that is imported has the same blocks in the scan that leaves out. -/
theorem follow_file {visit : FileVisit} {clear : World} (trails : Trails clear visit.before other)
    (absorbs : Absorbs clear visit) (succeeds : visit.failure? = none)
    (kept : visit.name ∉ omission.modules)
    (contained : ∀ found ∈ visit.classVisits setup, found.Contained setup)
    (omits : ∀ found ∈ visit.classVisits setup,
      found.number ∈ omission.classes ↔ (found.failure? setup).isSome) :
    let rest := Stop.planWithout setup omission (.file visit.package visit.path) other
    rest.targets = (visit.plan setup).targets ∧
      Trails (visit.plan setup).2.world (visit.plan setup).2 rest.2 := by
  obtain ⟨isOk, absorbed⟩ := absorbs
  obtain ⟨sameResult, stays⟩ := trails.follows.ahead.importModule trails.marks absorbed
  rw [isOk] at sameResult
  have otherImported : Catalog.importModule other.world visit.name =
      ((Catalog.importModule other.world visit.name).1, .ok ()) := by rw [← sameResult]
  have sameModels : setup.catalog.modelsIn (Catalog.importModule other.world visit.name).1
      visit.name = visit.models setup := by
    rw [modelsIn_alike stays.alike]
    rw [FileVisit.models, FileVisit.imported_of_succeeds succeeds]
    rfl
  intro rest
  have isRest : rest = Plan.forEach (classPlan setup (FileTree.resolve visit.path))
      ((visit.models setup).filter fun number => !omission.classes.contains number)
      { other with world := (Catalog.importModule other.world visit.name).1 } := by
    rw [← sameModels]
    exact planWithout_file kept otherImported
  have imported : Follows { visit.before with world := visit.imported.1 }
      { other with world := (Catalog.importModule other.world visit.name).1 } :=
    ⟨stays, trails.follows.dialect⟩
  obtain ⟨sameTargets, follows⟩ := follow_classes imported contained omits
  rw [isRest, filePlan_imported setup succeeds]
  exact ⟨sameTargets, follows, ⟨rfl, rfl⟩⟩

/-- The scan that leaves out has the same blocks, in the same order. -/
theorem follow_stops {stops : List Stop} {state : State} {waiting : Option World}
    (trails : Trails (waiting.getD state.world) state other)
    (absorb : ∀ entry ∈ undisturbed waiting (fileVisits setup stops state),
      entry.2.failure? = none → Absorbs entry.1 entry.2)
    (contained : ∀ visit ∈ fileVisits setup stops state,
      ∀ found ∈ visit.classVisits setup, found.Contained setup)
    (omitsModules : ∀ visit ∈ fileVisits setup stops state,
      visit.name ∈ omission.modules ↔ visit.failure?.isSome)
    (omitsClasses : ∀ visit ∈ fileVisits setup stops state, ∀ found ∈ visit.classVisits setup,
      found.number ∈ omission.classes ↔ (found.failure? setup).isSome) :
    (Plan.forEach (Stop.planWithout setup omission) stops other).targets =
      (Plan.forEach (Stop.plan setup) stops state).targets := by
  induction stops generalizing state other waiting with
  | nil => rfl
  | cons stop rest inductionHypothesis =>
      rw [Plan.forEach, Plan.forEach, Plan.targets_andThen, Plan.targets_andThen]
      cases stop with
      | opens package =>
          show [] ++ _ = [] ++ _
          refine congrArg ([] ++ ·) ?_
          apply inductionHypothesis _ absorb contained omitsModules omitsClasses
          exact trails.opens package
      | file package path =>
          have isOmitted := omitsModules ⟨package, path, state⟩ List.mem_cons_self
          have later := fun visit member => contained visit (List.mem_cons_of_mem _ member)
          have omitsLater := fun visit member => omitsModules visit (List.mem_cons_of_mem _ member)
          have omitsClassesLater :=
            fun visit member => omitsClasses visit (List.mem_cons_of_mem _ member)
          have absorbLater := fun entry member => absorb entry (List.mem_cons_of_mem _ member)
          cases fails : FileVisit.failure? ⟨package, path, state⟩ with
          | some reason =>
              have isFailure : (FileVisit.failure? ⟨package, path, state⟩).isSome := by
                rw [fails, Option.isSome_some]
              obtain ⟨noTargets, stays⟩ := leave_file trails isFailure
              rw [fails, Option.map_some] at absorbLater
              rw [planWithout_file_left (isOmitted.mpr isFailure)]
              refine congrArg₂ (· ++ ·) noTargets.symm ?_
              exact inductionHypothesis stays absorbLater later omitsLater omitsClassesLater
          | none =>
              have kept : FileVisit.name ⟨package, path, state⟩ ∉ omission.modules := by
                simp [isOmitted, fails]
              obtain ⟨sameTargets, stays⟩ := follow_file trails
                (absorb (waiting.getD state.world, ⟨package, path, state⟩) List.mem_cons_self fails)
                fails kept (contained _ List.mem_cons_self) (omitsClasses _ List.mem_cons_self)
              rw [fails, Option.map_none] at absorbLater
              refine congrArg₂ (· ++ ·) sameTargets ?_
              apply inductionHypothesis _ absorbLater later omitsLater omitsClassesLater
              exact stays

end Follow

/-! ## Runs without what fails -/

namespace Scan

variable {scan : Scan}

theorem mem_failures_modules {visit : FileVisit} (contained : scan.Contained)
    (member : visit ∈ scan.fileVisits) :
    visit.name ∈ scan.failures.modules ↔ visit.failure?.isSome := by
  constructor
  · exact contained.sameModules visit member
  · intro fails
    exact List.mem_map_of_mem (List.mem_filter.mpr ⟨member, fails⟩)

theorem mem_failures_classes {visit : ClassVisit} (contained : scan.Contained)
    (member : visit ∈ scan.classVisits) :
    visit.number ∈ scan.failures.classes ↔ (visit.failure? scan.setup).isSome := by
  constructor
  · exact contained.sameClasses visit member
  · intro fails
    exact List.mem_map_of_mem (List.mem_filter.mpr ⟨member, fails⟩)

/-- A scan that leaves out what fails has the targets of the whole scan. -/
theorem targets_planWithout (contained : scan.Contained) :
    (scan.planWithout scan.failures).targets = scan.plan.targets := by
  rw [planWithout, plan, scanPlan_eq]
  have trails : Trails ((none : Option World).getD scan.start.world) scan.start scan.start :=
    ⟨⟨World.Ahead.refl _, rfl⟩, ⟨rfl, rfl⟩⟩
  apply follow_stops trails contained.imports
  · intro visit isFile found isClass
    exact contained.classes found (List.mem_flatMap.mpr ⟨visit, isFile, isClass⟩)
  · intro visit isFile
    exact mem_failures_modules contained isFile
  · intro visit isFile found isClass
    exact mem_failures_classes contained (List.mem_flatMap.mpr ⟨visit, isFile, isClass⟩)

/-- A class that fails somewhere in the scan has no block anywhere in it. -/
theorem target?_of_mem_failures {visit : ClassVisit} (contained : scan.Contained)
    (member : visit ∈ scan.classVisits) (left : visit.number ∈ scan.failures.classes) :
    visit.target? scan.setup = none :=
  ClassVisit.target?_of_failure? ((mem_failures_classes contained member).mp left)

end Scan

section Complete

variable {nameOf : Text → Option Nat} {dryRun : Bool} {project : Project} {model : Text}
  {search : SearchState} {steps : Plan}

/-- What completes a plan does for the project is a matter of its targets. -/
theorem complete_congr {others : Plan} (same : others.targets = steps.targets) :
    (complete nameOf dryRun project model search others).effects =
        (complete nameOf dryRun project model search steps).effects ∧
      (complete nameOf dryRun project model search others).abort =
        (complete nameOf dryRun project model search steps).abort := by
  have effects := @complete_effects nameOf dryRun project model search steps
  have otherEffects := @complete_effects nameOf dryRun project model search others
  rw [same, ← effects] at otherEffects
  exact Prod.mk.inj otherEffects

/-- A plan that completes hands its targets to the writer, or shows them. -/
theorem handed_append_shown
    (completes : (complete nameOf dryRun project model search steps).abort = none) :
    (complete nameOf dryRun project model search steps).handed ++
        (complete nameOf dryRun project model search steps).shown = steps.targets := by
  cases dryRun with
  | true =>
      obtain ⟨-, -, -, isShown, isHanded⟩ := complete_dry project model search steps
      rw [isHanded, isShown, List.nil_append]
  | false =>
      obtain ⟨-, isShown, -⟩ := (names_complete completes).2.1 rfl
      obtain ⟨isHanded, -⟩ := complete_real completes
      rw [isHanded, isShown, List.append_nil]

end Complete

/-- What fails in the scan of a run, if the run gets that far. -/
def failuresOf (settings : Settings) (project : Project) (packages : List Text) : Omission :=
  ((scan? settings project packages).map Scan.failures).getD ⟨[], []⟩

/-- The failures of a run's scan stay where they happen. -/
def FailuresStay (settings : Settings) (project : Project) (packages : List Text) : Prop :=
  ∀ scan ∈ scan? settings project packages, scan.Contained

instance (settings : Settings) (project : Project) (packages : List Text) :
    Decidable (FailuresStay settings project packages) :=
  inferInstanceAs (Decidable (∀ scan ∈ scan? settings project packages, scan.Contained))

/-- A run for packages does what it does without the modules and classes that fail, if the failures
stay where they happen. When no block fails to be written, each of these modules and classes is
reported as skipped, and no block of it is shown or handed to the writer. -/
theorem failures_stay_apart (nameOf : Text → Option Nat) (settings : Settings) (project : Project)
    (packages : List Text) (stays : FailuresStay settings project packages) :
    let whole := run nameOf settings project [] packages
    let rest := runWithout nameOf settings project packages
      (failuresOf settings project packages)
    rest.effects = whole.effects ∧ rest.abort = whole.abort ∧
      ∀ scan ∈ scan? settings project packages,
        whole.abort = none →
          whole.handed ++ whole.shown =
              scan.classVisits.filterMap (ClassVisit.target? scan.setup) ∧
            (∀ visit ∈ scan.fileVisits, visit.name ∈ scan.failures.modules →
              visit.classVisits scan.setup = [] ∧
                visit.name ∈ whole.report.skipped.map Prod.fst) ∧
            ∀ visit ∈ scan.classVisits, visit.number ∈ scan.failures.classes →
              visit.target? scan.setup = none ∧
                visit.fullName ∈ whole.report.skipped.map Prod.fst := by
  intro whole rest
  have isWhole : whole = match scanOf settings project packages with
      | (search, .error abort) => .early project search.world search.records abort
      | (search, .ok scan) => complete nameOf settings.dryRun project [] search scan.plan :=
    run_scan nameOf settings project packages
  have isRest : rest = match scanOf settings project packages with
      | (search, .error abort) => .early project search.world search.records abort
      | (search, .ok scan) => complete nameOf settings.dryRun project [] search
          (scan.planWithout (failuresOf settings project packages)) := rfl
  unfold FailuresStay scan? at stays
  unfold failuresOf scan? at isRest
  unfold scan?
  rcases isScan : scanOf settings project packages with ⟨search, abort | scan⟩
  · rw [isScan] at isWhole isRest
    rw [isWhole, isRest]
    exact ⟨rfl, rfl, fun scan isScan => absurd isScan (by simp [Except.toOption])⟩
  · rw [isScan] at stays isWhole isRest
    have contained : scan.Contained := stays scan rfl
    replace isRest : rest = complete nameOf settings.dryRun project [] search
        (scan.planWithout scan.failures) := isRest
    simp only at isWhole
    obtain ⟨sameEffects, sameAbort⟩ :=
      @complete_congr nameOf settings.dryRun project [] search scan.plan
        (scan.planWithout scan.failures) (Scan.targets_planWithout contained)
    rw [isWhole, isRest]
    refine ⟨sameEffects, sameAbort, ?_⟩
    intro otherScan same completes
    obtain rfl := Option.some.inj same
    obtain ⟨isSkipped, -⟩ := names_complete completes
    refine ⟨(handed_append_shown completes).trans scan.targets_eq, ?_, ?_⟩
    · intro visit member left
      have fails := contained.sameModules visit member left
      refine ⟨classVisits_failed scan.setup fails, ?_⟩
      rw [isSkipped, scan.mem_keys_skipped]
      exact List.mem_append_left _ left
    · intro visit member left
      have fails := contained.sameClasses visit member left
      refine ⟨scan.target?_of_mem_failures contained member left, ?_⟩
      rw [isSkipped, scan.mem_keys_skipped]
      apply List.mem_append_right
      exact List.mem_map_of_mem (List.mem_filter.mpr ⟨member, fails⟩)

/-! Projects of three packages that are scanned and one that is not, each with one module. -/

def packageModule (name : Text) (items : List Item) : ModuleDescription :=
  ⟨"app.".toList ++ name, some ("app/".toList ++ name ++ "/__init__.py".toList), items⟩

def packagesProject (packages : List (Text × List Item)) : Project where
  root := .project
  tree := ⟨packages.map fun entry => (["app".toList, entry.1, "__init__.py".toList],
    Encoding.encodeUtf8 "class User:\n    pass\nclass Post:\n    pass\n".toList), []⟩
  world := .create (packages.map fun entry => packageModule entry.1 entry.2) []
  database := .ofFile (["users".toList, "posts".toList].map fun name =>
    ⟨name, [⟨"id".toList, "INTEGER".toList⟩]⟩)

def scannedPackages : List Text :=
  ["app.first".toList, "app.second".toList, "app.third".toList]

def takes (package name : String) : Item :=
  .fromModule ("app.".toList ++ package.toList) name.toList name.toList

def breaks : Item :=
  .raise ⟨"RuntimeError".toList, "boom".toList⟩

/-- The first package cannot be imported, and the class of the second one has no table. -/
def faultyProject : Project :=
  packagesProject [("base".toList, [.define baseClass]),
    ("first".toList, [takes "base" "Base", breaks]),
    ("second".toList, [takes "base" "Base", .define (modelClass "Ghost" "ghosts" [])]),
    ("third".toList, [takes "base" "Base", .define (modelClass "User" "users" [])])]

theorem failures_stay_apart_sample :
    FailuresStay shopSettings faultyProject scannedPackages ∧
      (run (fun _ => none) shopSettings faultyProject [] scannedPackages).report.updated =
        ["app.third.User".toList] ∧
      (runWithout (fun _ => none) shopSettings faultyProject scannedPackages
          (failuresOf shopSettings faultyProject scannedPackages)).effects =
        (run (fun _ => none) shopSettings faultyProject [] scannedPackages).effects := by
  have stays : FailuresStay shopSettings faultyProject scannedPackages := by decide +kernel
  have same := failures_stay_apart (fun _ => none) shopSettings faultyProject scannedPackages stays
  exact ⟨stays, by decide +kernel, same.1⟩

/-- The first package cannot be imported either, but by then it has imported the third one, to which
the class of the second one has a relationship. -/
def entangledProject : Project :=
  packagesProject [("base".toList, [.define baseClass]),
    ("first".toList, [takes "third" "Post", breaks]),
    ("second".toList, [takes "base" "Base", .define (modelClass "User" "users" [("posts".toList,
      .relationship ⟨"Post".toList, some .oneToMany, none, false, none⟩)])]),
    ("third".toList, [takes "base" "Base", .define (modelClass "Post" "posts" [])])]

/-- Without the failing import the relationship has no target, and no class can be instantiated. -/
theorem failing_import_leaves_module :
    let whole := run (fun _ => none) shopSettings entangledProject [] scannedPackages
    let rest := runWithout (fun _ => none) shopSettings entangledProject scannedPackages
      (failuresOf shopSettings entangledProject scannedPackages)
    whole.abort = none ∧
      whole.report.updated = ["app.second.User".toList, "app.third.Post".toList] ∧
      rest.abort = none ∧ rest.report.updated = [] := by
  intro whole rest
  have done : (whole.abort.isNone, whole.report.updated) =
      (true, ["app.second.User".toList, "app.third.Post".toList]) := by decide +kernel
  have nothing : (rest.abort.isNone, rest.report.updated) = (true, []) := by decide +kernel
  obtain ⟨completes, isUpdated⟩ := Prod.mk.inj done
  obtain ⟨restCompletes, noneUpdated⟩ := Prod.mk.inj nothing
  exact ⟨Option.isNone_iff_eq_none.mp completes, isUpdated,
    Option.isNone_iff_eq_none.mp restCompletes, noneUpdated⟩

/-- In the first package there is a class without a table. When it is instantiated, it gives the class
of the third package a relationship; later a column of the same name stands in the way. -/
def backReferenceProject : Project :=
  packagesProject [("base".toList, [.define baseClass]),
    ("first".toList, [takes "base" "Base", takes "third" "User",
      .define (modelClass "Ghost" "ghosts" [("owner".toList, .relationship
        ⟨"User".toList, some .manyToOne, none, false, some "posts".toList⟩)])]),
    ("second".toList, [takes "third" "User", .define
      { modelClass "Post" "posts" [("posts".toList, .column)] with bases := ["User".toList] }]),
    ("third".toList, [takes "base" "Base", .define (modelClass "User" "users" [])])]

/-- What a failing class sets up can matter as well. -/
example :
    (run (fun _ => none) shopSettings backReferenceProject [] scannedPackages).report.updated =
        ["app.second.Post".toList, "app.third.User".toList] ∧
      (runWithout (fun _ => none) shopSettings backReferenceProject scannedPackages
        (failuresOf shopSettings backReferenceProject scannedPackages)).report.updated = [] := by
  decide +kernel

end SchemaDoc.Generation
