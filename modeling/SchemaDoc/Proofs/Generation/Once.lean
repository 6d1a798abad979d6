import Mathlib.Data.List.Nodup
import SchemaDoc.Proofs.Generation.DryRun
import SchemaDoc.Proofs.Generation.Visits

/-!
Contract: when a report names every class once.

Nothing in a run removes what comes twice. A class is reported once if and only if the scan comes to
it once, and to nothing that fails under its name (`Scan.ReachesOnce`, `reports_once`). This is so
when no module with models is scanned twice, no module binds two names to one of its models, and no
two things that are scanned have one name (`Scan.Distinct`).
-/

namespace SchemaDoc.Generation

open Program

/-! ## Reports -/

/-- The report names every class once; classes are known by their names with their modules. -/
structure Outcome.ReportsOnce (outcome : Outcome) : Prop where
  updated : outcome.report.updated.Nodup
  shown : (outcome.shown.map Target.fullName).Nodup
  skipped : ∀ name ∈ outcome.report.skipped.map Prod.fst,
    name ∉ outcome.report.updated ∧ name ∉ outcome.report.previewed.map Prod.fst

/-- The targets of a plan have different names, and what the plan leaves out has others. -/
structure Plan.NamesOnce (plan : Plan) : Prop where
  targets : (plan.targets.map Target.fullName).Nodup
  skipped : ∀ name ∈ plan.skipped.map Prod.fst, name ∉ plan.targets.map Target.fullName

section Assign

variable {α β : Type}

theorem mem_keys_assign {name other : Text} {value : α} {entries : List (Text × α)} :
    other ∈ (World.assign name value entries).map Prod.fst ↔
      other = name ∨ other ∈ entries.map Prod.fst := by
  induction entries with
  | nil => simp [World.assign]
  | cons entry rest inductionHypothesis =>
      unfold World.assign
      split
      · next same => simp [← same]
      · simp only [List.map_cons, List.mem_cons, inductionHypothesis]
        exact or_left_comm

theorem mem_keys_assignAll {key : β → Text} {value : β → α} {items : List β}
    {entries : List (Text × α)} {other : Text} :
    other ∈ (items.foldl (fun done item => World.assign (key item) (value item) done)
        entries).map Prod.fst ↔
      other ∈ items.map key ∨ other ∈ entries.map Prod.fst := by
  induction items generalizing entries with
  | nil => simp
  | cons item rest inductionHypothesis =>
      rw [List.foldl_cons, inductionHypothesis, mem_keys_assign, List.map_cons, List.mem_cons,
        or_left_comm, or_assoc]

end Assign

section Complete

variable {nameOf : Text → Option Nat} {dryRun : Bool} {project : Project} {model : Text}
  {search : SearchState} {steps : Plan}

/-- The names in the report of a complete run are those in its plan. -/
theorem names_complete
    (completes : (complete nameOf dryRun project model search steps).abort = none) :
    let outcome := complete nameOf dryRun project model search steps
    (∀ name, name ∈ outcome.report.skipped.map Prod.fst ↔ name ∈ steps.skipped.map Prod.fst) ∧
      (dryRun = false → outcome.report.updated = steps.targets.map Target.fullName ∧
        outcome.shown = [] ∧ outcome.report.previewed = []) ∧
      (dryRun = true → outcome.report.updated = [] ∧ outcome.shown = steps.targets ∧
        ∀ name, name ∈ outcome.report.previewed.map Prod.fst ↔
          name ∈ steps.targets.map Target.fullName) := by
  intro outcome
  have effects := @complete_effects nameOf dryRun project model search steps
  refine ⟨fun name => ?_, ?_, ?_⟩
  · rw [complete_skipped _ _ _ _ completes, mem_keys_assignAll]
    simp
  · rintro rfl
    have whole : (Effects.useAll nameOf false steps.targets (.start project.tree)).2 = none :=
      Option.map_eq_none_iff.mp ((congrArg Prod.snd effects).symm.trans completes)
    obtain ⟨-, isUpdated, isPreviewed, isShown⟩ :=
      Effects.useAll_write (Prod.ext (rfl : _ = (Effects.useAll nameOf false steps.targets
        (.start project.tree)).1) whole)
    have run := congrArg Prod.fst effects
    exact ⟨(congrArg Effects.updated run).trans isUpdated,
      (congrArg Effects.shown run).trans isShown,
      (congrArg Effects.previewed run).trans isPreviewed⟩
  · rintro rfl
    rw [Effects.useAll_preview] at effects
    have run := congrArg Prod.fst effects
    refine ⟨congrArg Effects.updated run, congrArg Effects.shown run, fun name => ?_⟩
    have isPreviewed := congrArg Effects.previewed run
    simp only at isPreviewed
    rw [show outcome.report.previewed = _ from isPreviewed, mem_keys_assignAll]
    simp [Effects.start]

theorem reportsOnce_complete_iff
    (completes : (complete nameOf dryRun project model search steps).abort = none) :
    (complete nameOf dryRun project model search steps).ReportsOnce ↔ steps.NamesOnce := by
  obtain ⟨isSkipped, real, dry⟩ := names_complete completes
  cases dryRun with
  | false =>
      obtain ⟨isUpdated, isShown, isPreviewed⟩ := real rfl
      constructor
      · rintro ⟨updated, -, skipped⟩
        rw [isUpdated] at updated skipped
        exact ⟨updated, fun name member => (skipped name ((isSkipped name).mpr member)).1⟩
      · rintro ⟨targets, skipped⟩
        refine ⟨?_, ?_, fun name member => ⟨?_, ?_⟩⟩
        · rw [isUpdated]
          exact targets
        · rw [isShown]
          exact List.nodup_nil
        · rw [isUpdated]
          exact skipped name ((isSkipped name).mp member)
        · rw [isPreviewed]
          exact List.not_mem_nil
  | true =>
      obtain ⟨isUpdated, isShown, isPreviewed⟩ := dry rfl
      constructor
      · rintro ⟨-, shown, skipped⟩
        rw [isShown] at shown
        refine ⟨shown, fun name member target => ?_⟩
        have unseen := (skipped name ((isSkipped name).mpr member)).2
        exact unseen ((isPreviewed name).mpr target)
      · rintro ⟨targets, skipped⟩
        refine ⟨?_, ?_, fun name member => ⟨?_, fun previewed => ?_⟩⟩
        · rw [isUpdated]
          exact List.nodup_nil
        · rw [isShown]
          exact targets
        · rw [isUpdated]
          exact List.not_mem_nil
        · exact skipped name ((isSkipped name).mp member) ((isPreviewed name).mp previewed)

end Complete

/-! ## Scans -/

namespace ClassVisit

variable {setup : Setup} {visit : ClassVisit}

/-- A class that has a block does not fail. -/
theorem failure?_of_target? (isReady : (visit.target? setup).isSome) :
    visit.failure? setup = none := by
  obtain ⟨target, isTarget⟩ := Option.isSome_iff_exists.mp isReady
  obtain ⟨object, found, result⟩ := target?_eq_some_iff.mp isTarget
  rw [failure?, found, Option.bind_some, result]

theorem target?_of_failure? (fails : (visit.failure? setup).isSome) :
    visit.target? setup = none := by
  rw [← Option.not_isSome_iff_eq_none]
  intro isReady
  rw [failure?_of_target? isReady] at fails
  exact absurd fails (by simp)

end ClassVisit

namespace Scan

variable (scan : Scan)

/-- The names of the classes that have a block, as the scan comes to them. -/
def readyNames : List Text :=
  (scan.classVisits.filter fun visit => (visit.target? scan.setup).isSome).map ClassVisit.fullName

/-- The names of the modules and classes that fail. -/
def failedNames : List Text :=
  (scan.fileVisits.filter fun visit => visit.failure?.isSome).map FileVisit.name ++
    (scan.classVisits.filter fun visit => (visit.failure? scan.setup).isSome).map
      ClassVisit.fullName

/-- The scan comes once to every class that has a block, and to nothing that fails under its name. -/
structure ReachesOnce : Prop where
  ready : scan.readyNames.Nodup
  failed : ∀ name ∈ scan.failedNames, name ∉ scan.readyNames

/-- No module with models is scanned twice, no module binds two names to one of its models, and what
is scanned has names of its own. -/
structure Distinct : Prop where
  modules : ((scan.fileVisits.filter fun visit => !(visit.models scan.setup).isEmpty).map
    FileVisit.name).Nodup
  bindings : ∀ visit ∈ scan.fileVisits, (visit.models scan.setup).Nodup
  classes : ∀ visit ∈ scan.classVisits, ∀ other ∈ scan.classVisits,
    visit.fullName = other.fullName → visit.number = other.number
  apart : ∀ visit ∈ scan.fileVisits, visit.failure?.isSome →
    ∀ other ∈ scan.classVisits, visit.name ≠ other.fullName

theorem map_fullName_targets : scan.plan.targets.map Target.fullName = scan.readyNames := by
  rw [targets_eq, readyNames]
  induction scan.classVisits with
  | nil => rfl
  | cons visit rest inductionHypothesis =>
      cases isReady : visit.target? scan.setup with
      | none =>
          rw [List.filterMap_cons_none isReady, List.filter_cons_of_neg (by simp [isReady])]
          exact inductionHypothesis
      | some target =>
          rw [List.filterMap_cons_some isReady, List.filter_cons_of_pos (by simp [isReady]),
            List.map_cons, List.map_cons, inductionHypothesis,
            (ClassVisit.of_target? isReady).2]

theorem mem_keys_skipped (name : Text) :
    name ∈ scan.plan.skipped.map Prod.fst ↔ name ∈ scan.failedNames := by
  have atClass (visit : ClassVisit) :
      name ∈ (visit.skipped scan.setup).map Prod.fst ↔
        (visit.failure? scan.setup).isSome ∧ visit.fullName = name := by
    unfold ClassVisit.skipped
    cases visit.failure? scan.setup with
    | none => simp
    | some reason => simp [eq_comm]
  have atFile (visit : FileVisit) :
      name ∈ (visit.skipped scan.setup).map Prod.fst ↔
        (visit.failure?.isSome ∧ visit.name = name) ∨
          ∃ other ∈ visit.classVisits scan.setup,
            (other.failure? scan.setup).isSome ∧ other.fullName = name := by
    unfold FileVisit.skipped
    cases fails : visit.failure? with
    | some reason =>
        rw [classVisits_failed scan.setup (by rw [fails, Option.isSome_some])]
        simp only [List.map_cons, List.map_nil, List.mem_singleton, Option.isSome_some, true_and,
          List.not_mem_nil, false_and, exists_false, or_false]
        exact eq_comm
    | none =>
        simp only [Option.isSome_none, Bool.false_eq_true, false_and, false_or, List.map_flatMap,
          List.mem_flatMap, atClass]
  rw [skipped_eq, List.map_flatMap, List.mem_flatMap, failedNames, List.mem_append]
  simp only [atFile, List.mem_map, List.mem_filter, classVisits, List.mem_flatMap]
  constructor
  · rintro ⟨visit, isFile, ⟨fails, isName⟩ | ⟨other, isClass, fails, isName⟩⟩
    · exact .inl ⟨visit, ⟨isFile, fails⟩, isName⟩
    · exact .inr ⟨other, ⟨⟨visit, isFile, isClass⟩, fails⟩, isName⟩
  · rintro (⟨visit, ⟨isFile, fails⟩, isName⟩ | ⟨other, ⟨⟨visit, isFile, isClass⟩, fails⟩, isName⟩)
    · exact ⟨visit, isFile, .inl ⟨fails, isName⟩⟩
    · exact ⟨visit, isFile, .inr ⟨other, isClass, fails, isName⟩⟩

theorem namesOnce_iff : scan.plan.NamesOnce ↔ scan.ReachesOnce := by
  constructor
  · rintro ⟨targets, skipped⟩
    rw [map_fullName_targets] at targets skipped
    exact ⟨targets, fun name failed => skipped name ((scan.mem_keys_skipped name).mpr failed)⟩
  · rintro ⟨ready, failed⟩
    rw [← map_fullName_targets] at ready failed
    exact ⟨ready, fun name skipped => failed name ((scan.mem_keys_skipped name).mp skipped)⟩

end Scan

/-! ## Scans of different things -/

theorem map_number_classVisits (setup : Setup) (source : Path) (numbers : List Nat)
    (state : State) : (classVisits setup source numbers state).map ClassVisit.number = numbers := by
  induction numbers generalizing state with
  | nil => rfl
  | cons number rest inductionHypothesis =>
      exact congrArg (number :: ·) (inductionHypothesis _)

/-- The models of a module are the module's own. -/
theorem home_of_mem_models {setup : Setup} {visit : FileVisit} {number : Nat}
    (member : number ∈ visit.models setup) :
    ∃ object, visit.imported.1.class? number = some object ∧ object.home = visit.name := by
  unfold FileVisit.models at member
  split at member
  · exact absurd member List.not_mem_nil
  · obtain ⟨entry, -, isModel⟩ := List.mem_filterMap.mp member
    split at isModel
    · next other _ =>
        simp only at isModel
        split at isModel
        · next chosen =>
            obtain rfl := Option.some.inj isModel
            have isHome := (Bool.and_eq_true_iff.mp chosen).1
            cases found : visit.imported.1.class? other with
            | none =>
                rw [found] at isHome
                exact absurd isHome (by simp)
            | some object =>
                rw [found] at isHome
                exact ⟨object, rfl, by simpa using isHome⟩
        · exact absurd isModel (by simp)
    · exact absurd isModel (by simp)

namespace Scan

variable {scan : Scan}

/-- A class is a model of one module alone. -/
theorem name_eq_of_mem_models {visit other : FileVisit} {number : Nat}
    (isVisit : visit ∈ scan.fileVisits) (isOther : other ∈ scan.fileVisits)
    (member : number ∈ visit.models scan.setup) (otherMember : number ∈ other.models scan.setup) :
    visit.name = other.name := by
  obtain ⟨object, found, isHome⟩ := home_of_mem_models member
  obtain ⟨otherObject, otherFound, isOtherHome⟩ := home_of_mem_models otherMember
  obtain ⟨later, isLater, sameHome, -⟩ := keeps_of_mem_fileVisits isVisit number object found
  obtain ⟨last, isLast, lastHome, -⟩ :=
    keeps_of_mem_fileVisits isOther number otherObject otherFound
  obtain rfl := Option.some.inj (isLater.symm.trans isLast)
  rw [← isHome, ← isOtherHome, ← sameHome, lastHome]

theorem Distinct.nodup_numbers (distinct : scan.Distinct) :
    (scan.classVisits.map ClassVisit.number).Nodup := by
  have numbers : scan.classVisits.map ClassVisit.number =
      scan.fileVisits.flatMap (FileVisit.models scan.setup) := by
    rw [classVisits, List.map_flatMap]
    exact congrArg (List.flatMap · _) (funext fun visit => map_number_classVisits _ _ _ _)
  rw [numbers, List.nodup_flatMap]
  refine ⟨distinct.bindings, ?_⟩
  have apart := List.pairwise_filter.mp (List.pairwise_map.mp distinct.modules)
  apply apart.imp_of_mem
  intro visit other isVisit isOther differ
  show List.Disjoint _ _
  intro number member otherMember
  apply differ
  · simpa using List.ne_nil_of_mem member
  · simpa using List.ne_nil_of_mem otherMember
  · exact name_eq_of_mem_models isVisit isOther member otherMember

theorem Distinct.reachesOnce (distinct : scan.Distinct) : scan.ReachesOnce := by
  have names : (scan.classVisits.map ClassVisit.fullName).Nodup := by
    apply List.pairwise_map.mpr
    apply (List.pairwise_map.mp distinct.nodup_numbers).imp_of_mem
    intro visit other isVisit isOther differ same
    exact differ (distinct.classes visit isVisit other isOther same)
  constructor
  · exact names.sublist (List.filter_sublist.map _)
  · intro name failed ready
    obtain ⟨visit, isReady, isName⟩ := List.mem_map.mp ready
    obtain ⟨isVisit, hasBlock⟩ := List.mem_filter.mp isReady
    rcases List.mem_append.mp failed with asModule | asClass
    · obtain ⟨file, isFailed, isModule⟩ := List.mem_map.mp asModule
      obtain ⟨isFile, fails⟩ := List.mem_filter.mp isFailed
      exact distinct.apart file isFile fails visit isVisit (isModule.trans isName.symm)
    · obtain ⟨other, isFailed, isOtherName⟩ := List.mem_map.mp asClass
      obtain ⟨isOther, fails⟩ := List.mem_filter.mp isFailed
      obtain rfl := List.inj_on_of_nodup_map names isVisit isOther (isName.trans isOtherName.symm)
      rw [ClassVisit.failure?_of_target? hasBlock] at fails
      exact absurd fails (by simp)

end Scan

/-! ## Runs -/

/-- A class has a block or fails. -/
theorem namesOnce_classPlan (setup : Setup) (visit : ClassVisit) :
    (visit.plan setup).NamesOnce := by
  constructor
  · rw [classPlan_targets]
    cases visit.target? setup with
    | none => exact List.nodup_nil
    | some target => exact List.nodup_singleton target.fullName
  · intro name left
    rw [classPlan_skipped, ClassVisit.skipped] at left
    rw [classPlan_targets]
    cases isReady : visit.target? setup with
    | none => exact List.not_mem_nil
    | some target =>
        have hasBlock : (visit.target? setup).isSome := by rw [isReady, Option.isSome_some]
        rw [ClassVisit.failure?_of_target? hasBlock] at left
        exact absurd left List.not_mem_nil

theorem namesOnce_modelPlan (setup : Setup) (model : Text) (state : State) :
    (modelPlan setup model state).NamesOnce := by
  unfold modelPlan
  rcases findModel setup state.world model with ⟨world, fault | ⟨number, source⟩⟩
  · exact ⟨List.nodup_nil, fun _ _ => List.not_mem_nil⟩
  · have atClass := namesOnce_classPlan setup ⟨source, number, { state with world }⟩
    exact ⟨atClass.targets, atClass.skipped⟩

/-- The report of a complete run for one model names every class once. That of a scan does if and
only if the scan reaches once what it reports, as a scan of different things does. -/
theorem reports_once (nameOf : Text → Option Nat) (settings : Settings) (project : Project)
    (model : Text) (packages : List Text)
    (completes : (run nameOf settings project model packages).abort = none) :
    (model ≠ [] → (run nameOf settings project model packages).ReportsOnce) ∧
      (model = [] → ∃ scan, scan? settings project packages = some scan ∧
        ((run nameOf settings project model packages).ReportsOnce ↔ scan.ReachesOnce) ∧
        (scan.Distinct → scan.ReachesOnce)) := by
  constructor
  · intro isNamed
    rcases run_cases nameOf settings project model packages with
      ⟨world, records, abort, isEarly, -⟩ | ⟨search, setup, found, steps, -, planned, isRun⟩
    · rw [isEarly] at completes
      exact absurd completes (by simp [Outcome.early])
    · rw [isRun] at completes ⊢
      rw [reportsOnce_complete_iff completes]
      have isModelPlan : plan settings project setup model packages search =
          (search, .ok (modelPlan setup model
            ⟨search.world, ColumnReader.create project.database settings.driver⟩)) := by
        unfold plan
        simp [isNamed]
      rw [isModelPlan] at planned
      obtain rfl := Except.ok.inj (Prod.mk.inj planned).2
      exact namesOnce_modelPlan setup model _
  · rintro rfl
    rw [run_scan] at completes ⊢
    unfold scan?
    rcases isScan : scanOf settings project packages with ⟨search, abort | scan⟩
    · rw [isScan] at completes
      exact absurd completes (by simp [Outcome.early])
    · rw [isScan] at completes
      refine ⟨scan, rfl, ?_, Scan.Distinct.reachesOnce⟩
      exact (reportsOnce_complete_iff completes).trans scan.namesOnce_iff

theorem reports_once_sample :
    (run (fun _ => none) shopSettings shopProject [] []).abort = none ∧
      (run (fun _ => none) shopSettings shopProject [] []).ReportsOnce := by
  have completes : (run (fun _ => none) shopSettings shopProject [] []).abort = none :=
    Option.isNone_iff_eq_none.mp (by decide +kernel)
  obtain ⟨scan, isScan, reports, -⟩ :=
    (reports_once (fun _ => none) shopSettings shopProject [] [] completes).2 rfl
  have names : (scan? shopSettings shopProject []).map (fun scan =>
      (scan.readyNames, scan.failedNames)) = some (["app.a.User".toList], ["app.a.Ghost".toList]) := by
    decide +kernel
  rw [isScan] at names
  obtain ⟨ready, failed⟩ := Prod.mk.inj (Option.some.inj names)
  refine ⟨completes, reports.mpr ⟨?_, ?_⟩⟩
  · rw [ready]
    exact List.nodup_singleton _
  · rw [ready, failed]
    decide

/-- A package that is asked for twice is scanned twice. -/
theorem reports_twice_when_asked_twice :
    let twice := run (fun _ => none) shopSettings shopProject [] ["app".toList, "app".toList]
    twice.abort = none ∧ twice.report.updated = ["app.a.User".toList, "app.a.User".toList] := by
  intro twice
  have done : (twice.abort.isNone, twice.report.updated) =
      (true, ["app.a.User".toList, "app.a.User".toList]) := by decide +kernel
  obtain ⟨completes, isUpdated⟩ := Prod.mk.inj done
  exact ⟨Option.isNone_iff_eq_none.mp completes, isUpdated⟩

end SchemaDoc.Generation
