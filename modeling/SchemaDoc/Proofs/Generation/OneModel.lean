import SchemaDoc.Proofs.Generation.Visits

/-!
Contract: a run for one model.

Such a run comes to one class or to none, so that its report names one thing (`modelReport_run`).
Paths that are spellings of one dotted path lead to the same class, and what is reported of it is the
same; where no class is found, each report names the path as it was given (`report_of_spelling`).
-/

namespace SchemaDoc.Generation

open Program

variable {nameOf : Text → Option Nat} {settings : Settings} {project : Project}
  {packages : List Text}

/-! ## Reports -/

/-- The reports of complete runs for one model. -/
inductive ModelReport (model : Text) : Report → Prop
  /-- The path leads to no model class. -/
  | notFound (reason : Text) : ModelReport model ⟨[], [], [(model, reason)]⟩
  /-- The class has no block. -/
  | leftOut (name reason : Text) : ModelReport model ⟨[], [], [(name, reason)]⟩
  | shown (name block : Text) : ModelReport model ⟨[], [(name, block)], []⟩
  | written (name : Text) : ModelReport model ⟨[name], [], []⟩

theorem Report.eq_mk {report : Report} {updated : List Text} {previewed skipped : List (Text × Text)}
    (isUpdated : report.updated = updated) (isPreviewed : report.previewed = previewed)
    (isSkipped : report.skipped = skipped) : report = ⟨updated, previewed, skipped⟩ := by
  subst isUpdated isPreviewed isSkipped
  rfl

section Complete

variable {dryRun : Bool} {model : Text} {search : SearchState} {steps : Plan}

/-- The report of a complete run is read off its plan. -/
theorem report_complete
    (completes : (complete nameOf dryRun project model search steps).abort = none) :
    (complete nameOf dryRun project model search steps).report =
      { updated := if dryRun then [] else steps.targets.map Target.fullName
        previewed :=
          if dryRun then
            steps.targets.foldl (fun done target =>
              World.assign target.fullName target.block done) []
          else []
        skipped := steps.skipped.foldl (fun done entry =>
          World.assign entry.1 entry.2 done) [] } := by
  have effects := @complete_effects nameOf dryRun project model search steps
  have isSkipped := complete_skipped _ _ _ _ completes
  have run := congrArg Prod.fst effects
  cases dryRun with
  | true =>
      rw [Effects.useAll_preview] at run
      exact Report.eq_mk (congrArg Effects.updated run) (congrArg Effects.previewed run) isSkipped
  | false =>
      have whole : (Effects.useAll nameOf false steps.targets (.start project.tree)).2 = none :=
        Option.map_eq_none_iff.mp ((congrArg Prod.snd effects).symm.trans completes)
      obtain ⟨-, isUpdated, isPreviewed, -⟩ :=
        Effects.useAll_write (Prod.ext (rfl : _ = (Effects.useAll nameOf false steps.targets
          (.start project.tree)).1) whole)
      exact Report.eq_mk ((congrArg Effects.updated run).trans isUpdated)
        ((congrArg Effects.previewed run).trans isPreviewed) isSkipped

theorem abort_complete :
    (complete nameOf dryRun project model search steps).abort =
      (Effects.useAll nameOf dryRun steps.targets (.start project.tree)).2.map Abort.write :=
  congrArg Prod.snd (complete_effects project model search steps)

end Complete

/-! ## Plans -/

/-- The plan of a class that is there has one target, or leaves the class out. -/
theorem classPlan_cases {setup : Setup} {source : Path} {number : Nat} {state : State}
    {object : ClassObject} (found : state.world.class? number = some object) :
    (∃ reason, (classPlan setup source number state).targets = [] ∧
        (classPlan setup source number state).skipped = [(object.fullName, reason)]) ∨
      ∃ target, (classPlan setup source number state).targets = [target] ∧
        (classPlan setup source number state).skipped = [] := by
  unfold classPlan
  rw [found]
  simp only
  rcases documentClass setup source number object state with ⟨after, records, cause | target⟩
  · exact .inl ⟨cause.reason, rfl, rfl⟩
  · exact .inr ⟨target, rfl, rfl⟩

theorem findModel_found {setup : Setup} {world after : World} {model : Text} {number : Nat}
    {source : Path} (finds : findModel setup world model = (after, .ok (number, source))) :
    ∃ object, after.class? number = some object ∧ Catalog.sourceFile after object = .ok source := by
  unfold findModel at finds
  split at finds
  · exact absurd (Prod.mk.inj finds).2 (by simp)
  · split at finds
    · exact absurd (Prod.mk.inj finds).2 (by simp)
    · next object isClass =>
        obtain ⟨rfl, isSource⟩ := Prod.mk.inj finds
        cases sourced : Catalog.sourceFile _ object with
        | error fault =>
            rw [sourced] at isSource
            exact absurd isSource (by simp [Except.map])
        | ok place =>
            rw [sourced] at isSource
            obtain ⟨rfl, rfl⟩ := Prod.mk.inj (Except.ok.inj isSource)
            exact ⟨object, isClass, sourced⟩

/-- What a run for one model comes to, as far as its report tells. -/
theorem modelPlan_cases (setup : Setup) (model : Text) (state : State) :
    (∃ reason, (modelPlan setup model state).targets = [] ∧
        (modelPlan setup model state).skipped = [(model, reason)]) ∨
      (∃ name reason, (modelPlan setup model state).targets = [] ∧
        (modelPlan setup model state).skipped = [(name, reason)]) ∨
      ∃ target, (modelPlan setup model state).targets = [target] ∧
        (modelPlan setup model state).skipped = [] := by
  unfold modelPlan
  rcases finds : findModel setup state.world model with ⟨world, fault | ⟨number, source⟩⟩
  · exact .inl ⟨fault.message, rfl, rfl⟩
  · obtain ⟨object, found, -⟩ := findModel_found finds
    right
    rcases @classPlan_cases setup source number { state with world } object found with
      ⟨reason, noTarget, left⟩ | ⟨target, isTarget, nothingLeft⟩
    · exact .inl ⟨object.fullName, reason, noTarget, left⟩
    · exact .inr ⟨target, isTarget, nothingLeft⟩

/-- Spellings of one path lead to the same class, or to none. -/
theorem findModel_spelling {one two : Text}
    (same : normalizeClassPath one = normalizeClassPath two) (setup : Setup) (world : World) :
    (∃ after number source, findModel setup world one = (after, .ok (number, source)) ∧
        findModel setup world two = (after, .ok (number, source))) ∨
      ∃ after fault other, findModel setup world one = (after, .error fault) ∧
        findModel setup world two = (after, .error other) := by
  have loads : setup.catalog.loadModel world two = setup.catalog.loadModel world one := by
    simp only [Catalog.loadModel, same]
  unfold findModel
  rw [loads]
  rcases setup.catalog.loadModel world one with ⟨after, fault | number⟩
  · exact .inr ⟨after, fault, fault, rfl, rfl⟩
  · dsimp only
    cases after.class? number with
    | none => exact .inr ⟨after, _, _, rfl, rfl⟩
    | some object =>
        dsimp only
        cases Catalog.sourceFile after object with
        | error fault => exact .inr ⟨after, fault, fault, rfl, rfl⟩
        | ok source => exact .inl ⟨after, number, source, rfl, rfl⟩

theorem modelPlan_spelling {one two : Text}
    (same : normalizeClassPath one = normalizeClassPath two) (setup : Setup) (state : State) :
    ((modelPlan setup two state).targets = (modelPlan setup one state).targets ∧
        (modelPlan setup two state).skipped = (modelPlan setup one state).skipped) ∨
      ∃ reason other, (modelPlan setup one state).targets = [] ∧
        (modelPlan setup two state).targets = [] ∧
        (modelPlan setup one state).skipped = [(one, reason)] ∧
        (modelPlan setup two state).skipped = [(two, other)] := by
  unfold modelPlan
  rcases findModel_spelling same setup state.world with
    ⟨after, number, source, isOne, isTwo⟩ | ⟨after, fault, other, isOne, isTwo⟩
  · rw [isOne, isTwo]
    exact .inl ⟨rfl, rfl⟩
  · rw [isOne, isTwo]
    exact .inr ⟨fault.message, other.message, rfl, rfl, rfl, rfl⟩

/-! ## Runs -/

/-- A run for one model ends before it looks for the model, or carries out the model's plan. -/
theorem run_model (nameOf : Text → Option Nat) (settings : Settings) (project : Project) :
    (∃ world records abort, ∀ model packages, model ≠ [] →
        run nameOf settings project model packages = .early project world records abort) ∨
      ∃ search setup state, ∀ model packages, model ≠ [] →
        run nameOf settings project model packages =
          complete nameOf settings.dryRun project model search (modelPlan setup model state) := by
  unfold run
  rcases prepare settings project with ⟨search, abort | setup⟩
  · exact .inl ⟨search.world, search.records, abort, fun _ _ _ => rfl⟩
  · refine .inr ⟨search, setup, ⟨search.world, ColumnReader.create project.database settings.driver⟩, ?_⟩
    intro model packages isNamed
    have planned : plan settings project setup model packages search =
        (search, .ok (modelPlan setup model
          ⟨search.world, ColumnReader.create project.database settings.driver⟩)) := by
      unfold plan
      simp [isNamed]
    simp only [planned]

theorem modelReport_run {model : Text} (isNamed : model ≠ [])
    (completes : (run nameOf settings project model packages).abort = none) :
    ModelReport model (run nameOf settings project model packages).report := by
  rcases run_model nameOf settings project with
    ⟨world, records, abort, isEarly⟩ | ⟨search, setup, state, isRun⟩
  · rw [isEarly model packages isNamed] at completes
    exact absurd completes (by simp [Outcome.early])
  · rw [isRun model packages isNamed] at completes ⊢
    rw [report_complete completes]
    rcases modelPlan_cases setup model state with
      ⟨reason, noTarget, left⟩ | ⟨name, reason, noTarget, left⟩ | ⟨target, isTarget, nothingLeft⟩
    · rw [noTarget, left]
      cases settings.dryRun <;> exact .notFound reason
    · rw [noTarget, left]
      cases settings.dryRun <;> exact .leftOut name reason
    · rw [isTarget, nothingLeft]
      cases settings.dryRun with
      | true => exact .shown target.fullName target.block
      | false => exact .written target.fullName

/-- Spellings of one path are reported alike, unless they lead to no class. -/
theorem report_of_spelling {one two : Text} (oneNamed : one ≠ []) (twoNamed : two ≠ [])
    (same : normalizeClassPath one = normalizeClassPath two)
    (completes : (run nameOf settings project one packages).abort = none) :
    (run nameOf settings project two packages).abort = none ∧
      ((run nameOf settings project two packages).report =
          (run nameOf settings project one packages).report ∨
        ∃ reason other,
          (run nameOf settings project one packages).report = ⟨[], [], [(one, reason)]⟩ ∧
          (run nameOf settings project two packages).report = ⟨[], [], [(two, other)]⟩) := by
  rcases run_model nameOf settings project with
    ⟨world, records, abort, isEarly⟩ | ⟨search, setup, state, isRun⟩
  · rw [isEarly one packages oneNamed] at completes
    exact absurd completes (by simp [Outcome.early])
  · rw [isRun one packages oneNamed] at completes ⊢
    rw [isRun two packages twoNamed]
    have sameTargets : (modelPlan setup two state).targets =
        (modelPlan setup one state).targets := by
      rcases modelPlan_spelling same setup state with ⟨targets, -⟩ | ⟨_, _, isOne, isTwo, -⟩
      · exact targets
      · rw [isOne, isTwo]
    have otherCompletes : (complete nameOf settings.dryRun project two search
        (modelPlan setup two state)).abort = none := by
      rw [abort_complete, sameTargets, ← completes, abort_complete]
    refine ⟨otherCompletes, ?_⟩
    rw [report_complete completes, report_complete otherCompletes]
    rcases modelPlan_spelling same setup state with
      ⟨targets, skipped⟩ | ⟨reason, other, noTarget, otherNone, left, otherLeft⟩
    · rw [targets, skipped]
      exact .inl rfl
    · rw [noTarget, otherNone, left, otherLeft]
      cases settings.dryRun <;> exact .inr ⟨reason, other, rfl, rfl⟩

end SchemaDoc.Generation
