import SchemaDoc.Generation.Run
import SchemaDoc.Proofs.Block.Frame

/-!
Contract: what a run does to files and blocks.

`Effects` is a run without its log and without what it skips. The effects of a plan are those of the
targets at which its steps arrive (`performAll_effects`): a step without a target has none. What is
skipped is read off the plan alone (`performAll_skipped`).
-/

namespace SchemaDoc.Generation

variable {nameOf : Text → Option Nat} {dryRun : Bool}

/-! ## Effects -/

/-- What a run has done to files and blocks. -/
structure Effects where
  tree : FileTree
  updated : List Text
  previewed : List (Text × Text)
  shown : List Target
  handed : List Target

def Progress.effects (progress : Progress) : Effects :=
  ⟨progress.tree, progress.report.updated, progress.report.previewed, progress.shown,
    progress.handed⟩

namespace Effects

/-- A block shown. -/
def preview (effects : Effects) (target : Target) : Effects :=
  { effects with
    previewed := Program.World.assign target.fullName target.block effects.previewed
    shown := effects.shown ++ [target] }

/-- The block of a target written into its file. -/
def writeTarget (nameOf : Text → Option Nat) (tree : FileTree) (target : Target) :
    FileTree × Except Block.WriteFault Bool :=
  Block.write nameOf false tree target.source target.qualname target.block

/-- A block handed to the writer. -/
def write (nameOf : Text → Option Nat) (effects : Effects) (target : Target) :
    Effects × Option Failed :=
  let (tree, result) := writeTarget nameOf effects.tree target
  let after := { effects with tree, handed := effects.handed ++ [target] }
  match result with
  | .ok _ => ({ after with updated := effects.updated ++ [target.fullName] }, none)
  | .error fault => (after, some ⟨target, fault⟩)

def use (nameOf : Text → Option Nat) (dryRun : Bool) (effects : Effects) (target : Target) :
    Effects × Option Failed :=
  if dryRun then (effects.preview target, none) else effects.write nameOf target

/-- The blocks of several targets used in turn, up to the first that fails. -/
def useAll (nameOf : Text → Option Nat) (dryRun : Bool) :
    List Target → Effects → Effects × Option Failed
  | [], effects => (effects, none)
  | target :: rest, effects =>
    match effects.use nameOf dryRun target with
    | (effects, some failed) => (effects, some failed)
    | (effects, none) => useAll nameOf dryRun rest effects

/-- Blocks written one after the other, whatever comes of each. -/
def writeEach (nameOf : Text → Option Nat) : FileTree → List Target → FileTree :=
  List.foldl fun tree target => (writeTarget nameOf tree target).1

/-- In a dry run every block is shown, and nothing else happens. -/
theorem useAll_preview (targets : List Target) (effects : Effects) :
    useAll nameOf true targets effects =
      ({ effects with
          previewed := targets.foldl (fun done target =>
            Program.World.assign target.fullName target.block done) effects.previewed
          shown := effects.shown ++ targets }, none) := by
  induction targets generalizing effects with
  | nil => simp [useAll]
  | cons target rest inductionHypothesis =>
      have shows : effects.use nameOf true target = (effects.preview target, none) := rfl
      rw [useAll, shows]
      simp only
      rw [inductionHypothesis]
      simp [preview]

/-- Blocks that are not only shown go to the writer, and the files change by what it writes. -/
theorem useAll_tree (targets : List Target) (effects : Effects) :
    ∃ done, (useAll nameOf false targets effects).1.handed = effects.handed ++ done ∧
      (useAll nameOf false targets effects).1.tree = writeEach nameOf effects.tree done ∧
      done <+: targets := by
  induction targets generalizing effects with
  | nil => exact ⟨[], by simp [useAll], rfl, List.nil_prefix⟩
  | cons target rest inductionHypothesis =>
      have writes : effects.use nameOf false target = effects.write nameOf target := rfl
      rw [useAll, writes, write]
      cases result : writeTarget nameOf effects.tree target with
      | mk tree outcome =>
          cases outcome with
          | error fault =>
              refine ⟨[target], rfl, ?_, List.prefix_append [target] rest⟩
              simp [writeEach, result]
          | ok changed =>
              obtain ⟨done, isHanded, isWritten, early⟩ := inductionHypothesis
                { effects with
                  tree, handed := effects.handed ++ [target]
                  updated := effects.updated ++ [target.fullName] }
              refine ⟨target :: done, ?_, ?_, (List.prefix_cons_inj target).mpr early⟩
              · simp only [isHanded, List.append_assoc, List.singleton_append]
              · simp only [isWritten, writeEach, List.foldl_cons, result]

/-- When no block fails, all were handed to the writer, and the report names them in order. -/
theorem useAll_write {targets : List Target} {effects after : Effects}
    (completes : useAll nameOf false targets effects = (after, none)) :
    after.handed = effects.handed ++ targets ∧
      after.updated = effects.updated ++ targets.map Target.fullName ∧
      after.previewed = effects.previewed ∧ after.shown = effects.shown := by
  induction targets generalizing effects with
  | nil =>
      obtain ⟨rfl, -⟩ := Prod.mk.inj completes
      simp
  | cons target rest inductionHypothesis =>
      have writes : effects.use nameOf false target = effects.write nameOf target := rfl
      rw [useAll, writes, write] at completes
      cases result : writeTarget nameOf effects.tree target with
      | mk tree outcome =>
          rw [result] at completes
          cases outcome with
          | error fault => exact absurd (Prod.mk.inj completes).2 (by simp)
          | ok changed =>
              obtain ⟨isHanded, isUpdated, isPreviewed, isShown⟩ := inductionHypothesis completes
              simp only at isHanded isUpdated isPreviewed isShown
              refine ⟨?_, ?_, isPreviewed, isShown⟩
              · rw [isHanded, List.append_assoc, List.singleton_append]
              · rw [isUpdated, List.append_assoc, List.singleton_append, List.map_cons]

/-- A run that fails leaves the files as the block that cannot be written finds them. -/
theorem useAll_failed {targets : List Target} {effects after : Effects} {failed : Failed}
    (fails : useAll nameOf dryRun targets effects = (after, some failed)) :
    writeTarget nameOf after.tree failed.target = (after.tree, .error failed.fault) := by
  induction targets generalizing effects with
  | nil => exact absurd (Prod.mk.inj fails).2 (by simp)
  | cons target rest inductionHypothesis =>
      rw [useAll] at fails
      cases dryRun with
      | true => exact inductionHypothesis fails
      | false =>
          have writes : effects.use nameOf false target = effects.write nameOf target := rfl
          rw [writes, write] at fails
          rcases result : writeTarget nameOf effects.tree target with ⟨tree, fault | changed⟩
          · rw [result] at fails
            have same : tree = effects.tree := Block.eq_of_write_eq_error result
            obtain ⟨rfl, isFailed⟩ := Prod.mk.inj fails
            obtain rfl := Option.some.inj isFailed
            subst same
            exact result
          · rw [result] at fails
            exact inductionHypothesis fails

end Effects

/-! ## Steps -/

namespace Step

/-- The target whose block is ready at the step. -/
def target? (step : Step) : Option Target :=
  match step.event with
  | .ready target => some target
  | _ => none

/-- The module or class that the step leaves out, with the reason. -/
def skipped? (step : Step) : Option (Text × Text) :=
  match step.event with
  | .skipped name reason => some (name, reason)
  | _ => none

end Step

theorem effects_log (progress : Progress) (records : List Log.Record) :
    (progress.log records).effects = progress.effects := by
  have silent (see : Note → Option Target) (unseen : ∀ record, see (.logged record) = none) :
      (records.map Note.logged).filterMap see = [] := by
    rw [List.filterMap_map, List.filterMap_eq_nil_iff]
    exact fun record _ => unseen record
  simp only [Progress.effects, Progress.shown, Progress.handed, Progress.log,
    List.filterMap_append, silent Note.shown? fun _ => rfl, silent Note.handed? fun _ => rfl,
    List.append_nil]

theorem effects_skip (progress : Progress) (name reason : Text) :
    (progress.skip name reason).effects = progress.effects :=
  rfl

theorem useBlock_effects (progress : Progress) (target : Target) :
    ((useBlock nameOf dryRun progress target).1.effects,
        (useBlock nameOf dryRun progress target).2) =
      progress.effects.use nameOf dryRun target := by
  cases dryRun with
  | true => simp [useBlock, Effects.use, Effects.preview, Progress.effects, Progress.preview,
      Progress.shown, Progress.handed, Note.shown?, Note.handed?]
  | false =>
      simp only [useBlock, Effects.use, Effects.write, Effects.writeTarget, Progress.hand,
        Progress.effects, Bool.false_eq_true, if_false]
      rcases Block.write nameOf false progress.tree target.source target.qualname target.block with
        ⟨tree, fault | changed⟩
      · simp [Progress.shown, Progress.handed, Note.shown?, Note.handed?]
      · simp [Progress.update, Progress.shown, Progress.handed, Note.shown?, Note.handed?]

/-- A step uses the block that is ready at it, if there is one; otherwise it has no effect. -/
theorem perform_effects (progress : Progress) (step : Step) :
    ((perform nameOf dryRun progress step).1.effects, (perform nameOf dryRun progress step).2) =
      match step.target? with
      | some target => progress.effects.use nameOf dryRun target
      | none => (progress.effects, none) := by
  unfold perform Step.target?
  cases step.event with
  | scanning package => simp [effects_log]
  | processing model => simp [effects_log]
  | skipped name reason => simp [effects_skip, effects_log]
  | ready target => simp only [useBlock_effects, effects_log]

/-- The effects of a plan are those of its targets. -/
theorem performAll_effects (final : State) (steps : List Step) (progress : Progress) :
    ((performAll nameOf dryRun final steps progress).1.effects,
        (performAll nameOf dryRun final steps progress).2.2) =
      Effects.useAll nameOf dryRun (steps.filterMap Step.target?) progress.effects := by
  induction steps generalizing progress with
  | nil => rfl
  | cons step rest inductionHypothesis =>
      have first := @perform_effects nameOf dryRun progress step
      rw [performAll]
      cases performed : perform nameOf dryRun progress step with
      | mk after failed =>
          rw [performed] at first
          cases ready : step.target? with
          | none =>
              rw [ready] at first
              obtain ⟨same, rfl⟩ := Prod.mk.inj first
              simp only at same
              rw [List.filterMap_cons_none ready, ← same]
              exact inductionHypothesis after
          | some target =>
              rw [ready] at first
              simp only at first
              rw [List.filterMap_cons_some ready, Effects.useAll, ← first]
              cases failed with
              | none => exact inductionHypothesis after
              | some failed => rfl

/-! ## What is skipped -/

theorem perform_skipped {progress after : Progress} {step : Step}
    (performed : perform nameOf dryRun progress step = (after, none)) :
    after.report.skipped = step.skipped?.elim progress.report.skipped
      fun entry => Program.World.assign entry.1 entry.2 progress.report.skipped := by
  unfold perform at performed
  unfold Step.skipped?
  cases event : step.event with
  | scanning package =>
      rw [event] at performed
      obtain ⟨rfl, -⟩ := Prod.mk.inj performed
      rfl
  | processing model =>
      rw [event] at performed
      obtain ⟨rfl, -⟩ := Prod.mk.inj performed
      rfl
  | skipped name reason =>
      rw [event] at performed
      obtain ⟨rfl, -⟩ := Prod.mk.inj performed
      rfl
  | ready target =>
      rw [event] at performed
      simp only [useBlock] at performed
      split at performed
      · obtain ⟨rfl, -⟩ := Prod.mk.inj performed
        rfl
      · split at performed
        · obtain ⟨rfl, -⟩ := Prod.mk.inj performed
          rfl
        · exact absurd (Prod.mk.inj performed).2 (by simp)

/-- A plan that is carried out to its end skips what its steps leave out. -/
theorem performAll_skipped {final : State} {steps : List Step} {progress after : Progress}
    {state : State} (performed : performAll nameOf dryRun final steps progress = (after, state, none)) :
    after.report.skipped = (steps.filterMap Step.skipped?).foldl
      (fun done entry => Program.World.assign entry.1 entry.2 done) progress.report.skipped := by
  induction steps generalizing progress with
  | nil =>
      obtain ⟨rfl, -⟩ := Prod.mk.inj performed
      rfl
  | cons step rest inductionHypothesis =>
      rw [performAll] at performed
      cases isPerformed : perform nameOf dryRun progress step with
      | mk next failed =>
          rw [isPerformed] at performed
          cases failed with
          | some failed =>
              have aborted := (Prod.mk.inj (Prod.mk.inj performed).2).2
              exact absurd aborted (by simp)
          | none =>
              rw [inductionHypothesis performed, perform_skipped isPerformed]
              cases left : step.skipped? with
              | none => rw [List.filterMap_cons_none left]; rfl
              | some entry => rw [List.filterMap_cons_some left]; rfl

/-! ## The effects of a run -/

def Effects.start (tree : FileTree) : Effects :=
  ⟨tree, [], [], [], []⟩

def Outcome.effects (outcome : Outcome) : Effects :=
  ⟨outcome.project.tree, outcome.report.updated, outcome.report.previewed, outcome.shown,
    outcome.handed⟩

/-- The targets of a plan, in order. -/
def Plan.targets (plan : Plan) : List Target :=
  plan.1.filterMap Step.target?

/-- What a plan leaves out, in order. -/
def Plan.skipped (plan : Plan) : List (Text × Text) :=
  plan.1.filterMap Step.skipped?

section Complete

variable (project : Project) (model : Text) (search : SearchState) (steps : Plan)

theorem complete_effects :
    ((complete nameOf dryRun project model search steps).effects,
        (complete nameOf dryRun project model search steps).abort) =
      ((Effects.useAll nameOf dryRun steps.targets (.start project.tree)).1,
        (Effects.useAll nameOf dryRun steps.targets (.start project.tree)).2.map Abort.write) := by
  have opening : ((Progress.start project.tree).log search.records).effects =
      .start project.tree := effects_log _ _
  have carried := @performAll_effects nameOf dryRun steps.2 steps.1
    ((Progress.start project.tree).log search.records)
  rw [opening] at carried
  rw [Plan.targets, ← carried]
  have closed (done : Progress × State × Option Failed) :
      Outcome.effects
          ⟨{ project with tree := done.1.tree, world := done.2.1.world }, done.1.report,
            done.1.notes ++ (if done.2.2.isSome then [] else (closing model).map Note.logged),
            done.2.2.map Abort.write⟩ = done.1.effects := by
    split
    · rw [List.append_nil]
      rfl
    · exact effects_log done.1 (closing model)
  exact Prod.ext (closed (carryOut nameOf dryRun steps _)) rfl

/-- The block at which a run stops cannot be written into the files that the run leaves. -/
theorem complete_abort {failed : Failed}
    (aborts : (complete nameOf dryRun project model search steps).abort = some (.write failed)) :
    Effects.writeTarget nameOf (complete nameOf dryRun project model search steps).project.tree
        failed.target =
      ((complete nameOf dryRun project model search steps).project.tree, .error failed.fault) := by
  have effects := @complete_effects nameOf dryRun project model search steps
  rcases used : Effects.useAll nameOf dryRun steps.targets (.start project.tree) with ⟨after, stop⟩
  rw [used, aborts] at effects
  obtain ⟨sameEffects, sameAbort⟩ := Prod.mk.inj effects
  have stops : stop = some failed := by
    cases stop with
    | none => exact absurd sameAbort (by simp)
    | some other =>
        simp only [Option.map_some, Option.some.injEq, Abort.write.injEq] at sameAbort
        rw [sameAbort]
  subst stops
  have sameTree : (complete nameOf dryRun project model search steps).project.tree = after.tree :=
    congrArg Effects.tree sameEffects
  rw [sameTree]
  exact Effects.useAll_failed used

theorem complete_skipped
    (completes : (complete nameOf dryRun project model search steps).abort = none) :
    (complete nameOf dryRun project model search steps).report.skipped =
      steps.skipped.foldl (fun done entry => Program.World.assign entry.1 entry.2 done) [] := by
  have whole : (carryOut nameOf dryRun steps
      ((Progress.start project.tree).log search.records)).2.2 = none :=
    Option.map_eq_none_iff.mp completes
  have carried : performAll nameOf dryRun steps.2 steps.1
      ((Progress.start project.tree).log search.records) =
        ((carryOut nameOf dryRun steps ((Progress.start project.tree).log search.records)).1,
          (carryOut nameOf dryRun steps ((Progress.start project.tree).log search.records)).2.1,
          none) := by
    rw [← whole]
    rfl
  exact performAll_skipped carried

end Complete

/-! ## Whole runs -/

section Run

variable {settings : Settings} {project : Project} {model : Text} {packages : List Text}

theorem prepare_ne_write {search : SearchState} {abort : Abort}
    (prepared : prepare settings project = (search, .error abort)) (failed : Failed) :
    abort ≠ .write failed := by
  rintro rfl
  unfold prepare at prepared
  simp only at prepared
  split at prepared
  · exact absurd (Prod.mk.inj prepared).2 (by simp)
  · split at prepared
    · exact absurd (Prod.mk.inj prepared).2 (by simp)
    · exact absurd (Prod.mk.inj prepared).2 (by simp)

theorem plan_ne_write {setup : Setup} {search found : SearchState} {abort : Abort}
    (planned : plan settings project setup model packages search = (found, .error abort))
    (failed : Failed) : abort ≠ .write failed := by
  rintro rfl
  unfold plan at planned
  simp only at planned
  split at planned
  · exact absurd (Prod.mk.inj planned).2 (by simp)
  · split at planned
    · exact absurd (Prod.mk.inj planned).2 (by simp)
    · exact absurd (Prod.mk.inj planned).2 (by simp)

/-- A run ends before its first step, or carries out a plan. -/
theorem run_cases (nameOf : Text → Option Nat) (settings : Settings) (project : Project)
    (model : Text) (packages : List Text) :
    (∃ world records abort, run nameOf settings project model packages =
        .early project world records abort ∧ ∀ failed, abort ≠ .write failed) ∨
      ∃ search setup found steps, prepare settings project = (search, .ok setup) ∧
        plan settings project setup model packages search = (found, .ok steps) ∧
        run nameOf settings project model packages =
          complete nameOf settings.dryRun project model found steps := by
  unfold run
  rcases prepared : prepare settings project with ⟨search, abort | setup⟩
  · exact .inl ⟨_, _, abort, rfl, prepare_ne_write prepared⟩
  · rcases planned : plan settings project setup model packages search with ⟨found, abort | steps⟩
    · left
      simp only [planned]
      exact ⟨_, _, abort, rfl, plan_ne_write planned⟩
    · right
      simp only [planned]
      exact ⟨search, setup, found, steps, rfl, planned, rfl⟩

theorem run_abort {failed : Failed}
    (aborts : (run nameOf settings project model packages).abort = some (.write failed)) :
    Effects.writeTarget nameOf (run nameOf settings project model packages).project.tree
        failed.target =
      ((run nameOf settings project model packages).project.tree, .error failed.fault) := by
  rcases run_cases nameOf settings project model packages with
    ⟨world, records, abort, isEarly, noWrite⟩ | ⟨-, -, found, steps, -, -, completed⟩
  · rw [isEarly] at aborts
    exact absurd (Option.some.inj aborts) (noWrite failed)
  · rw [completed] at aborts ⊢
    exact complete_abort project model found steps aborts

end Run

end SchemaDoc.Generation
