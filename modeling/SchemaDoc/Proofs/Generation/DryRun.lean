import SchemaDoc.Proofs.Generation.Effects

/-!
Contract: a dry run beside the run that writes.

Both runs carry out one plan, whose targets alone decide what is done (`complete_effects`). A dry run
changes nothing and shows every target; a run that completes hands the same targets to the writer, in
the same order (`dryRun_shows_writes`).

A plan lists the module files before any block is written. No block adds or removes a file, so that
a scan which lists the files of a package only when it comes to it does the same
(`carryOut_scanPlan`).
-/

namespace SchemaDoc.Generation

variable {nameOf : Text → Option Nat} {dryRun : Bool}

/-! ## Dry runs -/

section DryRun

variable (settings : Settings) (project : Project)

/-- Nothing that happens before the first block depends on what is done with the blocks. -/
theorem prepare_dryRun : prepare { settings with dryRun } project = prepare settings project :=
  rfl

theorem plan_dryRun (setup : Setup) (model : Text) (packages : List Text) (search : SearchState) :
    plan { settings with dryRun } project setup model packages search =
      plan settings project setup model packages search :=
  rfl

end DryRun

theorem complete_dry (project : Project) (model : Text) (search : SearchState) (steps : Plan) :
    (complete nameOf true project model search steps).abort = none ∧
      (complete nameOf true project model search steps).project.tree = project.tree ∧
      (complete nameOf true project model search steps).report.updated = [] ∧
      (complete nameOf true project model search steps).shown = steps.targets ∧
      (complete nameOf true project model search steps).handed = [] := by
  have effects := @complete_effects nameOf true project model search steps
  rw [Effects.useAll_preview] at effects
  have done := congrArg Prod.fst effects
  refine ⟨congrArg Prod.snd effects, congrArg Effects.tree done, congrArg Effects.updated done,
    ?_, congrArg Effects.handed done⟩
  exact (congrArg Effects.shown done).trans (List.nil_append _)

theorem complete_real {project : Project} {model : Text} {search : SearchState} {steps : Plan}
    (completes : (complete nameOf false project model search steps).abort = none) :
    (complete nameOf false project model search steps).handed = steps.targets ∧
      (complete nameOf false project model search steps).report.updated =
        steps.targets.map Target.fullName ∧
      (complete nameOf false project model search steps).report.previewed = [] ∧
      (complete nameOf false project model search steps).project.tree =
        Effects.writeEach nameOf project.tree steps.targets := by
  have effects := @complete_effects nameOf false project model search steps
  have whole : (Effects.useAll nameOf false steps.targets (.start project.tree)).2 = none :=
    Option.map_eq_none_iff.mp ((congrArg Prod.snd effects).symm.trans completes)
  obtain ⟨isHanded, isUpdated, isPreviewed, -⟩ :=
    Effects.useAll_write (show Effects.useAll nameOf false steps.targets (.start project.tree) =
      ((Effects.useAll nameOf false steps.targets (.start project.tree)).1, none) by rw [← whole])
  obtain ⟨done, isDone, isWritten, -⟩ :=
    @Effects.useAll_tree nameOf steps.targets (.start project.tree)
  have every : steps.targets = done := by
    have same := isHanded.symm.trans isDone
    exact same
  have run := congrArg Prod.fst effects
  refine ⟨(congrArg Effects.handed run).trans isHanded,
    (congrArg Effects.updated run).trans isUpdated,
    (congrArg Effects.previewed run).trans isPreviewed, ?_⟩
  rw [every]
  exact (congrArg Effects.tree run).trans isWritten

/-- A dry run changes no file and updates no class. When the run that writes completes, the dry run
completes too and shows what is handed to the writer, block for block; the written classes are those
shown, no class is reported as shown, and both leave out the same modules and classes. -/
theorem dryRun_shows_writes (nameOf : Text → Option Nat) (settings : Settings) (project : Project)
    (model : Text) (packages : List Text) :
    let dry := run nameOf { settings with dryRun := true } project model packages
    let real := run nameOf { settings with dryRun := false } project model packages
    (dry.project.tree = project.tree ∧ dry.report.updated = [] ∧ dry.handed = []) ∧
      (real.abort = none →
        dry.abort = none ∧ real.handed = dry.shown ∧
          real.report.updated = dry.shown.map Target.fullName ∧ real.report.previewed = [] ∧
          real.report.skipped = dry.report.skipped ∧
          real.project.tree = Effects.writeEach nameOf project.tree dry.shown) := by
  simp only [run, prepare_dryRun, plan_dryRun]
  have early (world : Program.World) (records : List Log.Record) (abort : Abort) :
      (Outcome.early project world records abort).handed = [] := by
    simp [Outcome.handed, Outcome.early, List.filterMap_map, Function.comp_def, Note.handed?]
  rcases prepare settings project with ⟨search, abort | setup⟩
  · have handed := early search.world search.records abort
    exact ⟨⟨rfl, rfl, handed⟩, fun completes => absurd completes (by simp [Outcome.early])⟩
  · simp only
    rcases plan settings project setup model packages search with ⟨found, abort | steps⟩
    · have handed := early found.world found.records abort
      exact ⟨⟨rfl, rfl, handed⟩, fun completes => absurd completes (by simp [Outcome.early])⟩
    · simp only
      obtain ⟨ends, sameTree, noUpdate, isShown, noHanded⟩ :=
        @complete_dry nameOf project model found steps
      refine ⟨⟨sameTree, noUpdate, noHanded⟩, fun completes => ?_⟩
      obtain ⟨isHanded, isUpdated, isPreviewed, isWritten⟩ := complete_real completes
      rw [isShown]
      refine ⟨ends, isHanded, isUpdated, isPreviewed, ?_, isWritten⟩
      rw [complete_skipped _ _ _ _ completes, complete_skipped _ _ _ _ ends]

/-! A project in which one class has a table and one has none. -/

def baseClass : Program.ClassDefinition :=
  ⟨"Base".toList, "Base".toList, none, [], .registryBase, [], .standard⟩

def modelClass (name : String) (table : String) (members : List (Text × Program.Member)) :
    Program.ClassDefinition :=
  ⟨name.toList, name.toList, none, ["Base".toList], .model (some table.toList) false, members,
    .standard⟩

def shopProject : Project where
  root := .project
  tree := ⟨[([("app" : String).toList, "a.py".toList],
    Encoding.encodeUtf8 "class User:\n    pass\n".toList)], []⟩
  world := .create [⟨"app.a".toList, some "app/a.py".toList,
    [.define baseClass, .define (modelClass "User" "users" []),
      .define (modelClass "Ghost" "ghosts" [])]⟩] []
  database := .ofFile [⟨"users".toList, [⟨"id".toList, "INTEGER".toList⟩]⟩]

def shopSettings : Settings :=
  { Settings.standard with modelsPackage := "app".toList }

theorem dryRun_shows_writes_sample :
    (run (fun _ => none) { shopSettings with dryRun := false } shopProject [] []).abort = none ∧
      (run (fun _ => none) { shopSettings with dryRun := false } shopProject [] []).handed =
        (run (fun _ => none) { shopSettings with dryRun := true } shopProject [] []).shown ∧
      (run (fun _ => none) { shopSettings with dryRun := true } shopProject [] []).shown.map
        Target.fullName = ["app.a.User".toList] ∧
      (run (fun _ => none) { shopSettings with dryRun := true } shopProject [] []).report.skipped.map
        Prod.fst = ["app.a.Ghost".toList] := by
  have completes :
      (run (fun _ => none) { shopSettings with dryRun := false } shopProject [] []).abort = none :=
    Option.isNone_iff_eq_none.mp (by decide +kernel)
  have agree := (dryRun_shows_writes (fun _ => none) shopSettings shopProject [] []).2 completes
  exact ⟨completes, agree.2.1, by decide +kernel, by decide +kernel⟩

/-! ## Files that are listed while blocks are written -/

theorem moduleFiles_put {tree : FileTree} {place : List Text} (isFile : (tree.file? place).isSome)
    (bytes : Bytes) (directory : Path) :
    moduleFiles (tree.put place bytes) directory = moduleFiles tree directory := by
  have samePlaces : (tree.put place bytes).places = tree.places := by
    unfold FileTree.places FileTree.put
    rw [if_pos isFile]
    have sameNames : (tree.files.map fun entry =>
        if entry.1 = place then (place, bytes) else entry).map Prod.fst =
          tree.files.map Prod.fst := by
      rw [List.map_map]
      apply List.map_congr_left
      intro entry _
      show (if entry.1 = place then (place, bytes) else entry).1 = entry.1
      split
      · next same => exact same.symm
      · rfl
    simp only [sameNames]
  simp only [moduleFiles, FileTree.below, FileTree.placeOf_put isFile, samePlaces]

/-- A block that is written replaces the contents of a file that is there. -/
theorem moduleFiles_writeTarget (tree : FileTree) (target : Target) (directory : Path) :
    moduleFiles (Effects.writeTarget nameOf tree target).1 directory =
      moduleFiles tree directory := by
  unfold Effects.writeTarget
  rcases written : Block.write nameOf false tree target.source target.qualname target.block with
    ⟨after, fault | changed⟩
  · have same : after = tree := Block.eq_of_write_eq_error written
    rw [same]
  · obtain ⟨bytes, -, -, -, isRead, -, -, ⟨-, same, -⟩ | ⟨-, stored, -, same⟩⟩ :=
      Block.write_eq_ok written
    · rw [same]
    · obtain ⟨place, leads, found⟩ := FileTree.read_eq_ok_iff.mp isRead
      have isFile : (tree.file? place).isSome := by rw [found, Option.isSome_some]
      rw [same, FileTree.write_eq_put leads]
      exact moduleFiles_put isFile stored directory

theorem moduleFiles_writeEach (tree : FileTree) (targets : List Target) (directory : Path) :
    moduleFiles (Effects.writeEach nameOf tree targets) directory =
      moduleFiles tree directory := by
  induction targets generalizing tree with
  | nil => rfl
  | cons target rest inductionHypothesis =>
      show moduleFiles (Effects.writeEach nameOf (Effects.writeTarget nameOf tree target).1 rest)
        directory = _
      rw [inductionHypothesis, moduleFiles_writeTarget]

theorem moduleFiles_carryOut (plan : Plan) (progress : Progress) (directory : Path) :
    moduleFiles (carryOut nameOf dryRun plan progress).1.tree directory =
      moduleFiles progress.tree directory := by
  have effects := @performAll_effects nameOf dryRun plan.2 plan.1 progress
  have sameTree := congrArg (fun done => done.1.tree) effects
  show moduleFiles (performAll nameOf dryRun plan.2 plan.1 progress).1.effects.tree directory = _
  rw [show (performAll nameOf dryRun plan.2 plan.1 progress).1.effects.tree = _ from sameTree]
  cases dryRun with
  | true => rw [Effects.useAll_preview]; rfl
  | false =>
      obtain ⟨done, -, isWritten, -⟩ :=
        @Effects.useAll_tree nameOf (plan.1.filterMap Step.target?) progress.effects
      rw [isWritten, moduleFiles_writeEach]
      rfl

theorem performAll_append (between final : State) (first second : List Step)
    (progress : Progress) :
    performAll nameOf dryRun final (first ++ second) progress =
      match performAll nameOf dryRun between first progress with
      | (progress, _, none) => performAll nameOf dryRun final second progress
      | stopped => stopped := by
  induction first generalizing progress with
  | nil => rfl
  | cons step rest inductionHypothesis =>
      rw [List.cons_append, performAll, performAll]
      rcases perform nameOf dryRun progress step with ⟨after, _ | failed⟩
      · exact inductionHypothesis after
      · rfl

/-- A plan that is continued is carried out in two parts. -/
theorem carryOut_andThen (first : Plan) (next : State → Plan) (progress : Progress) :
    carryOut nameOf dryRun (first.andThen next) progress =
      match carryOut nameOf dryRun first progress with
      | (progress, _, none) => carryOut nameOf dryRun (next first.2) progress
      | stopped => stopped :=
  performAll_append first.2 (next first.2).2 first.1 (next first.2).1 progress

/-- A scan that lists the module files of each package when it comes to it. -/
def scanEach (nameOf : Text → Option Nat) (dryRun : Bool) (setup : Setup) :
    List Mapping → State → Progress → Progress × State × Option Failed
  | [], state, progress => (progress, state, none)
  | package :: rest, state, progress =>
    let plan := packagePlan setup progress.tree package state
    match carryOut nameOf dryRun plan progress with
    | (progress, _, none) => scanEach nameOf dryRun setup rest plan.2 progress
    | stopped => stopped

theorem packagePlan_congr (setup : Setup) {tree other : FileTree} {package : Mapping}
    (sameFiles : moduleFiles other package.directory = moduleFiles tree package.directory)
    (state : State) : packagePlan setup other package state = packagePlan setup tree package state := by
  simp only [packagePlan, sameFiles]

/-- The files of all packages may be listed before any block is written. -/
theorem carryOut_scanPlan (setup : Setup) (tree : FileTree) (packages : List Mapping)
    (state : State) (progress : Progress)
    (sameFiles : ∀ directory, moduleFiles progress.tree directory = moduleFiles tree directory) :
    carryOut nameOf dryRun (scanPlan setup tree packages state) progress =
      scanEach nameOf dryRun setup packages state progress := by
  induction packages generalizing state progress with
  | nil => rfl
  | cons package rest inductionHypothesis =>
      have listed := packagePlan_congr setup (sameFiles package.directory) state
      show carryOut nameOf dryRun ((packagePlan setup tree package state).andThen
        (scanPlan setup tree rest)) progress = _
      rw [carryOut_andThen, scanEach, listed]
      rcases carried : carryOut nameOf dryRun (packagePlan setup tree package state) progress with
        ⟨after, last, _ | failed⟩
      · apply inductionHypothesis
        intro directory
        have kept := @moduleFiles_carryOut nameOf dryRun (packagePlan setup tree package state)
          progress directory
        rw [carried] at kept
        exact kept.trans (sameFiles directory)
      · rfl

end SchemaDoc.Generation
