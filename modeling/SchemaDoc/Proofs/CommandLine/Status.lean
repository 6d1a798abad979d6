import SchemaDoc.Proofs.CommandLine.Failure
import SchemaDoc.Proofs.Generation.DryRun
import SchemaDoc.Proofs.Generation.OneModel

/-!
Contract: the status of a command for one model.

The status tells whether the class was documented or left out exactly when what is left out is reported
under the path that was given, and the names of the written classes can be printed
(`model_status`). A class that is found but has no block is reported under its own name, so that
two spellings of one path may end with different statuses.
-/

namespace SchemaDoc.CommandLine

open Generation

/-! ## The end of a complete run -/

/-- The text with style tags can be printed. -/
def Renders (line : Text) : Prop :=
  ∃ runs, Console.Markup.render line = .ok runs

/-- The line about a written class. -/
def updatedLine (name : Text) : Text :=
  "[green]✨[/green] Updated: " ++ name

/-- The last line of the summary. -/
def doneLine (updated previewed skipped : Nat) : Text :=
  "[green]✓[/green] Done generating model docs (" ++ Text.ofNat updated ++ " updated, " ++
    Text.ofNat previewed ++ " previewed, " ++ Text.ofNat skipped ++ " skipped)."

theorem forall_mem_summary_iff (report : Report) :
    (∀ line ∈ summary report, Renders line) ↔
      (∀ name ∈ report.updated, Renders (updatedLine name)) ∧
        Renders (doneLine report.updated.length report.previewed.length report.skipped.length) := by
  rw [show summary report = report.updated.map updatedLine ++
    [doneLine report.updated.length report.previewed.length report.skipped.length] from rfl]
  rw [List.forall_mem_append, List.forall_mem_map, List.forall_mem_singleton]

theorem printLines_run (lines : List Text) (session : Session) :
    ((∀ line ∈ lines, Renders line) ∧
        ∃ after, (printLines lines).run session = (.ok (), after)) ∨
      ¬ (∀ line ∈ lines, Renders line) ∧
        ∃ fault after, (printLines lines).run session = (.error (.crashed (.markup fault)), after) := by
  induction lines generalizing session with
  | nil => exact .inl ⟨by simp, session, rfl⟩
  | cons line rest inductionHypothesis =>
      rw [printLines, Computation.run_bind, Act.printMarkup]
      cases renders : Console.Markup.render line with
      | error fault =>
          refine .inr ⟨fun all => ?_, fault, session, rfl⟩
          obtain ⟨runs, isShown⟩ := all line List.mem_cons_self
          exact absurd (renders.symm.trans isShown) (by simp)
      | ok runs =>
          have lineRenders : Renders line := ⟨runs, renders⟩
          rcases inductionHypothesis { session with
            written := session.written ++
              [.printed (session.screen.shows true runs ++ ['\n'])] } with
            ⟨all, after, prints⟩ | ⟨some, fault, after, crashes⟩
          · exact .inl ⟨List.forall_mem_cons.mpr ⟨lineRenders, all⟩, after, prints⟩
          · exact .inr ⟨fun all => some (List.forall_mem_cons.mp all).2, fault, after, crashes⟩

/-- The end of a command whose run is complete: with the status that the report gives, unless its
summary cannot be printed. -/
def EndsWith (model : Text) (report : Report) (ending : Ending) : Prop :=
  (exitStatus model report ≠ 0 ∧ ending = .exited (exitStatus model report)) ∨
    exitStatus model report = 0 ∧
      ((∀ line ∈ summary report, Renders line) ∧ ending = .exited 0 ∨
        ¬ (∀ line ∈ summary report, Renders line) ∧ ∃ fault, ending = .crashed (.markup fault))

theorem conclude_complete {done : Generation.Outcome} (completes : done.abort = none)
    (model : Text) (session : Session) :
    (exitStatus model done.report ≠ 0 ∧
        (conclude model done).run session =
          (.error (.exited (exitStatus model done.report)), session)) ∨
      exitStatus model done.report = 0 ∧
        (conclude model done).run session = (printLines (summary done.report)).run session := by
  have closes : conclude model done =
      if exitStatus model done.report ≠ 0 then throw (.exited (exitStatus model done.report))
      else printLines (summary done.report) := by
    unfold conclude
    rw [completes]
    simp
  by_cases isSkipped : exitStatus model done.report ≠ 0
  · rw [closes, if_pos isSkipped]
    exact .inl ⟨isSkipped, rfl⟩
  · rw [closes, if_neg isSkipped]
    exact .inr ⟨not_not.mp isSkipped, rfl⟩

section Command

variable {nameOf : Text → Option Nat} {stamp : Log.Stamp} {site : Site} {root : Path}
  {options : Options} {settings : Settings} {database : Database} {opened : Session}

/-- A command behind the opening of its database. -/
def document (nameOf : Text → Option Nat) (stamp : Log.Stamp) (site : Site) (root : Path)
    (options : Options) (settings : Settings) (database : Database) (opened : Session) : Outcome :=
  let done := Generation.run nameOf settings ⟨root, site.tree, site.world, database⟩
    options.modelText options.packageNames
  let closing : Act Unit := do
    follow stamp done.notes
    conclude options.modelText done
  finish { site with tree := done.project.tree, world := done.project.world }
    (closing.run opened).2 (closing.run opened).1

/-- What a command does when its settings are loaded and its database is opened. -/
theorem generate_eq_document {logIsChosen : Bool} {session : Session}
    (isRoot : root = FileTree.resolve ((options.projectRoot.map Path.parse).getD .project))
    (opens : (openRun stamp site root logIsChosen options).run session =
      (.ok (settings, database), opened)) :
    generate nameOf stamp site logIsChosen options session =
      document nameOf stamp site root options settings database opened := by
  subst isRoot
  unfold generate
  simp only [opens]
  rfl

theorem document_endsWith
    (completes : (Generation.run nameOf settings ⟨root, site.tree, site.world, database⟩
      options.modelText options.packageNames).abort = none) :
    EndsWith options.modelText
      (Generation.run nameOf settings ⟨root, site.tree, site.world, database⟩
        options.modelText options.packageNames).report
      (document nameOf stamp site root options settings database opened).ending := by
  unfold document
  extract_lets done closing
  obtain ⟨followed, follows⟩ := follow_run stamp done.notes opened
  have goesOn : closing.run opened = (conclude options.modelText done).run followed := by
    show (do follow stamp done.notes; conclude options.modelText done : Act Unit).run opened = _
    rw [Computation.run_bind, follows]
  rw [goesOn]
  rcases conclude_complete completes options.modelText followed with
    ⟨isSkipped, exits⟩ | ⟨notSkipped, prints⟩
  · rw [exits]
    exact .inl ⟨isSkipped, rfl⟩
  · rw [prints]
    refine .inr ⟨notSkipped, ?_⟩
    rcases printLines_run (summary done.report) followed with
      ⟨all, after, printed⟩ | ⟨some, fault, after, crashes⟩
    · rw [printed]
      exact .inl ⟨all, rfl⟩
    · rw [crashes]
      exact .inr ⟨some, fault, rfl⟩

end Command

/-! ## Commands for one model -/

/-- The status is zero exactly when the class was documented, and one when it was left out. -/
def StatusTells (ending : Ending) (report : Report) : Prop :=
  (ending = .exited 0 ↔ report.updated ≠ [] ∨ report.previewed ≠ []) ∧
    (report.skipped ≠ [] → ending = .exited 1)

section Model

variable {model : Text} {report : Report} {ending : Ending}

theorem exitStatus_leftOut (isNamed : model ≠ []) (name reason : Text) :
    exitStatus model ⟨[], [], [(name, reason)]⟩ = if name = model then 1 else 0 := by
  unfold exitStatus
  cases model with
  | nil => exact absurd rfl isNamed
  | cons c rest => by_cases same : name = c :: rest <;> simp [same]

theorem exitStatus_nothingSkipped (updated : List Text) (previewed : List (Text × Text)) :
    exitStatus model ⟨updated, previewed, []⟩ = 0 := by
  unfold exitStatus
  simp

/-- A class that is left out ends the command with status one if it is reported as it was given, and
otherwise with status zero. -/
theorem EndsWith.leftOut {name reason : Text} (isNamed : model ≠ [])
    (ends : EndsWith model ⟨[], [], [(name, reason)]⟩ ending) :
    ending = .exited (if name = model then 1 else 0) := by
  have printed : ∀ line ∈ summary ⟨[], [], [(name, reason)]⟩, Renders line :=
    (forall_mem_summary_iff _).mpr
      ⟨by simp, show Renders (doneLine 0 0 1) from Computation.exists_ok_of_isSome (by decide +kernel)⟩
  unfold EndsWith at ends
  rw [exitStatus_leftOut isNamed] at ends
  rcases ends with ⟨-, isEnding⟩ | ⟨isZero, ⟨-, isEnding⟩ | ⟨notPrinted, -⟩⟩
  · exact isEnding
  · rw [isZero]
    exact isEnding
  · exact absurd printed notPrinted

theorem EndsWith.shown {name block : Text} (ends : EndsWith model ⟨[], [(name, block)], []⟩ ending) :
    ending = .exited 0 := by
  have printed : ∀ line ∈ summary ⟨[], [(name, block)], []⟩, Renders line :=
    (forall_mem_summary_iff _).mpr
      ⟨by simp, show Renders (doneLine 0 1 0) from Computation.exists_ok_of_isSome (by decide +kernel)⟩
  unfold EndsWith at ends
  rw [exitStatus_nothingSkipped] at ends
  rcases ends with ⟨notZero, -⟩ | ⟨-, ⟨-, isEnding⟩ | ⟨notPrinted, -⟩⟩
  · exact absurd rfl notZero
  · exact isEnding
  · exact absurd printed notPrinted

theorem EndsWith.written {name : Text} (ends : EndsWith model ⟨[name], [], []⟩ ending) :
    (Renders (updatedLine name) ∧ ending = .exited 0) ∨
      ¬ Renders (updatedLine name) ∧ ∃ fault, ending = .crashed (.markup fault) := by
  have printed : (∀ line ∈ summary ⟨[name], [], []⟩, Renders line) ↔ Renders (updatedLine name) := by
    rw [forall_mem_summary_iff]
    have counts : Renders (doneLine 1 0 0) := Computation.exists_ok_of_isSome (by decide +kernel)
    simpa using fun _ => counts
  unfold EndsWith at ends
  rw [exitStatus_nothingSkipped, printed] at ends
  rcases ends with ⟨notZero, -⟩ | ⟨-, either⟩
  · exact absurd rfl notZero
  · exact either

theorem statusTells_iff (isNamed : model ≠ []) (isReport : ModelReport model report)
    (ends : EndsWith model report ending) :
    StatusTells ending report ↔
      (∀ entry ∈ report.skipped, entry.1 = model) ∧
        ∀ name ∈ report.updated, Renders (updatedLine name) := by
  unfold StatusTells
  cases isReport with
  | notFound reason =>
      rw [ends.leftOut isNamed]
      simp
  | leftOut name reason =>
      rw [ends.leftOut isNamed]
      by_cases same : name = model <;> simp [same]
  | shown name block =>
      rw [ends.shown]
      simp
  | written name => rcases ends.written with ⟨renders, rfl⟩ | ⟨notRendered, fault, rfl⟩ <;> simp [*]

/-- Two spellings of one path end with the same status, unless the class is found, has no block, and
one of them alone is its name. -/
theorem status_eq_iff {other : Text} {otherReport : Report} {otherEnding : Ending}
    (isNamed : model ≠ []) (otherNamed : other ≠ []) (isReport : ModelReport model report)
    (alike : otherReport = report ∨ ∃ reason otherReason,
      report = ⟨[], [], [(model, reason)]⟩ ∧ otherReport = ⟨[], [], [(other, otherReason)]⟩)
    (ends : EndsWith model report ending) (otherEnds : EndsWith other otherReport otherEnding) :
    otherEnding.status = ending.status ↔
      ∀ entry ∈ report.skipped, entry.1 ∈ otherReport.skipped.map Prod.fst →
        (entry.1 = model ↔ entry.1 = other) := by
  have leftOut {name reason : Text} (ends : EndsWith model ⟨[], [], [(name, reason)]⟩ ending)
      (otherEnds : EndsWith other ⟨[], [], [(name, reason)]⟩ otherEnding) :
      otherEnding.status = ending.status ↔ (name = model ↔ name = other) := by
    rw [ends.leftOut isNamed, otherEnds.leftOut otherNamed, Ending.status, Ending.status]
    by_cases isModel : name = model <;> by_cases isOther : name = other <;>
      simp [isModel, isOther]
  rcases alike with rfl | ⟨reason, otherReason, rfl, rfl⟩
  · cases isReport with
    | notFound reason => simpa using leftOut ends otherEnds
    | leftOut name reason => simpa using leftOut ends otherEnds
    | shown name block =>
        rw [ends.shown, otherEnds.shown]
        simp
    | written name =>
        rcases ends.written with ⟨renders, rfl⟩ | ⟨notRendered, fault, rfl⟩ <;>
          rcases otherEnds.written with ⟨otherRenders, rfl⟩ | ⟨otherNot, otherFault, rfl⟩
        · simp
        · exact absurd renders otherNot
        · exact absurd otherRenders notRendered
        · simp [Ending.status]
  · rw [ends.leftOut isNamed, otherEnds.leftOut otherNamed]
    simp

end Model

/-- The status of a complete command for one model tells what became of the class exactly when the
class is left out under the path that was given and its name can be printed; and two spellings end
alike unless the class is left out under a name that is one of them alone. -/
theorem model_status {nameOf : Text → Option Nat} {stamp : Log.Stamp} {site : Site} {root : Path}
    {options : Options} {settings : Settings} {database : Database} {opened : Session}
    {model : Text} (isNamed : model ≠ [])
    (completes : (Generation.run nameOf settings ⟨root, site.tree, site.world, database⟩ model
      options.packageNames).abort = none) :
    let report (model : Text) := (Generation.run nameOf settings
      ⟨root, site.tree, site.world, database⟩ model options.packageNames).report
    let ending (model : Text) := (document nameOf stamp site root
      { options with model := some model } settings database opened).ending
    (StatusTells (ending model) (report model) ↔
        (∀ entry ∈ (report model).skipped, entry.1 = model) ∧
          ∀ name ∈ (report model).updated, Renders (updatedLine name)) ∧
      (∀ other, other ≠ [] → normalizeClassPath model = normalizeClassPath other →
        ((ending other).status = (ending model).status ↔
          ∀ entry ∈ (report model).skipped, entry.1 ∈ (report other).skipped.map Prod.fst →
            (entry.1 = model ↔ entry.1 = other))) ∧
      ∀ logIsChosen session named,
        root = FileTree.resolve ((options.projectRoot.map Path.parse).getD .project) →
        (openRun stamp site root logIsChosen options).run session =
          (.ok (settings, database), opened) →
        (generate nameOf stamp site logIsChosen { options with model := some named } session).ending =
          ending named := by
  intro report ending
  have ends (named : Text) (completes : (Generation.run nameOf settings
      ⟨root, site.tree, site.world, database⟩ named options.packageNames).abort = none) :
      EndsWith named (report named) (ending named) :=
    @document_endsWith nameOf stamp site root { options with model := some named } settings database
      opened completes
  have isReport : ModelReport model (report model) := modelReport_run isNamed completes
  refine ⟨statusTells_iff isNamed isReport (ends model completes), ?_, ?_⟩
  · intro other otherNamed same
    obtain ⟨otherCompletes, alike⟩ := report_of_spelling isNamed otherNamed same completes
    exact status_eq_iff isNamed otherNamed isReport alike (ends model completes)
      (ends other otherCompletes)
  · intro logIsChosen session named isRoot opens
    rw [@generate_eq_document nameOf stamp site root { options with model := some named } settings
      database opened logIsChosen session isRoot opens]

/-! A class whose table is missing, named with dots and with slashes. -/

def shopSite : Site where
  tree := shopProject.tree
  world := shopProject.world
  environment := []
  databases := []
  log := .start
  screen := .wide
  wording := .brief

def namedRun (model : Text) : Generation.Outcome :=
  Generation.run (fun _ => none) .standard
    ⟨.project, shopSite.tree, shopSite.world, .ofFile []⟩ model []

def namedEnding (model : Text) : Ending :=
  (document (fun _ => none) ⟨[], []⟩ shopSite .project { Options.standard with model := some model }
    .standard (.ofFile []) ⟨.wide, .start, []⟩).ending

theorem model_status_dotted :
    "app.a.User".toList ≠ [] ∧ (namedRun "app.a.User".toList).abort = none ∧
      StatusTells (namedEnding "app.a.User".toList) (namedRun "app.a.User".toList).report := by
  have completes : (namedRun "app.a.User".toList).abort = none :=
    Option.isNone_iff_eq_none.mp (by decide +kernel)
  have isReport : ((namedRun "app.a.User".toList).report.skipped.map Prod.fst,
      (namedRun "app.a.User".toList).report.updated) = (["app.a.User".toList], []) := by
    decide +kernel
  obtain ⟨isSkipped, isUpdated⟩ := Prod.mk.inj isReport
  refine ⟨by decide, completes, ?_⟩
  refine (@model_status (fun _ => none) ⟨[], []⟩ shopSite .project .standard .standard
    (.ofFile []) ⟨.wide, .start, []⟩ "app.a.User".toList (by decide) completes).1.mpr ⟨?_, ?_⟩
  · intro entry member
    have isName : entry.1 ∈ (namedRun "app.a.User".toList).report.skipped.map Prod.fst :=
      List.mem_map_of_mem member
    rw [isSkipped] at isName
    exact List.mem_singleton.mp isName
  · intro name member
    have isUpdate : name ∈ (namedRun "app.a.User".toList).report.updated := member
    rw [isUpdated] at isUpdate
    exact absurd isUpdate List.not_mem_nil

/-- Two spellings of one path end with different statuses. -/
theorem model_status_spelling :
    normalizeClassPath "app/a/User".toList = normalizeClassPath "app.a.User".toList ∧
      ((namedRun "app.a.User".toList).abort.isNone ∧ (namedRun "app/a/User".toList).abort.isNone) ∧
      (namedEnding "app.a.User".toList).status = 1 ∧
      (namedEnding "app/a/User".toList).status = 0 := by
  decide +kernel

end SchemaDoc.CommandLine
