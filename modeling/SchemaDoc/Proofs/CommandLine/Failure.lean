import SchemaDoc.CommandLine.Command
import SchemaDoc.Proofs.Block.Faults
import SchemaDoc.Proofs.Computation
import SchemaDoc.Proofs.Console.Markup
import SchemaDoc.Proofs.Generation.Effects

/-!
Contract: how the command ends when a block cannot be written.

A fault that is reported is printed, whatever characters its text has, and the status is 1. The
command reports the failure of a run exactly when the file at which the run stops does not escape
(`write_reports_iff`), which takes a file that stores no text, a null character or a lone carriage
return.
-/

namespace SchemaDoc.CommandLine

open Generation

variable {nameOf : Text → Option Nat} {dryRun : Bool}

/-- What is printed about a fault. -/
def PrintsFault (fault : Fault) (before after : Session) : Prop :=
  ∃ runs, Console.Markup.render (Console.Markup.faultMark ++ Console.Markup.escape fault.message) =
      .ok runs ∧
    after = { before with
      written := before.written ++ [.printed (before.screen.shows true runs ++ ['\n'])] }

/-- A reported fault is printed, and the command ends with the status of a failure. -/
theorem fail_run {α : Type} (fault : Fault) (session : Session) :
    ∃ after, PrintsFault fault session after ∧
      (Act.fail (α := α) fault.message).run session = (.error (.exited 1), after) := by
  obtain ⟨runs, rendered⟩ := Console.Markup.exists_render_eq_ok fault.message
  refine ⟨_, ⟨runs, rendered, rfl⟩, ?_⟩
  unfold Act.fail Act.printMarkup
  rw [show "[red]✗[/red] " = Console.Markup.faultMark from rfl, rendered]
  rfl

/-- The command ends with a failed write by its report, or by a crash where there is none. -/
theorem abort_write (failed : Failed) (session : Session) :
    match failed.fault.report? failed.target.source.render failed.target.qualname with
    | some report => ∃ after, PrintsFault report session after ∧
        (abort (.write failed)).run session = (.error (.exited 1), after)
    | none => (abort (.write failed)).run session = (.error (.crashed (.writing failed)), session) := by
  rw [abort]
  cases failed.fault.report? failed.target.source.render failed.target.qualname with
  | some report => exact fail_run report session
  | none => rfl

/-- A block is written, or the command prints a fault that names the file and ends with the status
of a failure. -/
def WritesOrReports (nameOf : Text → Option Nat) (isFull : Bool) (tree : FileTree) (target : Target)
    (session : Session) : Prop :=
  (∃ changed, (Block.write nameOf isFull tree target.source target.qualname target.block).2 =
      .ok changed) ∨
    ∃ fault reason after,
      (Block.write nameOf isFull tree target.source target.qualname target.block).2 =
          .error fault ∧
        fault.report? target.source.render target.qualname =
          some (.writing target.source.render reason) ∧
        PrintsFault (.writing target.source.render reason) session after ∧
        (abort (.write ⟨target, fault⟩)).run session = (.error (.exited 1), after)

/-- A block is written or its fault is reported, unless the file escapes; and no file escapes but
one that stores no text, or a text with a null character or a lone carriage return. -/
theorem write_reports_iff (nameOf : Text → Option Nat) (isFull : Bool) (tree : FileTree)
    (target : Target) (session : Session) :
    (WritesOrReports nameOf isFull tree target session ↔
        ¬ ∃ bytes, tree.read target.source = .ok bytes ∧
          Block.Escapes nameOf target.qualname bytes) ∧
      ∀ bytes, Block.Escapes nameOf target.qualname bytes → Block.IsOdd bytes := by
  refine ⟨?_, fun _ escapes => escapes.isOdd⟩
  rw [← @Block.write_unreported_iff nameOf target.qualname target.block isFull]
  constructor
  · rintro (⟨changed, written⟩ | ⟨fault, reason, after, written, reported, -⟩)
      ⟨cause, failed, unreported⟩
    · exact absurd (written.symm.trans failed) (by simp)
    · obtain rfl := Except.error.inj (written.symm.trans failed)
      exact absurd (reported.symm.trans unreported) (by simp)
  · intro noEscape
    unfold WritesOrReports
    cases written : (Block.write nameOf isFull tree target.source target.qualname target.block).2 with
    | ok changed => exact .inl ⟨changed, rfl⟩
    | error fault =>
        have ends := abort_write ⟨target, fault⟩ session
        cases reported : fault.report? target.source.render target.qualname with
        | none => exact absurd ⟨fault, written, reported⟩ noEscape
        | some report =>
            obtain ⟨reason, rfl⟩ := Block.report?_eq_some reported
            simp only [reported] at ends
            obtain ⟨after, prints, exits⟩ := ends
            exact .inr ⟨fault, reason, after, rfl, reported, prints, exits⟩

/-! Two files that escape: a null character behind the class, and a class on the second line of
the program but on the first one that ends with a line feed. -/

def nullTree : FileTree :=
  ⟨[(["m.py".toList], Encoding.encodeUtf8 "class User: pass\n\x00".toList)], []⟩

def returnTree : FileTree :=
  ⟨[(["m.py".toList], Encoding.encodeUtf8 "x = 1\rclass User: pass\n".toList)], []⟩

def userTarget : Target :=
  ⟨⟨.project, ["m.py".toList]⟩, "m.User".toList, "User".toList, "users".toList,
    "# region model-doc: User\n# @table users\n# endregion model-doc\n".toList⟩

/-- A null character in a file is not reported. -/
theorem write_null_character_unreported :
    ¬ ((∃ changed, (Block.write (fun _ => none) false nullTree userTarget.source
          userTarget.qualname userTarget.block).2 = .ok changed) ∨
        ∃ fault report, (Block.write (fun _ => none) false nullTree userTarget.source
            userTarget.qualname userTarget.block).2 = .error fault ∧
          fault.report? userTarget.source.render userTarget.qualname = some report) := by
  have fails : (Block.write (fun _ => none) false nullTree userTarget.source userTarget.qualname
      userTarget.block).2 = .error (.placement .nullCharacter) := by decide +kernel
  rw [fails]
  rintro (⟨changed, written⟩ | ⟨fault, report, isFault, reported⟩)
  · exact absurd written (by simp)
  · obtain rfl := Except.error.inj isFault
    exact absurd reported (by simp [Block.WriteFault.report?, Block.PlacementFault.report?])

example : (Block.write (fun _ => none) false returnTree userTarget.source userTarget.qualname
    userTarget.block).2 = .error (.placement .lineMissing) := by decide +kernel

/-! ## Whole commands -/

/-- Nothing that is seen of a run ends the command. -/
theorem follow_run (stamp : Log.Stamp) (notes : List Note) (session : Session) :
    ∃ after, (follow stamp notes).run session = (.ok (), after) := by
  induction notes generalizing session with
  | nil => exact ⟨session, rfl⟩
  | cons note rest inductionHypothesis =>
      cases note with
      | logged record => exact inductionHypothesis _
      | shown target => exact inductionHypothesis _
      | handed target => exact inductionHypothesis session

theorem conclude_abort {outcome : Generation.Outcome} {cause : Abort} {ending : Ending}
    {session after : Session} (aborts : outcome.abort = some cause)
    (ends : (abort cause).run session = (.error ending, after)) (model : Text) :
    (conclude model outcome).run session = (.error ending, after) := by
  have opens : conclude model outcome = (do
      abort cause
      if exitStatus model outcome.report != 0 then
        throw (.exited (exitStatus model outcome.report))
      printLines (summary outcome.report)) := by
    unfold conclude
    rw [aborts]
  rw [opens]
  rw [Computation.run_bind, ends]

/-- A command whose run stops at a block reports it exactly when the file does not escape. -/
theorem generate_failed_write {nameOf : Text → Option Nat} {stamp : Log.Stamp} {site : Site}
    {logIsChosen : Bool} {options : Options} {session opened : Session} {settings : Settings}
    {database : Database} {root : Path} {failed : Failed}
    (isRoot : root = FileTree.resolve ((options.projectRoot.map Path.parse).getD .project))
    (opens : (openRun stamp site root logIsChosen options).run session =
      (.ok (settings, database), opened))
    (aborts : (Generation.run nameOf settings ⟨root, site.tree, site.world, database⟩
      options.modelText options.packageNames).abort = some (.write failed)) :
    let outcome := generate nameOf stamp site logIsChosen options session
    (∃ bytes, outcome.site.tree.read failed.target.source = .ok bytes ∧
        Block.Escapes nameOf failed.target.qualname bytes ∧
        outcome.ending = .crashed (.writing failed)) ∨
      (¬ ∃ bytes, outcome.site.tree.read failed.target.source = .ok bytes ∧
        Block.Escapes nameOf failed.target.qualname bytes) ∧
      outcome.ending = .exited 1 ∧
        ∃ reason before after,
          PrintsFault (.writing failed.target.source.render reason) before after ∧
            outcome.written = after.written := by
  subst isRoot
  intro outcome
  have stops := run_abort aborts
  generalize isRun : Generation.run nameOf settings _ _ _ = done at aborts stops
  obtain ⟨followed, follows⟩ := follow_run stamp done.notes opened
  have goesOn (ending : Ending) (after : Session)
      (ends : (abort (.write failed)).run followed = (.error ending, after)) :
      outcome = finish { site with tree := done.project.tree, world := done.project.world } after
        (.error ending) := by
    have concludes := conclude_abort aborts ends options.modelText
    show generate nameOf stamp site logIsChosen options session = _
    unfold generate
    simp only [opens, isRun, Computation.run_bind, follows, concludes]
  have failure : (Block.write nameOf false done.project.tree failed.target.source
      failed.target.qualname failed.target.block).2 = .error failed.fault := congrArg Prod.snd stops
  have escapes_iff := @Block.write_unreported_iff nameOf failed.target.qualname
    failed.target.block false done.project.tree failed.target.source
  have ends := abort_write failed followed
  cases reported : failed.fault.report? failed.target.source.render failed.target.qualname with
  | none =>
      left
      simp only [reported] at ends
      obtain ⟨bytes, isRead, escapes⟩ := escapes_iff.mp ⟨failed.fault, failure, reported⟩
      rw [goesOn _ _ ends]
      exact ⟨bytes, isRead, escapes, rfl⟩
  | some report =>
      right
      obtain ⟨reason, rfl⟩ := Block.report?_eq_some reported
      simp only [reported] at ends
      obtain ⟨after, prints, exits⟩ := ends
      rw [goesOn _ _ exits]
      refine ⟨?_, rfl, reason, followed, after, prints, rfl⟩
      intro escapes
      obtain ⟨fault, isFault, unreported⟩ := escapes_iff.mpr escapes
      obtain rfl := Except.error.inj (failure.symm.trans isFault)
      exact absurd (reported.symm.trans unreported) (by simp)

end SchemaDoc.CommandLine
