import SchemaDoc.Proofs.Generation.Isolation
import SchemaDoc.Proofs.Generation.SourceRoots
import SchemaDoc.Proofs.PackageSearch.Dropped

/-!
Contract: a run over named packages of which some are not found.

Behind its set-up a run searches for all its packages before it scans the first one. What it logs are the
records of the search and then those of its steps (`records_complete`). It warns about each package that is
not found and scans the other ones, unless the search raises (`dropped_unless_fatal`).
-/

namespace SchemaDoc.Generation

open Program

variable {nameOf : Text → Option Nat} {dryRun : Bool} {settings : Settings} {project : Project}

/-! ## What a run logs -/

def recordsOf (notes : List Note) : List Log.Record :=
  notes.filterMap Note.record?

theorem recordsOf_append (front back : List Note) :
    recordsOf (front ++ back) = recordsOf front ++ recordsOf back :=
  List.filterMap_append

theorem recordsOf_logged (records : List Log.Record) :
    recordsOf (records.map Note.logged) = records := by
  unfold recordsOf
  rw [List.filterMap_map]
  exact List.filterMap_some

/-- A step logs its records, and then what becomes of its block. -/
theorem records_perform (progress : Progress) (step : Step) :
    ∃ more, recordsOf (perform nameOf dryRun progress step).1.notes =
      recordsOf progress.notes ++ (step.records ++ more) := by
  have logged (more : List Note) :
      recordsOf (progress.notes ++ step.records.map Note.logged ++ more) =
        recordsOf progress.notes ++ (step.records ++ recordsOf more) := by
    rw [recordsOf_append, recordsOf_append, recordsOf_logged, List.append_assoc]
  have silent := logged []
  rw [List.append_nil] at silent
  unfold perform
  dsimp only
  cases step.event with
  | scanning package => exact ⟨_, silent⟩
  | processing model => exact ⟨_, silent⟩
  | skipped name reason => exact ⟨_, silent⟩
  | ready target =>
      dsimp only [useBlock]
      split
      · exact ⟨_, logged [.shown target]⟩
      · split
        · have updated := logged [.handed target, .logged (.info ("Updated: " ++ target.qualname))]
          exact ⟨_, (congrArg recordsOf (List.append_assoc _ [_] [_])).trans updated⟩
        · exact ⟨_, logged [.handed target]⟩

/-- Steps that are carried out to the end log their records in order. -/
theorem records_performAll (final : State) (steps : List Step) (progress : Progress) :
    ∃ more, recordsOf (performAll nameOf dryRun final steps progress).1.notes =
        recordsOf progress.notes ++ more ∧
      ((performAll nameOf dryRun final steps progress).2.2 = none →
        (steps.flatMap Step.records).Sublist more) := by
  induction steps generalizing progress with
  | nil => exact ⟨[], (List.append_nil _).symm, fun _ => List.Sublist.refl _⟩
  | cons step rest inductionHypothesis =>
      obtain ⟨used, isUsed⟩ := @records_perform nameOf dryRun progress step
      rw [performAll]
      rcases performed : perform nameOf dryRun progress step with ⟨after, _ | failed⟩
      · rw [performed] at isUsed
        obtain ⟨more, isLogged, ordered⟩ := inductionHypothesis after
        refine ⟨step.records ++ used ++ more, ?_, fun completes => ?_⟩
        · rw [isLogged, isUsed, List.append_assoc]
        · rw [List.flatMap_cons]
          apply List.Sublist.append
          · exact List.sublist_append_left _ _
          · exact ordered completes
      · rw [performed] at isUsed
        exact ⟨step.records ++ used, isUsed, fun completes => absurd completes (by simp)⟩

/-- A run logs what its search has logged first. -/
theorem records_complete (project : Project) (model : Text) (search : SearchState) (steps : Plan) :
    ∃ more, (complete nameOf dryRun project model search steps).records = search.records ++ more ∧
      ((complete nameOf dryRun project model search steps).abort = none →
        (steps.1.flatMap Step.records).Sublist more) := by
  obtain ⟨more, isLogged, ordered⟩ := @records_performAll nameOf dryRun steps.2 steps.1
    ((Progress.start project.tree).log search.records)
  have opening : recordsOf ((Progress.start project.tree).log search.records).notes =
      search.records := recordsOf_logged search.records
  rw [opening] at isLogged
  show ∃ more, recordsOf (complete nameOf dryRun project model search steps).notes = _ ∧ _
  unfold complete carryOut
  dsimp only
  rw [recordsOf_append, isLogged, List.append_assoc]
  refine ⟨_, rfl, fun completes => ?_⟩
  exact (ordered (Option.map_eq_none_iff.mp completes)).trans (List.sublist_append_left _ _)

/-- What is logged when the scan of a package begins. -/
def scanRecord (mapping : Mapping) : Log.Record :=
  .info ("Scanning: " ++ mapping.package)

theorem scanRecords_sublist (setup : Setup) (tree : FileTree) (mappings : List Mapping)
    (state : State) :
    (mappings.map scanRecord).Sublist
      ((scanPlan setup tree mappings state).1.flatMap Step.records) := by
  induction mappings generalizing state with
  | nil => exact List.Sublist.refl _
  | cons mapping rest inductionHypothesis =>
      show (scanRecord mapping :: rest.map scanRecord).Sublist
        (((packagePlan setup tree mapping state).1 ++ (scanPlan setup tree rest _).1).flatMap
          Step.records)
      rw [List.flatMap_append]
      have first : [scanRecord mapping].Sublist
          ((packagePlan setup tree mapping state).1.flatMap Step.records) :=
        List.singleton_sublist.mpr List.mem_cons_self
      exact first.append (inductionHypothesis _)

/-! ## Named packages -/

section Named

variable {search : SearchState} {setup : Setup} {packages : List Text}

/-- The set-up of a run has read the manifests. -/
theorem known_of_prepared (prepared : prepare settings project = (search, .ok setup)) :
    ∃ mappings, search.resolver.known = some mappings := by
  cases declared : declaredMappings settings project with
  | ok mappings => exact ⟨mappings, (prepare_ok prepared declared).1⟩
  | error fault =>
      have fails : ((openProject project.tree).run
          ⟨project.world, Resolver.create project.root settings.modulesDir, []⟩).1 =
            .error (.manifest fault) := by
        unfold openProject
        rw [Computation.run_bind, Search.run_mappings]
        dsimp only
        rw [show ((Resolver.create project.root settings.modulesDir).mappings project.tree).2.2 =
          .error fault from declared]
        rfl
      unfold prepare at prepared
      dsimp only at prepared
      rcases opened : (openProject project.tree).run
        ⟨project.world, Resolver.create project.root settings.modulesDir, []⟩ with ⟨other | value, after⟩
      · rw [opened] at prepared
        exact absurd (Prod.mk.inj prepared).2 (by simp)
      · rw [opened] at fails
        exact absurd fails (by simp)

/-- The scan of some packages behind the search for them. -/
def scanFound (nameOf : Text → Option Nat) (settings : Settings) (project : Project) (setup : Setup)
    (found : List Mapping) (search : SearchState) : Outcome :=
  complete nameOf settings.dryRun project [] search
    (scanPlan setup project.tree found ⟨search.world, ColumnReader.create project.database settings.driver⟩)

/-- Behind its set-up a run searches for the named packages, and scans those that are found. -/
theorem run_named (nameOf : Text → Option Nat)
    (prepared : prepare settings project = (search, .ok setup)) (named : packages ≠ []) :
    run nameOf settings project [] packages =
      match (Search.namedTargets project.tree packages).run search with
      | (.error fault, after) => .early project after.world after.records (.search fault)
      | (.ok found, after) => scanFound nameOf settings project setup found after := by
  have searches : Search.targets project.tree settings.modelsPackage packages =
      Search.namedTargets project.tree packages :=
    if_neg (by rwa [List.isEmpty_iff])
  unfold run plan
  rw [prepared]
  dsimp only
  rw [searches, if_neg (by decide)]
  rcases (Search.namedTargets project.tree packages).run search with ⟨fault | found, after⟩
  · rfl
  · rfl

/-- A search for a package gives a mapping or none, unless it raises (`Fatal`). A run over named packages
ends in its search when it meets such a package, and then it scans nothing. Otherwise it warns about each
package that is not found, in order, and after that it scans all the others. -/
theorem dropped_unless_fatal (nameOf : Text → Option Nat)
    (prepared : prepare settings project = (search, .ok setup)) (named : packages ≠ []) :
    (∀ tree (asked : SearchState) package,
      (∃ found, ((Search.resolve tree package).run asked).1 = .ok found) ↔
        ¬ Fatal tree asked package) ∧
    ((∃ fault, (run nameOf settings project [] packages).abort = some (.search fault)) ↔
      MeetsFatal project.tree search packages) ∧
    (¬ MeetsFatal project.tree search packages → ∃ outcomes after,
      outcomes.map Prod.fst = packages ∧ Settles project.tree search outcomes after ∧
      let found := outcomes.filterMap Prod.snd
      let outcome := run nameOf settings project [] packages
      outcome = scanFound nameOf settings project setup found after ∧
      ∃ rest, outcome.records = search.records ++ dropRecords outcomes ++ rest ∧
        (outcome.abort = none → (found.map scanRecord).Sublist rest)) := by
  have settled (safe : ¬ MeetsFatal project.tree search packages) : ∃ outcomes after,
      outcomes.map Prod.fst = packages ∧ Settles project.tree search outcomes after ∧
        run nameOf settings project [] packages =
          scanFound nameOf settings project setup (outcomes.filterMap Prod.snd) after := by
    obtain ⟨outcomes, after, isAll, settles⟩ :=
      (settles_or_meetsFatal project.tree packages search).resolve_right safe
    refine ⟨outcomes, after, isAll, settles, ?_⟩
    rw [run_named nameOf prepared named, ← isAll, settles.run_namedTargets]
  refine ⟨fun tree asked package => Search.run_resolve_ok_iff tree asked package, ⟨?_, ?_⟩, ?_⟩
  · rintro ⟨fault, aborts⟩
    by_contra safe
    obtain ⟨outcomes, after, -, -, scans⟩ := settled safe
    rw [scans] at aborts
    obtain ⟨failed, -, isWrite⟩ := Option.map_eq_some_iff.mp aborts
    exact absurd isWrite (by simp)
  · intro meets
    obtain ⟨fault, raises⟩ := meets.run_namedTargets
    refine ⟨fault, ?_⟩
    rw [run_named nameOf prepared named]
    rcases searched : (Search.namedTargets project.tree packages).run search with ⟨other | found, after⟩
    · rw [searched] at raises
      rw [← Except.error.inj raises]
      rfl
    · rw [searched] at raises
      exact absurd raises (by simp)
  · intro safe
    obtain ⟨outcomes, after, isAll, settles, scans⟩ := settled safe
    refine ⟨outcomes, after, isAll, settles, scans, ?_⟩
    rw [scans]
    obtain ⟨mappings, isKnown⟩ := known_of_prepared prepared
    rw [← settles.records_of_known isKnown]
    obtain ⟨rest, isLogged, ordered⟩ := @records_complete nameOf settings.dryRun project [] after
      (scanPlan setup project.tree (outcomes.filterMap Prod.snd)
        ⟨after.world, ColumnReader.create project.database settings.driver⟩)
    refine ⟨rest, isLogged, fun completes => ?_⟩
    exact (scanRecords_sublist setup project.tree _ _).trans (ordered completes)

end Named

theorem exists_prepared_faulty :
    ∃ setup, prepare shopSettings faultyProject =
      ((prepare shopSettings faultyProject).1, .ok setup) := by
  have ready : (prepare shopSettings faultyProject).2.toOption.isSome = true := by decide +kernel
  obtain ⟨setup, prepared⟩ := Computation.exists_ok_of_isSome ready
  exact ⟨setup, Prod.ext rfl prepared⟩

theorem dropped_unless_fatal_sample :
    let packages := ["app.nowhere".toList, "app.third".toList]
    let outcome := run (fun _ => none) shopSettings faultyProject [] packages
    packages ≠ [] ∧ ∃ search setup outcomes after,
      prepare shopSettings faultyProject = (search, .ok setup) ∧
      ¬ MeetsFatal faultyProject.tree search packages ∧
      outcomes.map Prod.fst = packages ∧ Settles faultyProject.tree search outcomes after ∧
      outcome.abort = none ∧ outcome.report.updated = ["app.third.User".toList] ∧
      outcome.records.head? = some (dropRecord "app.nowhere".toList) := by
  intro packages outcome
  have named : packages ≠ [] := by decide
  obtain ⟨setup, prepared⟩ := exists_prepared_faulty
  obtain ⟨-, endsEarly, scans⟩ := dropped_unless_fatal (fun _ => none) prepared named
  have shown : (outcome.abort.isNone, outcome.report.updated, outcome.records.head?) =
      (true, ["app.third.User".toList], some (dropRecord "app.nowhere".toList)) := by
    decide +kernel
  have completes := Option.isNone_iff_eq_none.mp (congrArg Prod.fst shown)
  have safe : ¬ MeetsFatal faultyProject.tree (prepare shopSettings faultyProject).1 packages := by
    intro meets
    obtain ⟨fault, aborts⟩ := endsEarly.mpr meets
    exact absurd (aborts.symm.trans completes) (by simp)
  obtain ⟨outcomes, after, isAll, settles, -⟩ := scans safe
  exact ⟨named, _, setup, outcomes, after, prepared, safe, isAll, settles, completes,
    congrArg (fun seen => seen.2.1) shown, congrArg (fun seen => seen.2.2) shown⟩

/-- The exception of an import that ends a search. -/
def raised? : Except SearchFault (Option Mapping) → Option Failure
  | .error (.raised failure) => some failure
  | _ => none

theorem eq_of_raised? {result : Except SearchFault (Option Mapping)} {failure : Failure}
    (isRaised : raised? result = some failure) : result = .error (.raised failure) := by
  unfold raised? at isRaised
  split at isRaised
  · rw [Option.some.inj isRaised]
  · exact absurd isRaised (by simp)

theorem eq_of_isSome {result : Except SearchFault (Option Mapping)}
    (isFound : result.toOption.join.isSome = true) : ∃ mapping, result = .ok (some mapping) := by
  obtain ⟨mapping, isMapping⟩ := Option.isSome_iff_exists.mp isFound
  exact ⟨mapping, Computation.eq_ok_of_toOption (Option.join_eq_some_iff.mp isMapping)⟩

/-- The first package cannot be imported, so that a search for a package in it raises. A run over such a
package and one that is found by itself scans neither. -/
theorem raising_parent_ends_run :
    let inFirst := "app.first.models".toList
    let third := "app.third".toList
    let outcome := run (fun _ => none) shopSettings faultyProject [] [inFirst, third]
    let failure : Failure := ⟨"RuntimeError".toList, "boom".toList⟩
    ∃ search setup, prepare shopSettings faultyProject = (search, .ok setup) ∧
      ((Search.resolve faultyProject.tree inFirst).run search).1 = .error (.raised failure) ∧
      (∃ mapping, ((Search.resolve faultyProject.tree third).run search).1 = .ok (some mapping)) ∧
      outcome.abort = some (.search (.raised failure)) ∧ outcome.records = [] := by
  intro inFirst third outcome failure
  obtain ⟨setup, prepared⟩ := exists_prepared_faulty
  have raises : ((Search.resolve faultyProject.tree inFirst).run
      (prepare shopSettings faultyProject).1).1 = .error (.raised failure) :=
    eq_of_raised? (by decide +kernel)
  have isFound : ∃ mapping, ((Search.resolve faultyProject.tree third).run
      (prepare shopSettings faultyProject).1).1 = .ok (some mapping) :=
    eq_of_isSome (by decide +kernel)
  refine ⟨_, setup, prepared, raises, isFound, ?_, by decide +kernel⟩
  show (run _ _ _ _ [inFirst, third]).abort = _
  rw [run_named _ prepared (by decide), run_namedTargets_cons]
  rcases ends : (Search.resolve faultyProject.tree inFirst).run
    (prepare shopSettings faultyProject).1 with ⟨result, after⟩
  rw [ends] at raises
  obtain rfl : result = _ := raises
  rfl

end SchemaDoc.Generation
