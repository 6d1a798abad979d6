import SchemaDoc.Proofs.PackageSearch.Longest

/-!
Contract: packages that are not found, in a run over several packages.

A package without directory is warned about and left out, and the others are scanned (`Settles`). The run
ends early at a package whose search raises: the manifests cannot be read, or no mapping applies and the
package above it raises an exception other than that of a missing package (`Fatal`). Both directions hold
of one package and of a run (`packages_dropped_iff`).
-/

namespace SchemaDoc

open Program

/-! ## One package -/

/-- The search of the import path imports the package above, and that import raises an exception which does
not mean that a package is missing. -/
structure ParentRaises (world : World) (package : Text) (failure : Failure) : Prop where
  isDescribed : world.hasModule ((Text.splitOnChar '.' package).headD []) = true
  hasParent : (splitLast package).1 ≠ []
  notLoaded : world.isLoaded package = false
  raises : ((importModule (splitLast package).1).run world).1 = .error failure
  notMissing : failure.meansMissing = false

/-- The search for the package raises. -/
inductive Fatal (tree : FileTree) (search : SearchState) (package : Text) : Prop where
  | manifest {fault : Manifest.Fault} (fails : (search.resolver.mappings tree).2.2 = .error fault) :
      Fatal tree search package
  | parent {mappings : List Mapping} {failure : Failure}
      (reads : (search.resolver.mappings tree).2.2 = .ok mappings)
      (idle : ∀ mapping ∈ mappings, ¬ Applicable tree (Resolver.packageName package) mapping)
      (raises : ParentRaises search.world (Resolver.packageName package) failure) :
      Fatal tree search package

variable {tree : FileTree} {package : Text}

theorem installedIn_eq_error_iff {world : World} {fault : SearchFault} :
    (installedIn tree package world).1 = .error fault ↔
      ∃ failure, ParentRaises world package failure ∧ fault = .raised failure := by
  unfold installedIn
  dsimp only
  constructor
  · intro isFault
    split at isFault
    · next isDescribed =>
        split at isFault
        · exact absurd isFault (by simp)
        · next asks =>
            rw [Bool.or_eq_true, not_or, List.isEmpty_iff, Bool.not_eq_true] at asks
            rcases imported : (importModule (splitLast package).1).run world with
              ⟨failure | value, after⟩
            · rw [imported] at isFault
              dsimp only at isFault
              split at isFault
              · exact absurd isFault (by simp)
              · next notMissing =>
                  refine ⟨failure, ⟨isDescribed, asks.1, asks.2, ?_, ?_⟩, ?_⟩
                  · rw [imported]
                  · exact Bool.eq_false_iff.mpr notMissing
                  · exact (Except.error.inj isFault).symm
            · rw [imported] at isFault
              exact absurd isFault (by simp)
    · exact absurd isFault (by simp)
  · rintro ⟨failure, ⟨isDescribed, hasParent, notLoaded, raises, notMissing⟩, rfl⟩
    have asks : ¬ ((splitLast package).1.isEmpty || world.isLoaded package) = true := by
      rw [Bool.or_eq_true, not_or, List.isEmpty_iff, notLoaded]
      exact ⟨hasParent, by decide⟩
    rw [if_pos isDescribed, if_neg asks]
    rcases imported : (importModule (splitLast package).1).run world with ⟨other | value, after⟩
    · rw [imported] at raises
      obtain rfl := Except.error.inj raises
      dsimp only
      rw [notMissing]
      rfl
    · rw [imported] at raises
      exact absurd raises (by simp)

/-- Where the mappings can be read, only the import path raises, and it is asked when none applies. -/
theorem fatal_iff {search : SearchState} {mappings : List Mapping}
    (reads : (search.resolver.mappings tree).2.2 = .ok mappings) :
    Fatal tree search package ↔
      Resolver.locate? tree mappings (Resolver.packageName package) = none ∧
        ∃ failure, ParentRaises search.world (Resolver.packageName package) failure := by
  rw [locate?_eq_none_iff]
  constructor
  · intro isFatal
    cases isFatal with
    | manifest fails =>
        rw [reads] at fails
        exact absurd fails (by simp)
    | parent readsToo idle raises =>
        rw [reads] at readsToo
        obtain rfl := Except.ok.inj readsToo
        exact ⟨idle, _, raises⟩
  · rintro ⟨idle, failure, raises⟩
    exact .parent reads idle raises

namespace Search

theorem run_resolve_error_iff (tree : FileTree) (search : SearchState) (package : Text) :
    (∃ fault, ((Search.resolve tree package).run search).1 = .error fault) ↔
      Fatal tree search package := by
  cases reads : (search.resolver.mappings tree).2.2 with
  | error fault =>
      rw [run_resolve_fault reads]
      exact ⟨fun _ => .manifest reads, fun _ => ⟨_, rfl⟩⟩
  | ok mappings =>
      rw [fatal_iff reads]
      cases isLocated : Resolver.locate? tree mappings (Resolver.packageName package) with
      | some located =>
          rw [run_resolve_located reads isLocated]
          simp
      | none =>
          rw [run_resolve_installed reads isLocated]
          have raises := @installedIn_eq_error_iff tree (Resolver.packageName package) search.world
          cases asked : (installedIn tree (Resolver.packageName package) search.world).1 with
          | ok directory =>
              have silent : ¬ ∃ failure,
                  ParentRaises search.world (Resolver.packageName package) failure := by
                rintro ⟨failure, isRaised⟩
                have isFault := raises.mpr ⟨failure, isRaised, rfl⟩
                rw [asked] at isFault
                exact absurd isFault (by simp)
              simp [Except.map, silent]
          | error fault =>
              obtain ⟨failure, isRaised, -⟩ := raises.mp asked
              exact ⟨fun _ => ⟨rfl, failure, isRaised⟩, fun _ => ⟨fault, rfl⟩⟩

/-- The search for a package gives a mapping or none, unless it raises. -/
theorem run_resolve_ok_iff (tree : FileTree) (search : SearchState) (package : Text) :
    (∃ found, ((Search.resolve tree package).run search).1 = .ok found) ↔
      ¬ Fatal tree search package := by
  rw [← run_resolve_error_iff]
  cases ((Search.resolve tree package).run search).1 with
  | error fault => simp
  | ok found => simp

/-! ## What a search keeps -/

/-- A search that ends has read the mappings, and has logged what the manifests gave rise to. -/
theorem reading_of_run_resolve {search after : SearchState} {found : Option Mapping}
    (ends : (Search.resolve tree package).run search = (.ok found, after)) :
    (∃ mappings, after.resolver.known = some mappings) ∧
      after.records = (search.reading tree).records := by
  cases reads : (search.resolver.mappings tree).2.2 with
  | error fault =>
      rw [run_resolve_fault reads] at ends
      exact absurd (Prod.mk.inj ends).1 (by simp)
  | ok mappings =>
      have isKnown := known_mappings reads
      cases isLocated : Resolver.locate? tree mappings (Resolver.packageName package) with
      | some located =>
          rw [run_resolve_located reads isLocated] at ends
          obtain ⟨-, rfl⟩ := Prod.mk.inj ends
          exact ⟨⟨mappings, isKnown⟩, rfl⟩
      | none =>
          rw [run_resolve_installed reads isLocated] at ends
          obtain ⟨-, rfl⟩ := Prod.mk.inj ends
          exact ⟨⟨mappings, isKnown⟩, rfl⟩

end Search

/-! ## Several packages -/

/-- What is logged about a package without directory. -/
def dropRecord (package : Text) : Log.Record :=
  .warning ("Cannot resolve namespace '" ++ package ++ "' to a valid path.")

/-- The search behind a package that is warned about. -/
def SearchState.dropping (search : SearchState) (package : Text) : SearchState :=
  { search with records := search.records ++ [dropRecord package] }

/-- The packages are searched for one after the other, each with the outcome that stands beside it; one
that is not found is warned about. -/
inductive Settles (tree : FileTree) : SearchState → List (Text × Option Mapping) → SearchState → Prop where
  | done {search : SearchState} : Settles tree search [] search
  | found {search between after : SearchState} {package : Text} {mapping : Mapping}
      {rest : List (Text × Option Mapping)}
      (ends : (Search.resolve tree package).run search = (.ok (some mapping), between))
      (behind : Settles tree between rest after) :
      Settles tree search ((package, some mapping) :: rest) after
  | dropped {search between after : SearchState} {package : Text}
      {rest : List (Text × Option Mapping)}
      (ends : (Search.resolve tree package).run search = (.ok none, between))
      (behind : Settles tree (between.dropping package) rest after) :
      Settles tree search ((package, none) :: rest) after

/-- The warnings about the packages that are not found, in order. -/
def dropRecords (outcomes : List (Text × Option Mapping)) : List Log.Record :=
  (outcomes.filter fun outcome => outcome.2.isNone).map fun outcome => dropRecord outcome.1

section Several

variable {search after : SearchState} {outcomes : List (Text × Option Mapping)} {packages : List Text}

/-- Where the mappings are known, nothing is logged but the packages that are not found. -/
theorem Settles.records_of_known (settles : Settles tree search outcomes after) {mappings : List Mapping}
    (isKnown : search.resolver.known = some mappings) :
    after.records = search.records ++ dropRecords outcomes := by
  induction settles generalizing mappings with
  | done => simp [dropRecords]
  | found ends behind inductionHypothesis =>
      obtain ⟨⟨kept, keeps⟩, sameRecords⟩ := Search.reading_of_run_resolve ends
      rw [inductionHypothesis keeps, sameRecords, Search.reading_of_known isKnown]
      simp [dropRecords]
  | dropped ends behind inductionHypothesis =>
      obtain ⟨⟨kept, keeps⟩, sameRecords⟩ := Search.reading_of_run_resolve ends
      rw [inductionHypothesis keeps]
      simp [dropRecords, SearchState.dropping, sameRecords, Search.reading_of_known isKnown]

theorem run_namedTargets_cons (tree : FileTree) (package : Text) (rest : List Text)
    (search : SearchState) :
    (Search.namedTargets tree (package :: rest)).run search =
      match (Search.resolve tree package).run search with
      | (.error fault, between) => (.error fault, between)
      | (.ok (some mapping), between) =>
        (((Search.namedTargets tree rest).run between).1.map (mapping :: ·),
          ((Search.namedTargets tree rest).run between).2)
      | (.ok none, between) =>
        (Search.namedTargets tree rest).run (between.dropping package) := by
  rw [Search.namedTargets, Computation.run_bind]
  rcases (Search.resolve tree package).run search with ⟨fault | found, between⟩
  · rfl
  · cases found with
    | none => rfl
    | some mapping =>
        dsimp only
        rw [Computation.run_bind]
        rcases (Search.namedTargets tree rest).run between with ⟨fault | mappings, after⟩
        · rfl
        · rfl

/-- Behind packages that settle, the search goes on with the other ones. -/
theorem Settles.run_append (settles : Settles tree search outcomes after) (rest : List Text) :
    (Search.namedTargets tree (outcomes.map Prod.fst ++ rest)).run search =
      (((Search.namedTargets tree rest).run after).1.map (outcomes.filterMap Prod.snd ++ ·),
        ((Search.namedTargets tree rest).run after).2) := by
  induction settles with
  | @done search =>
      rcases found : (Search.namedTargets tree rest).run search with ⟨fault | mappings, after⟩
      · exact found
      · exact found
  | @found search between after package mapping outcomes ends behind inductionHypothesis =>
      rw [List.map_cons, List.cons_append, run_namedTargets_cons, ends]
      dsimp only
      rw [inductionHypothesis]
      rcases (Search.namedTargets tree rest).run after with ⟨fault | mappings, final⟩
      · rfl
      · rfl
  | dropped ends behind inductionHypothesis =>
      rw [List.map_cons, List.cons_append, run_namedTargets_cons, ends]
      exact inductionHypothesis

theorem Settles.run_namedTargets (settles : Settles tree search outcomes after) :
    (Search.namedTargets tree (outcomes.map Prod.fst)).run search =
      (.ok (outcomes.filterMap Prod.snd), after) := by
  have whole := settles.run_append []
  rw [List.append_nil] at whole
  rw [whole]
  exact Prod.ext (congrArg Except.ok (List.append_nil _)) rfl

/-- Among the packages stands one at which the search raises, when those in front of it settle. -/
def MeetsFatal (tree : FileTree) (search : SearchState) (packages : List Text) : Prop :=
  ∃ front package back outcomes between, packages = front ++ package :: back ∧
    outcomes.map Prod.fst = front ∧ Settles tree search outcomes between ∧ Fatal tree between package

theorem MeetsFatal.run_namedTargets (meets : MeetsFatal tree search packages) :
    ∃ fault, ((Search.namedTargets tree packages).run search).1 = .error fault := by
  obtain ⟨_, package, back, outcomes, between, rfl, rfl, settles, isFatal⟩ := meets
  obtain ⟨fault, raises⟩ := (Search.run_resolve_error_iff tree between package).mpr isFatal
  refine ⟨fault, ?_⟩
  rw [settles.run_append, run_namedTargets_cons]
  rcases found : (Search.resolve tree package).run between with ⟨other | mapping, final⟩
  · rw [found] at raises
    obtain rfl := Except.error.inj raises
    rfl
  · rw [found] at raises
    exact absurd raises (by simp)

/-- Packages settle, all of them, or the search meets one at which it raises. -/
theorem settles_or_meetsFatal (tree : FileTree) (packages : List Text) (search : SearchState) :
    (∃ outcomes after, outcomes.map Prod.fst = packages ∧ Settles tree search outcomes after) ∨
      MeetsFatal tree search packages := by
  induction packages generalizing search with
  | nil => exact .inl ⟨[], search, rfl, .done⟩
  | cons package rest inductionHypothesis =>
      -- One step of the run: what follows it is put behind the outcome of this package.
      have further {between : SearchState} {found : Option Mapping}
          (step : ∀ {outcomes after}, Settles tree between outcomes after →
            Settles tree search ((package, found) :: outcomes) after) :
          (∃ outcomes after, outcomes.map Prod.fst = package :: rest ∧
            Settles tree search outcomes after) ∨ MeetsFatal tree search (package :: rest) := by
        rcases inductionHypothesis between with ⟨outcomes, after, rfl, settles⟩ | meets
        · exact .inl ⟨(package, found) :: outcomes, after, rfl, step settles⟩
        · obtain ⟨front, fatal, back, outcomes, final, rfl, rfl, settles, isFatal⟩ := meets
          exact .inr ⟨package :: outcomes.map Prod.fst, fatal, back, (package, found) :: outcomes, final,
            rfl, rfl, step settles, isFatal⟩
      rcases ends : (Search.resolve tree package).run search with ⟨fault | found, between⟩
      · have isFatal := (Search.run_resolve_error_iff tree search package).mp ⟨fault, by rw [ends]⟩
        exact .inr ⟨[], package, rest, [], search, rfl, rfl, .done, isFatal⟩
      · cases found with
        | none => exact further fun behind => .dropped ends behind
        | some mapping => exact further fun behind => .found ends behind

end Several

end SchemaDoc
