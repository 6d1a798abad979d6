import SchemaDoc.PackageSearch
import SchemaDoc.Proofs.Computation

/-!
Contract: the search for one package, part by part.

The mappings are read first and kept (`run_mappings`). The import path is asked when they give no
directory (`run_resolve`). What it answers depends on the imported program alone, and nothing else is
changed by it (`run_installed`).
-/

namespace SchemaDoc

open Program

variable {tree : FileTree} {search : SearchState} {resolver : Resolver} {records : List Log.Record}
  {found : List Mapping}

/-- The search behind the reading of the manifests. -/
def SearchState.reading (tree : FileTree) (search : SearchState) : SearchState :=
  { search with
    resolver := (search.resolver.mappings tree).1
    records := search.records ++ (search.resolver.mappings tree).2.1 }

/-- The answer of the import path for a package, and the world behind the imports that it takes. -/
def installedIn (tree : FileTree) (package : Text) (world : World) :
    Except SearchFault (Option Path) × World :=
  let parts := Text.splitOnChar '.' package
  let parent := (splitLast package).1
  if world.hasModule (parts.headD []) then
    if parent.isEmpty || world.isLoaded package then (.ok none, world)
    else
      match (importModule parent).run world with
      | (.error failure, after) =>
        (if failure.meansMissing then .ok none else .error (.raised failure), after)
      | (.ok (), after) => (.ok none, after)
  else (.ok (packageDirectories tree world.searchPath parts).head?, world)

namespace Search

/-! ## The mappings -/

/-- Mappings that could be read are kept. -/
theorem known_mappings (reads : (resolver.mappings tree).2.2 = .ok found) :
    (resolver.mappings tree).1.known = some found := by
  unfold Resolver.mappings at reads ⊢
  split
  · next known isKnown =>
      rw [isKnown] at reads
      rw [isKnown, Except.ok.inj reads]
  · next notKnown =>
      rw [notKnown] at reads
      split
      · next fails =>
          simp only [fails] at reads
          exact absurd reads (by simp)
      · next succeeds =>
          simp only [succeeds] at reads
          rw [Except.ok.inj reads]

/-- Mappings that are known are not read again. -/
theorem mappings_known (isKnown : resolver.known = some found) :
    resolver.mappings tree = (resolver, [], .ok found) := by
  unfold Resolver.mappings
  rw [isKnown]

theorem reading_of_known (isKnown : search.resolver.known = some found) :
    search.reading tree = search := by
  unfold SearchState.reading
  rw [mappings_known isKnown]
  simp

theorem run_mappings (tree : FileTree) (search : SearchState) :
    (Search.mappings tree).run search =
      ((search.resolver.mappings tree).2.2.mapError SearchFault.manifest, search.reading tree) := by
  unfold Search.mappings SearchState.reading
  rw [Computation.run_bind, Computation.run_get]
  dsimp only
  rcases search.resolver.mappings tree with ⟨resolver, records, fault | found⟩
  · rfl
  · rfl

theorem mappings_run (reads : search.resolver.mappings tree = (resolver, records, .ok found)) :
    (Search.mappings tree).run search =
      (.ok found, { search with resolver, records := search.records ++ records }) := by
  rw [run_mappings, SearchState.reading, reads]
  rfl

/-! ## The import path -/

theorem run_installed (tree : FileTree) (package : Text) (search : SearchState) :
    (Search.installed tree package).run search =
      ((installedIn tree package search.world).1,
        { search with world := (installedIn tree package search.world).2 }) := by
  unfold Search.installed installedIn
  rw [Computation.run_bind, Computation.run_get]
  dsimp only
  split
  · split
    · rfl
    · rcases (importModule (splitLast package).1).run search.world with ⟨failure | value, after⟩
      · dsimp only
        rw [Computation.run_bind]
        cases failure.meansMissing with
        | true => rfl
        | false => rfl
      · rfl
  · rfl

/-! ## One package -/

/-- A package is resolved by the mappings, or else by the import path. -/
theorem run_resolve (tree : FileTree) (package : Text) (search : SearchState) :
    (Search.resolve tree package).run search =
      match (search.resolver.mappings tree).2.2 with
      | .error fault => (.error (.manifest fault), search.reading tree)
      | .ok mappings =>
        let name := Resolver.packageName package
        match Resolver.locate? tree mappings name with
        | some located => (.ok (some located), search.reading tree)
        | none =>
          ((installedIn tree name search.world).1.map
              (Option.map fun directory => ⟨name, FileTree.resolve directory⟩),
            { search.reading tree with world := (installedIn tree name search.world).2 }) := by
  unfold Search.resolve
  rw [Computation.run_bind, run_mappings]
  cases (search.resolver.mappings tree).2.2 with
  | error fault => rfl
  | ok mappings =>
      dsimp only [Except.mapError]
      cases Resolver.locate? tree mappings (Resolver.packageName package) with
      | some located => rfl
      | none =>
          dsimp only
          rw [Computation.run_bind, run_installed]
          dsimp only [SearchState.reading]
          cases (installedIn tree (Resolver.packageName package) search.world).1 with
          | error fault => rfl
          | ok directory => rfl

section Reads

variable {package : Text}

theorem run_resolve_located (reads : (search.resolver.mappings tree).2.2 = .ok found)
    {located : Mapping}
    (isLocated : Resolver.locate? tree found (Resolver.packageName package) = some located) :
    (Search.resolve tree package).run search = (.ok (some located), search.reading tree) := by
  rw [run_resolve, reads]
  simp only [isLocated]

theorem run_resolve_installed (reads : (search.resolver.mappings tree).2.2 = .ok found)
    (isMissing : Resolver.locate? tree found (Resolver.packageName package) = none) :
    (Search.resolve tree package).run search =
      ((installedIn tree (Resolver.packageName package) search.world).1.map
          (Option.map fun directory => ⟨Resolver.packageName package, FileTree.resolve directory⟩),
        { search.reading tree with
          world := (installedIn tree (Resolver.packageName package) search.world).2 }) := by
  rw [run_resolve, reads]
  simp only [isMissing]

theorem run_resolve_fault {fault : Manifest.Fault}
    (fails : (search.resolver.mappings tree).2.2 = .error fault) :
    (Search.resolve tree package).run search = (.error (.manifest fault), search.reading tree) := by
  rw [run_resolve, fails]

end Reads

end Search

end SchemaDoc
