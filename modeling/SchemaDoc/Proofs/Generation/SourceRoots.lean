import Mathlib.Data.List.Basic
import SchemaDoc.Proofs.Generation.DryRun
import SchemaDoc.Proofs.Generation.OneModel
import SchemaDoc.Proofs.Generation.Visits
import SchemaDoc.Proofs.Mapping.Names
import SchemaDoc.Proofs.PackageSearch.Resolution

/-!
Contract: the order of the source roots on the import path.

Each root that becomes importable is put in front of those before it (`idxOf_putAll`), while a package
is located at the first root that has it (`locate?_rootMappings`). A package of several roots is
therefore scanned in the first of them and imported from the last one (`source_roots_reversed`).
-/

namespace SchemaDoc.Generation

open Program SchemaDoc.Path
open Search (known_mappings mappings_known mappings_run)

/-! ## The import path -/

section Order

variable {path roots : List Path} {one other : Path}

/-- Directories put on an import path one after the other, each unless it is there already. -/
def putAll (path roots : List Path) : List Path :=
  roots.foldl (fun path root => if path.contains root then path else root :: path) path

theorem searchPath_importable (world : World) (mappings : List Mapping) :
    (importable world mappings).searchPath =
      putAll world.searchPath (mappings.map Mapping.sourceRoot) := by
  induction mappings generalizing world with
  | nil => rfl
  | cons mapping rest inductionHypothesis =>
      rw [show importable world (mapping :: rest) =
        importable (world.ensureImportable mapping.sourceRoot) rest from rfl, inductionHypothesis]
      unfold World.ensureImportable
      rw [List.map_cons, putAll, putAll, List.foldl_cons]
      split <;> rfl

theorem putAll_cons (path rest : List Path) (root : Path) :
    putAll path (root :: rest) =
      putAll (if root ∈ path then path else root :: path) rest := by
  unfold putAll
  rw [List.foldl_cons]
  by_cases known : root ∈ path
  · rw [if_pos known, if_pos (List.contains_iff_mem.mpr known)]
  · rw [if_neg known, if_neg (mt List.contains_iff_mem.mp known)]

theorem mem_putAll {root : Path} : root ∈ putAll path roots ↔ root ∈ roots ∨ root ∈ path := by
  induction roots generalizing path with
  | nil => simp [putAll]
  | cons first rest inductionHypothesis =>
      rw [putAll_cons, inductionHypothesis, List.mem_cons]
      split
      · next known =>
          constructor
          · exact Or.imp_left .inr
          · rintro ((rfl | later) | there)
            · exact .inr known
            · exact .inl later
            · exact .inr there
      · rw [List.mem_cons]
        exact or_left_comm.trans or_assoc.symm

/-- Directories that are on the path already keep their order. -/
theorem idxOf_putAll_old (isOne : one ∈ path) (isOther : other ∈ path) :
    (putAll path roots).idxOf one < (putAll path roots).idxOf other ↔
      path.idxOf one < path.idxOf other := by
  induction roots generalizing path with
  | nil => rfl
  | cons first rest inductionHypothesis =>
      rw [putAll_cons]
      split
      · exact inductionHypothesis isOne isOther
      · next unknown =>
          rw [inductionHypothesis (List.mem_cons_of_mem _ isOne) (List.mem_cons_of_mem _ isOther),
            List.idxOf_cons_ne _ (ne_of_mem_of_not_mem isOne unknown).symm,
            List.idxOf_cons_ne _ (ne_of_mem_of_not_mem isOther unknown).symm, Nat.succ_lt_succ_iff]

/-- A directory that is put on the path stands before those that are on it. -/
theorem idxOf_putAll_new (isRoot : one ∈ roots) (isNew : one ∉ path) (isOld : other ∈ path) :
    (putAll path roots).idxOf one < (putAll path roots).idxOf other := by
  induction roots generalizing path with
  | nil => exact absurd isRoot List.not_mem_nil
  | cons first rest inductionHypothesis =>
      rw [putAll_cons]
      by_cases isFirst : first = one
      · subst isFirst
        rw [if_neg isNew, idxOf_putAll_old List.mem_cons_self (List.mem_cons_of_mem _ isOld),
          List.idxOf_cons_self, List.idxOf_cons_ne _ (ne_of_mem_of_not_mem isOld isNew).symm]
        exact Nat.succ_pos _
      · have later : one ∈ rest := (List.mem_cons.mp isRoot).resolve_left (Ne.symm isFirst)
        split
        · exact inductionHypothesis later isNew isOld
        · exact inductionHypothesis later (List.not_mem_cons_of_ne_of_not_mem (Ne.symm isFirst) isNew)
            (List.mem_cons_of_mem _ isOld)

/-- Each directory is put in front of those put before. -/
theorem idxOf_putAll (isOne : one ∈ roots) (isOther : other ∈ roots) (differ : one ≠ other)
    (oneNew : one ∉ path) (otherNew : other ∉ path) :
    (putAll path roots).idxOf other < (putAll path roots).idxOf one ↔
      roots.idxOf one < roots.idxOf other := by
  induction roots generalizing path with
  | nil => exact absurd isOne List.not_mem_nil
  | cons first rest inductionHypothesis =>
      rw [putAll_cons]
      by_cases isFirst : first = one
      · subst isFirst
        rw [if_neg oneNew, List.idxOf_cons_self, List.idxOf_cons_ne _ differ]
        have later : other ∈ rest := (List.mem_cons.mp isOther).resolve_left differ.symm
        exact iff_of_true
          (idxOf_putAll_new later (List.not_mem_cons_of_ne_of_not_mem differ.symm otherNew)
            List.mem_cons_self) (Nat.succ_pos _)
      · have oneLater : one ∈ rest := (List.mem_cons.mp isOne).resolve_left (Ne.symm isFirst)
        by_cases isSecond : first = other
        · subst isSecond
          rw [if_neg otherNew, List.idxOf_cons_self, List.idxOf_cons_ne _ isFirst]
          have before := @idxOf_putAll_new (first :: path) rest one first oneLater
            (List.not_mem_cons_of_ne_of_not_mem differ oneNew) List.mem_cons_self
          exact iff_of_false (Nat.lt_asymm before) (Nat.not_lt_zero _)
        · have otherLater : other ∈ rest :=
            (List.mem_cons.mp isOther).resolve_left (Ne.symm isSecond)
          rw [List.idxOf_cons_ne _ isFirst, List.idxOf_cons_ne _ isSecond, Nat.succ_lt_succ_iff]
          split
          · exact inductionHypothesis oneLater otherLater oneNew otherNew
          · exact inductionHypothesis oneLater otherLater
              (List.not_mem_cons_of_ne_of_not_mem (Ne.symm isFirst) oneNew)
              (List.not_mem_cons_of_ne_of_not_mem (Ne.symm isSecond) otherNew)

/-- What stands in front of a place in a list is found in front of it. -/
theorem mem_of_idxOf_lt {front back : List Path}
    (before : (front ++ other :: back).idxOf one < (front ++ other :: back).idxOf other) :
    one ∈ front := by
  by_contra outside
  rw [List.idxOf_append_of_notMem outside] at before
  have atMost : (front ++ other :: back).idxOf other ≤ front.length := by
    by_cases inside : other ∈ front
    · rw [List.idxOf_append_of_mem inside]
      exact Nat.le_of_lt (List.idxOf_lt_length_iff.mpr inside)
    · rw [List.idxOf_append_of_notMem inside, List.idxOf_cons_self]
      exact Nat.le_refl _
  omega

/-- Of the new directories with some property, the path has the one first that was put last. -/
theorem find?_putAll {holds : Path → Bool} (fresh : ∀ root ∈ roots, root ∉ path)
    (isRoot : one ∈ roots) (isHolder : holds one = true) :
    ∃ last ∈ roots, (putAll path roots).find? holds = some last ∧ holds last = true ∧
      ∀ other ∈ roots, holds other = true → roots.idxOf other ≤ roots.idxOf last := by
  have isFound : ((putAll path roots).find? holds).isSome :=
    List.find?_isSome.mpr ⟨one, mem_putAll.mpr (.inl isRoot), isHolder⟩
  obtain ⟨last, found⟩ := Option.isSome_iff_exists.mp isFound
  obtain ⟨lastHolds, front, back, isPath, noneBefore⟩ := List.find?_eq_some_iff_append.mp found
  have notBefore {root : Path} (rootHolds : holds root = true) :
      ¬ (putAll path roots).idxOf root < (putAll path roots).idxOf last := by
    intro before
    rw [isPath] at before
    have refused := noneBefore root (mem_of_idxOf_lt before)
    exact absurd rootHolds (by simpa using refused)
  have isLastRoot : last ∈ roots := by
    have there : last ∈ putAll path roots := by
      rw [isPath]
      simp
    rcases mem_putAll.mp there with isRootToo | isOld
    · exact isRootToo
    · exact absurd (idxOf_putAll_new isRoot (fresh one isRoot) isOld) (notBefore isHolder)
  refine ⟨last, isLastRoot, found, lastHolds, ?_⟩
  intro other isOther otherHolds
  by_contra later
  have differ : last ≠ other := by
    rintro rfl
    exact later (Nat.le_refl _)
  exact notBefore otherHolds ((idxOf_putAll isLastRoot isOther differ (fresh last isLastRoot)
    (fresh other isOther)).mpr (Nat.lt_of_not_le later))

end Order

/-! ## The set-up of a run -/

section Preparation

variable {settings : Settings} {project : Project}

/-- What the manifests of a project declare. -/
def declaredMappings (settings : Settings) (project : Project) :
    Except Manifest.Fault (List Mapping) :=
  ((Resolver.create project.root settings.modulesDir).mappings project.tree).2.2

theorem openProject_run {tree : FileTree} {search : SearchState} {found : List Mapping}
    (declared : (search.resolver.mappings tree).2.2 = .ok found) :
    ∃ resolver records, resolver.known = some found ∧ (openProject tree).run search =
      (.ok (), ⟨importable search.world found, resolver, records⟩) := by
  have kept := known_mappings declared
  rcases reads : search.resolver.mappings tree with ⟨resolver, records, result⟩
  rw [reads] at declared kept
  obtain rfl := declared
  refine ⟨resolver, search.records ++ records, kept, ?_⟩
  unfold openProject
  rw [Computation.run_bind, mappings_run reads]
  rfl

/-- Behind the set-up the mappings are kept, and the path has their roots. -/
theorem prepare_ok {search : SearchState} {setup : Setup} {mappings : List Mapping}
    (prepared : prepare settings project = (search, .ok setup))
    (declared : declaredMappings settings project = .ok mappings) :
    search.resolver.known = some mappings ∧
      search.world.searchPath =
        putAll project.world.searchPath (mappings.map Mapping.sourceRoot) := by
  obtain ⟨resolver, records, isKnown, opens⟩ := @openProject_run project.tree
    ⟨project.world, Resolver.create project.root settings.modulesDir, []⟩ mappings declared
  rw [← searchPath_importable]
  unfold prepare at prepared
  simp only [opens] at prepared
  have stays := Catalog.searchPath_ofBase (importable project.world mappings) settings.baseClass
  split at prepared
  · exact absurd (Prod.mk.inj prepared).2 (by simp)
  · next world catalog isCatalog =>
      rw [isCatalog] at stays
      rw [← (Prod.mk.inj prepared).1]
      exact ⟨isKnown, stays⟩

/-- Without a base class nothing is imported before a run. -/
theorem prepare_noBase {mappings : List Mapping} (noBase : settings.baseClass = none)
    (declared : declaredMappings settings project = .ok mappings) :
    ∃ resolver records, prepare settings project =
      (⟨importable project.world mappings, resolver, records⟩,
        .ok ⟨⟨none⟩, settings.excludeRelations, settings.sort, project.database⟩) := by
  obtain ⟨resolver, records, -, opens⟩ := @openProject_run project.tree
    ⟨project.world, Resolver.create project.root settings.modulesDir, []⟩ mappings declared
  refine ⟨resolver, records, ?_⟩
  unfold prepare
  simp only [opens, noBase]
  rfl

/-- A package that the manifests locate is resolved to there. -/
theorem resolve_known {tree : FileTree} {search : SearchState} {mappings : List Mapping}
    {package : Text} {located : Mapping} (isKnown : search.resolver.known = some mappings)
    (isLocated : Resolver.locate? tree mappings (Resolver.packageName package) = some located) :
    (Search.resolve tree package).run search = (.ok (some located), search) := by
  have reads : (search.resolver.mappings tree).2.2 = .ok mappings := by rw [mappings_known isKnown]
  rw [Search.run_resolve_located reads isLocated, Search.reading_of_known isKnown]

end Preparation

/-! ## Packages below a root -/

/-- The directory of a package below a directory. -/
def directoryOf (package : Text) (root : Path) : Path :=
  within root (Text.splitOnChar '.' package)

/-- Every part of the package's name is the name of a file or directory. -/
def Nameable (package : Text) : Prop :=
  ∀ part ∈ Text.splitOnChar '.' package, Path.parse part = ⟨.relative, [part]⟩

instance (package : Text) : Decidable (Nameable package) :=
  inferInstanceAs (Decidable (∀ part ∈ Text.splitOnChar '.' package, _))

/-- The source roots as a manifest declares them. -/
def rootMappings (roots : List Path) : List Mapping :=
  roots.map (Mapping.mk [])

/-- The directory has the package. -/
def holds (tree : FileTree) (package : Text) (root : Path) : Bool :=
  tree.isDirectory (directoryOf package root)

/-- Where the package is imported from: the first directory of the import path that has it. -/
def importDirectory? (tree : FileTree) (path : List Path) (package : Text) : Option Path :=
  (path.find? (holds tree package)).map (directoryOf package)

section Package

variable {tree : FileTree} {package : Text} {root : Path} {roots path : List Path}

theorem idxOf_rootMappings (root : Path) :
    (rootMappings roots).idxOf ⟨[], root⟩ = roots.idxOf root := by
  induction roots with
  | nil => rfl
  | cons first rest inductionHypothesis =>
      rw [rootMappings, List.map_cons]
      by_cases isFirst : first = root
      · rw [isFirst, List.idxOf_cons_self, List.idxOf_cons_self]
      · rw [List.idxOf_cons_ne _ isFirst, List.idxOf_cons_ne _ (by simpa using isFirst)]
        exact congrArg (· + 1) inductionHypothesis

theorem nil_not_mem_of_nameable (nameable : Nameable package) :
    [] ∉ Text.splitOnChar '.' package := by
  intro member
  have parsed := nameable [] member
  exact absurd parsed (by decide)

/-- A source root gives a package the directory that the parts of its name lead to. -/
theorem directoryFor?_root (nameable : Nameable package) (root : Path) :
    (Mapping.mk [] root).directoryFor? package = some (directoryOf package root) := by
  cases package with
  | nil => exact absurd (List.mem_singleton_self []) (nil_not_mem_of_nameable nameable)
  | cons first rest =>
      have noDot : first ≠ '.' := by
        rintro rfl
        exact nil_not_mem_of_nameable nameable (by simp [Text.splitOnChar])
      have whole : (Mapping.mk [] root).remainder? (first :: rest) = some (first :: rest) := by
        simp [Mapping.remainder?, noDot]
      rw [Mapping.directoryFor?, whole, directoryOf, ← foldl_join root _ nameable]
      rfl

theorem candidates_rootMappings (roots : List Path) :
    Resolver.candidates (rootMappings roots) = rootMappings roots := by
  unfold Resolver.candidates
  apply List.mergeSort_of_pairwise
  exact List.pairwise_map.mpr (List.pairwise_of_forall fun _ _ => rfl)

/-- A package is located at the first root that has it. -/
theorem locate?_rootMappings (nameable : Nameable package) :
    Resolver.locate? tree (rootMappings roots) package =
      (roots.find? (holds tree package)).map fun root =>
        ⟨package, FileTree.resolve (directoryOf package root)⟩ := by
  unfold Resolver.locate?
  rw [candidates_rootMappings]
  induction roots with
  | nil => rfl
  | cons root rest inductionHypothesis =>
      rw [rootMappings, List.map_cons, List.findSome?_cons, directoryFor?_root nameable,
        List.find?_cons]
      cases isThere : holds tree package root with
      | true =>
          have isDirectory : tree.isDirectory (directoryOf package root) = true := isThere
          rw [Option.filter_some_pos isDirectory]
          rfl
      | false =>
          have noDirectory : tree.isDirectory (directoryOf package root) = false := isThere
          rw [Option.filter_some_neg noDirectory]
          exact inductionHypothesis

/-- The source root of a located package is the root that it is located at. -/
theorem sourceRoot_located (nameable : Nameable package) (root : Path) :
    (Mapping.mk package (FileTree.resolve (directoryOf package root))).sourceRoot =
      FileTree.resolve root := by
  apply Mapping.sourceRoot_of_within
  rw [directoryOf, resolve_within (Mapping.up_not_mem_splitOnChar package),
    Mapping.nameParts_of_filled (nil_not_mem_of_nameable nameable)]

theorem holds_resolve (isHolder : holds tree package root = true) :
    holds tree package (FileTree.resolve root) = true := by
  unfold holds directoryOf
  rw [← resolve_within (Mapping.up_not_mem_splitOnChar package)]
  exact isDirectory_resolve isHolder

end Package

/-! ## The two orders -/

/-- Of the roots that have the package, the one that is declared first. -/
structure IsFirstHolder (tree : FileTree) (roots : List Path) (package : Text) (root : Path) :
    Prop where
  isRoot : root ∈ roots
  isHolder : holds tree package root = true
  isFirst : ∀ other ∈ roots, holds tree package other = true →
    roots.idxOf root ≤ roots.idxOf other

/-- Of the roots that have the package, the one that is declared last. -/
structure IsLastHolder (tree : FileTree) (roots : List Path) (package : Text) (root : Path) :
    Prop where
  isRoot : root ∈ roots
  isHolder : holds tree package root = true
  isLast : ∀ other ∈ roots, holds tree package other = true →
    roots.idxOf other ≤ roots.idxOf root

/-- The source of the module is this file of the project. -/
def IsFileOf (world : World) (module : Text) (path : Path) : Prop :=
  ∃ file, world.fileOf module = some file ∧ Catalog.bytecodeSuffix.isSuffixOf file = false ∧
    FileTree.resolve (Path.project.join (Path.parse file)) = FileTree.resolve path

theorem exists_isFirstHolder {tree : FileTree} {roots : List Path} {package : Text} {root : Path}
    (isRoot : root ∈ roots) (isHolder : holds tree package root = true) :
    ∃ first, roots.find? (holds tree package) = some first ∧
      IsFirstHolder tree roots package first := by
  have isFound : (roots.find? (holds tree package)).isSome :=
    List.find?_isSome.mpr ⟨root, isRoot, isHolder⟩
  obtain ⟨first, found⟩ := Option.isSome_iff_exists.mp isFound
  obtain ⟨firstHolds, front, back, isRoots, noneBefore⟩ := List.find?_eq_some_iff_append.mp found
  refine ⟨first, found, List.mem_of_find?_eq_some found, firstHolds, ?_⟩
  intro other _ otherHolds
  by_contra later
  have before : roots.idxOf other < roots.idxOf first := Nat.lt_of_not_le later
  rw [isRoots] at before
  have refused := noneBefore other (mem_of_idxOf_lt before)
  exact absurd otherHolds (by simpa using refused)

/-- A scan takes a package from where it is located, if that root was not on the path as it is
written there, or if the path leads there anyway. -/
theorem importDirectory?_scan {tree : FileTree} {world : World} {package : Text} {first : Path}
    {imported : Path} (nameable : Nameable package) (isHolder : holds tree package first = true)
    (isImported : importDirectory? tree world.searchPath package = some imported) :
    let located : Mapping := ⟨package, FileTree.resolve (directoryOf package first)⟩
    ∃ scanned, importDirectory? tree (world.ensureImportable located.sourceRoot).searchPath package =
        some scanned ∧
      (FileTree.resolve scanned = located.directory ↔
        located.sourceRoot ∉ world.searchPath ∨ FileTree.resolve imported = located.directory) := by
  intro located
  have isRoot : located.sourceRoot = FileTree.resolve first := sourceRoot_located nameable first
  unfold World.ensureImportable
  split
  · next known =>
      have isKnown := List.contains_iff_mem.mp known
      exact ⟨imported, isImported, by simp [isKnown]⟩
  · next unknown =>
      have isNew := mt List.contains_iff_mem.mpr unknown
      refine ⟨directoryOf package (FileTree.resolve first), ?_, ?_⟩
      · rw [isRoot, importDirectory?, List.find?_cons_of_pos (holds_resolve isHolder)]
        rfl
      · have isDirectory : directoryOf package (FileTree.resolve first) = located.directory :=
          (resolve_within (Mapping.up_not_mem_splitOnChar package)).symm
        have stays : FileTree.resolve located.directory = located.directory :=
          (isResolved_resolve _).resolve_eq
        rw [isDirectory, stays]
        simp [isNew]

theorem source_findModel {setup : Setup} {world after : World} {model : Text} {number : Nat}
    {source path : Path} {object : ClassObject}
    (finds : findModel setup world model = (after, .ok (number, source)))
    (isClass : after.class? number = some object) (isFile : IsFileOf after object.home path) :
    source = FileTree.resolve path := by
  obtain ⟨found, isFound, isSource⟩ := findModel_found finds
  obtain rfl := Option.some.inj (isClass.symm.trans isFound)
  obtain ⟨file, hasFile, notCompiled, leads⟩ := isFile
  unfold Catalog.sourceFile at isSource
  simp only [hasFile] at isSource
  split at isSource
  · exact absurd isSource (by simp)
  · next taken isTaken =>
      split at isTaken
      · obtain rfl := Option.some.inj isTaken
        split at isSource
        · exact absurd isSource (by simp)
        · rw [notCompiled] at isSource
          rw [← leads, ← Except.ok.inj isSource]
          rfl
      · exact absurd isTaken (by simp)

/-- The source roots stand on the import path in the opposite order of that in which packages are
located: a package is located at the first root that has it and imported from the last one. A class
is written where its module comes from exactly when both lead to one directory. -/
theorem source_roots_reversed {settings : Settings} {project : Project} {search : SearchState}
    {setup : Setup} {roots : List Path}
    (prepared : prepare settings project = (search, .ok setup))
    (declared : declaredMappings settings project = .ok (rootMappings roots))
    (fresh : ∀ root ∈ roots, root ∉ project.world.searchPath) :
    (∀ one ∈ roots, ∀ other ∈ roots, one ≠ other →
      ((Resolver.candidates (rootMappings roots)).idxOf ⟨[], one⟩ <
          (Resolver.candidates (rootMappings roots)).idxOf ⟨[], other⟩ ↔
        search.world.searchPath.idxOf other < search.world.searchPath.idxOf one)) ∧
    ∀ package, Nameable (Resolver.packageName package) →
      (∃ root ∈ roots, holds project.tree (Resolver.packageName package) root = true) →
      ∃ first last, IsFirstHolder project.tree roots (Resolver.packageName package) first ∧
        IsLastHolder project.tree roots (Resolver.packageName package) last ∧
        let name := Resolver.packageName package
        let located : Mapping := ⟨name, FileTree.resolve (directoryOf name first)⟩
        let imported := directoryOf name last
        (Search.resolve project.tree package).run search = (.ok (some located), search) ∧
        importDirectory? project.tree search.world.searchPath name = some imported ∧
        (∃ scanned, importDirectory? project.tree
            (search.world.ensureImportable located.sourceRoot).searchPath name = some scanned ∧
          (FileTree.resolve scanned = located.directory ↔
            located.sourceRoot ∉ search.world.searchPath ∨
              FileTree.resolve imported = located.directory)) ∧
        ∀ rest, ['.', '.'] ∉ rest → ∀ state target world model after number source object,
          target ∈ (filePlan setup located (within located.directory rest) state).targets →
          findModel setup world model = (after, .ok (number, source)) →
          after.class? number = some object →
          IsFileOf after object.home (within imported rest) →
          (target.source = source ↔ FileTree.resolve imported = located.directory) := by
  obtain ⟨isKnown, isPath⟩ := prepare_ok prepared declared
  have asRoots : (rootMappings roots).map Mapping.sourceRoot = roots := by
    rw [rootMappings, List.map_map]
    exact List.map_id roots
  rw [asRoots] at isPath
  refine ⟨?_, ?_⟩
  · intro one isOne other isOther differ
    rw [candidates_rootMappings, idxOf_rootMappings, idxOf_rootMappings, isPath]
    exact (idxOf_putAll isOne isOther differ (fresh one isOne) (fresh other isOther)).symm
  · rintro package nameable ⟨root, isRoot, isHolder⟩
    obtain ⟨first, found, isFirst⟩ := exists_isFirstHolder isRoot isHolder
    obtain ⟨last, lastRoot, lastFound, lastHolds, isLast⟩ := find?_putAll fresh isRoot isHolder
    refine ⟨first, last, isFirst, ⟨lastRoot, lastHolds, isLast⟩, ?_⟩
    intro name located imported
    have isLocated : Resolver.locate? project.tree (rootMappings roots) name = some located := by
      rw [locate?_rootMappings nameable, found]
      rfl
    have isImported : importDirectory? project.tree search.world.searchPath name = some imported := by
      rw [importDirectory?, isPath, lastFound]
      rfl
    refine ⟨resolve_known isKnown isLocated, isImported,
      importDirectory?_scan nameable isFirst.isHolder isImported, ?_⟩
    intro rest plain state target world model after number source object member finds isClass isFile
    have isTarget : target.source = within located.directory rest := by
      rw [@source_of_mem_targets setup ⟨located, within located.directory rest, state⟩ target member,
        resolve_within plain, (isResolved_resolve _).resolve_eq]
    rw [isTarget, source_findModel finds isClass isFile, resolve_within plain, within_inj]
    exact eq_comm

/-! A project of two source roots that both have the package of its models. -/

def branchRoots : List Path :=
  [⟨.project, ["a".toList]⟩, ⟨.project, ["b".toList]⟩]

def branchesProject : Project where
  root := .project
  tree := ⟨(["pyproject.toml".toList], Encoding.encodeUtf8
      "[tool.setuptools.packages.find]\nwhere = [\"a\", \"b\"]\n".toList) ::
    ["a".toList, "b".toList].map fun root => ([root, "shop".toList, "user.py".toList],
      Encoding.encodeUtf8 "class User:\n    pass\n".toList), []⟩
  world := .create [⟨"shop.user".toList, some "b/shop/user.py".toList,
    [.define baseClass, .define (modelClass "User" "users" [])]⟩] []
  database := .ofFile [⟨"users".toList, [⟨"id".toList, "INTEGER".toList⟩]⟩]

def branchesSettings : Settings :=
  { Settings.standard with modelsPackage := "shop".toList }

/-- What the set-up makes of the project. -/
def branchesWorld : World :=
  { branchesProject.world with searchPath := branchRoots.reverse }

def branchesSetup : Setup :=
  ⟨⟨none⟩, [], .byType, branchesProject.database⟩

def branchesState : State :=
  ⟨branchesWorld, ColumnReader.create branchesProject.database none⟩

theorem branches_declared :
    declaredMappings branchesSettings branchesProject = .ok (rootMappings branchRoots) := by
  decide +kernel

theorem branches_prepared : ∃ resolver records, resolver.known = some (rootMappings branchRoots) ∧
    prepare branchesSettings branchesProject =
      (⟨branchesWorld, resolver, records⟩, .ok branchesSetup) := by
  obtain ⟨resolver, records, prepared⟩ := prepare_noBase rfl branches_declared
  exact ⟨resolver, records, (prepare_ok prepared branches_declared).1, prepared⟩

theorem source_roots_reversed_branches :
    (∀ root ∈ branchRoots, root ∉ branchesProject.world.searchPath) ∧
      ∃ search setup, prepare branchesSettings branchesProject = (search, .ok setup) ∧
        search.world.searchPath.idxOf ⟨.project, ["b".toList]⟩ <
          search.world.searchPath.idxOf ⟨.project, ["a".toList]⟩ ∧
        ∃ located imported,
          (Search.resolve branchesProject.tree "shop".toList).run search =
            (.ok (some located), search) ∧
          importDirectory? branchesProject.tree search.world.searchPath "shop".toList =
            some imported ∧
          located.directory = ⟨.project, ["a".toList, "shop".toList]⟩ ∧
          imported = ⟨.project, ["b".toList, "shop".toList]⟩ := by
  obtain ⟨resolver, records, -, prepared⟩ := branches_prepared
  have fresh : ∀ root ∈ branchRoots, root ∉ branchesProject.world.searchPath := by decide
  obtain ⟨order, taken⟩ := source_roots_reversed prepared branches_declared fresh
  refine ⟨fresh, _, _, prepared, ?_, ?_⟩
  · have isEarlier := order ⟨.project, ["a".toList]⟩ (by decide) ⟨.project, ["b".toList]⟩ (by decide)
      (by decide)
    rw [candidates_rootMappings] at isEarlier
    exact isEarlier.mp (by decide)
  · obtain ⟨first, last, isFirst, isLast, isLocated, isImported, -⟩ :=
      taken "shop".toList (by decide +kernel)
        ⟨⟨.project, ["a".toList]⟩, by decide, by decide +kernel⟩
    refine ⟨_, _, isLocated, isImported, ?_, ?_⟩
    · have before := isFirst.isFirst ⟨.project, ["a".toList]⟩ (by decide) (by decide +kernel)
      rcases List.mem_pair.mp isFirst.isRoot with rfl | rfl
      · decide +kernel
      · exact absurd before (by decide)
    · have behind := isLast.isLast ⟨.project, ["b".toList]⟩ (by decide) (by decide +kernel)
      rcases List.mem_pair.mp isLast.isRoot with rfl | rfl
      · exact absurd behind (by decide)
      · decide +kernel

/-- The class is written below the first root by a scan and below the second one when it is named. -/
theorem source_roots_disagree :
    ∃ search setup, prepare branchesSettings branchesProject = (search, .ok setup) ∧
      search.resolver.known = some (rootMappings branchRoots) ∧
      Resolver.candidates (rootMappings branchRoots) = rootMappings branchRoots ∧
      search.world.searchPath = branchRoots.reverse ∧
      let scanned : Mapping := ⟨"shop".toList, ⟨.project, ["a".toList, "shop".toList]⟩⟩
      let state : State := ⟨search.world, ColumnReader.create branchesProject.database branchesSettings.driver⟩
      (Search.resolve branchesProject.tree "shop".toList).run search = (.ok (some scanned), search) ∧
      importDirectory? branchesProject.tree search.world.searchPath "shop".toList =
        some ⟨.project, ["b".toList, "shop".toList]⟩ ∧
      ((scanPlan setup branchesProject.tree [scanned] state).targets.map fun target =>
          (target.fullName, target.source)) =
        [("shop.user.User".toList, ⟨.project, ["a".toList, "shop".toList, "user.py".toList]⟩)] ∧
      ((modelPlan setup "shop.user.User".toList state).targets.map fun target =>
          (target.fullName, target.source)) =
        [("shop.user.User".toList, ⟨.project, ["b".toList, "shop".toList, "user.py".toList]⟩)] := by
  obtain ⟨resolver, records, isKnown, prepared⟩ := branches_prepared
  have isLocated : Resolver.locate? branchesProject.tree (rootMappings branchRoots)
      (Resolver.packageName "shop".toList) =
        some ⟨"shop".toList, ⟨.project, ["a".toList, "shop".toList]⟩⟩ := by
    rw [locate?_rootMappings (by decide +kernel)]
    decide +kernel
  have scans : ((scanPlan branchesSetup branchesProject.tree
      [⟨"shop".toList, ⟨.project, ["a".toList, "shop".toList]⟩⟩] branchesState).targets.map
        fun target => (target.fullName, target.source)) =
      [("shop.user.User".toList, ⟨.project, ["a".toList, "shop".toList, "user.py".toList]⟩)] := by
    decide +kernel
  have writes : ((modelPlan branchesSetup "shop.user.User".toList branchesState).targets.map
        fun target => (target.fullName, target.source)) =
      [("shop.user.User".toList, ⟨.project, ["b".toList, "shop".toList, "user.py".toList]⟩)] := by
    decide +kernel
  have isImported : importDirectory? branchesProject.tree branchesWorld.searchPath "shop".toList =
      some ⟨.project, ["b".toList, "shop".toList]⟩ := by
    decide +kernel
  exact ⟨_, _, prepared, isKnown, candidates_rootMappings _, rfl, resolve_known isKnown isLocated,
    isImported, scans, writes⟩

end SchemaDoc.Generation
