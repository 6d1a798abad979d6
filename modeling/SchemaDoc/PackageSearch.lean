import SchemaDoc.Program.Execution
import SchemaDoc.Resolver

/-!
Contract: the directories of packages, from manifests and from the import path.

Owns:
- the search of the import path, which is asked only when no manifest gives a directory;
- the packages that are documented when none is named.

Packages of the described program are never found on the import path, but the packages above them
are imported by the search, and an exception that does not mean a missing package ends it.
-/

namespace SchemaDoc

open Program

/-! ## The import path -/

/-- What a name is found to be in a list of directories. -/
inductive Located where
  /-- A package, with the directories that hold its modules. -/
  | package (directories : List Path)
  | plainModule
deriving Repr

/-- The suffixes of the files that can be imported. -/
def importableSuffixes : List Text :=
  [".abi3.so".toList, ".so".toList, ".py".toList, ".pyc".toList]

/-- Some importable file of this name is in the directory. -/
def hasImportable (tree : FileTree) (directory : Path) (name : Text) : Bool :=
  importableSuffixes.any fun suffix =>
    let path := directory.child (name ++ suffix)
    tree.fileExists path && !tree.isDirectory path

/-- Looks a name up in directories: the first one with a package's own file or with a module
decides; without such, all directories of the name together are the package. -/
def searchDirectories (tree : FileTree) (name : Text) (portions : List Path) :
    List Path → Option Located
  | [] => if portions.isEmpty then none else some (.package portions)
  | directory :: rest =>
    let inner := directory.child name
    if tree.isDirectory inner && hasImportable tree inner "__init__" then
      some (.package [inner])
    else if hasImportable tree directory name then some .plainModule
    else if tree.isDirectory inner then
      searchDirectories tree name (portions ++ [inner]) rest
    else searchDirectories tree name portions rest

/-- The directories of a dotted package, part by part. -/
def packageDirectories (tree : FileTree) (directories : List Path) : List Text → List Path
  | [] => directories
  | part :: rest =>
    match if part.isEmpty then none else searchDirectories tree part [] directories with
    | some (.package inner) => packageDirectories tree inner rest
    | _ => []

/-- Why the search for a package ends. -/
inductive SearchFault where
  | manifest (fault : Manifest.Fault)
  /-- A package above the one that is searched cannot be imported. -/
  | raised (failure : Failure)
deriving Repr

/-- What a search works with, and what it has logged. -/
structure SearchState where
  world : World
  resolver : Resolver
  records : List Log.Record
deriving Repr

abbrev Search := ExceptT SearchFault (StateM SearchState)

namespace Search

def warn (message : Text) : Search Unit :=
  modify fun state => { state with records := state.records ++ [.warning message] }

/-- The directory of a package on the import path. -/
def installed (tree : FileTree) (package : Text) : Search (Option Path) := do
  let state ← get
  let parts := Text.splitOnChar '.' package
  if state.world.hasModule (parts.headD []) then
    let (parent, _) := splitLast package
    if parent.isEmpty || state.world.isLoaded package then return none
    let (outcome, world) := (importModule parent).run state.world
    set { state with world }
    match outcome with
    | .error failure =>
      if failure.meansMissing then return none
      throw (.raised failure)
    | .ok () => return none
  return (packageDirectories tree state.world.searchPath parts).head?

/-- The mappings of the project's manifests. -/
def mappings (tree : FileTree) : Search (List Mapping) := do
  let state ← get
  let (resolver, records, result) := state.resolver.mappings tree
  set { state with resolver, records := state.records ++ records }
  match result with
  | .ok found => return found
  | .error fault => throw (.manifest fault)

/-- The directory of a package, by the manifests or else by the import path. -/
def resolve (tree : FileTree) (package : Text) : Search (Option Mapping) := do
  let name := Resolver.packageName package
  match Resolver.locate? tree (← mappings tree) name with
  | some mapping => return some mapping
  | none =>
    return (← installed tree name).map fun directory => ⟨name, FileTree.resolve directory⟩

/-- The packages that are documented when none is named: the models package of the project and
those of its module directories. -/
def defaults (tree : FileTree) (modelsPackage : Text) : Search (List Mapping) := do
  let primary ← resolve tree modelsPackage
  if primary.isNone then
    warn ("Cannot resolve models package '" ++ modelsPackage ++ "' to a directory")
  return primary.toList ++ (← get).resolver.moduleModels tree

/-- The mappings of packages that are named; one that is not found is warned about. -/
def namedTargets (tree : FileTree) : List Text → Search (List Mapping)
  | [] => return []
  | package :: rest => do
    match ← resolve tree package with
    | some mapping => return mapping :: (← namedTargets tree rest)
    | none =>
      warn ("Cannot resolve namespace '" ++ package ++ "' to a valid path.")
      namedTargets tree rest

/-- The packages to document: the named ones, or the defaults when none is named. -/
def targets (tree : FileTree) (modelsPackage : Text) (packages : List Text) :
    Search (List Mapping) :=
  if packages.isEmpty then defaults tree modelsPackage else namedTargets tree packages

end Search

/-- The directory at the front of the import path, unless the path has it already. -/
def Program.World.ensureImportable (world : World) (directory : Path) : World :=
  if world.searchPath.contains directory then world
  else { world with searchPath := directory :: world.searchPath }

end SchemaDoc
