import SchemaDoc.Manifest

/-!
Contract: packages found by the manifests of a project.

Owns:
- which manifests count: that of the project and that of each module directory, in this order;
- the choice among mappings: the longest package name that covers the package and whose directory
  exists, the first one among equals;
- the packages that are documented when none is named.

The mappings are read once and kept.
-/

namespace SchemaDoc

/-- The part of a mapping's package that a package names below it, when the mapping covers it. -/
def Mapping.remainder? (mapping : Mapping) (package : Text) : Option Text :=
  let covered := mapping.package.isEmpty || package == mapping.package ||
    (mapping.package ++ ['.']).isPrefixOf package
  if covered then some ((package.drop mapping.package.length).dropWhile (· = '.')) else none

/-- The directory that a mapping gives to a package, when the mapping covers it. -/
def Mapping.directoryFor? (mapping : Mapping) (package : Text) : Option Path := do
  let rest ← mapping.remainder? package
  if rest.isEmpty then return mapping.directory
  return (Text.splitOnChar '.' rest).foldl
    (fun directory part => directory.join (Path.parse part)) mapping.directory

structure Resolver where
  root : Path
  modulesDirectory : Text
  /-- The mappings, once they have been read. -/
  known : Option (List Mapping)
deriving Repr

namespace Resolver

def create (root : Path) (modulesDirectory : Text) : Resolver :=
  ⟨root, modulesDirectory, none⟩

/-- A package name without the white space and dots around it. -/
def packageName (package : Text) : Text :=
  Text.dropAround (· = '.') (Text.trim package)

/-- The directories of the project's modules, in order. -/
def moduleRoots (tree : FileTree) (resolver : Resolver) : List Path :=
  let directory := resolver.root.join (Path.parse resolver.modulesDirectory)
  match tree.placeOf directory with
  | .error _ => []
  | .ok place => ((tree.names place).map directory.child).filter tree.isDirectory

/-- The manifests that exist. -/
def manifestFiles (tree : FileTree) (resolver : Resolver) : List Path :=
  ((resolver.root :: resolver.moduleRoots tree).map fun directory =>
    directory.child Manifest.fileName).filter tree.fileExists

/-- The mappings of several manifests; the first fault ends the reading. -/
def readAll (tree : FileTree) :
    List Path → List Log.Record × Except Manifest.Fault (List Mapping)
  | [] => ([], .ok [])
  | path :: rest =>
    match Manifest.mappings tree path with
    | (records, .error fault) => (records, .error fault)
    | (records, .ok found) =>
      let (more, others) := readAll tree rest
      (records ++ more, others.map (found ++ ·))

/-- All mappings of the project; they are kept once they could be read. -/
def mappings (tree : FileTree) (resolver : Resolver) :
    Resolver × List Log.Record × Except Manifest.Fault (List Mapping) :=
  match resolver.known with
  | some known => (resolver, [], .ok known)
  | none =>
    match readAll tree (resolver.manifestFiles tree) with
    | (records, .error fault) => (resolver, records, .error fault)
    | (records, .ok found) =>
      let known := Manifest.orFlat resolver.root found
      ({ resolver with known := some known }, records, .ok known)

/-- Mappings in the order in which they are tried: longer package names first. -/
def candidates (mappings : List Mapping) : List Mapping :=
  mappings.mergeSort fun a b => b.package.length ≤ a.package.length

/-- The mapping of a package to an existing directory by the first candidate that gives one. -/
def locate? (tree : FileTree) (mappings : List Mapping) (package : Text) : Option Mapping :=
  ((candidates mappings).findSome? fun mapping =>
    (mapping.directoryFor? package).filter tree.isDirectory).map fun directory =>
      ⟨package, FileTree.resolve directory⟩

/-- The package name of the module directories. -/
def modulesPackage (resolver : Resolver) : Text :=
  Text.join ['.'] (Path.parse resolver.modulesDirectory).sortKey

/-- The models packages of the module directories. -/
def moduleModels (tree : FileTree) (resolver : Resolver) : List Mapping :=
  let models := "models".toList
  ((resolver.moduleRoots tree).filter fun directory =>
    tree.isDirectory (directory.child models)).map fun directory =>
      ⟨Text.join ['.'] [resolver.modulesPackage, directory.name, models], directory.child models⟩

end Resolver

end SchemaDoc
