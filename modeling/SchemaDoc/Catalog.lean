import SchemaDoc.Fault
import SchemaDoc.FileTree
import SchemaDoc.Program.Execution
import SchemaDoc.Program.Registry

/-!
Contract: the model classes of a program.

Owns:
- which classes are models: mapped ones that derive from the base class, if one is set;
- the loading of modules and classes by their dotted names, and the faults of doing so;
- the spellings in which the command line names a class;
- the file that a class is written in, and the making of its instances.
-/

namespace SchemaDoc

open Program

/-- Which classes count as models. -/
structure Catalog where
  /-- The class that models have to derive from. -/
  base : Option Nat
deriving DecidableEq, Repr

/-- The object that a dotted path names, in a module that is imported first. -/
def Program.loadObject (dotted : Text) : Execution Object := do
  let (module, name) := splitLast dotted
  if module.isEmpty then
    throw ⟨"ImportError".toList, "'" ++ dotted ++ "' is not a dotted path"⟩
  importModule module
  match (← get).lookup? module name with
  | some object => return object
  | none =>
    throw ⟨"ImportError".toList,
      "module '" ++ module ++ "' has no attribute '" ++ name ++ "'"⟩

/-- The dotted path of a class that is spelled with dots, slashes, backslashes or colons. -/
def normalizeClassPath (value : Text) : Text :=
  let dotted := (Text.trim value).map fun c => if c = '\\' || c = '/' || c = ':' then '.' else c
  Text.join ['.'] ((Text.splitOnChar '.' dotted).filter fun part => !part.isEmpty)

namespace Catalog

/-- The catalogue for a base class given by its dotted path. -/
def ofBase (world : World) (dotted : Option Text) : World × Except Fault Catalog :=
  match dotted.getD [] with
  | [] => (world, .ok ⟨none⟩)
  | path =>
    let reported (reason : Text) : Fault := .configuration "base_class" reason
    match (loadObject path).run world with
    | (.error failure, world) =>
      (world, .error (reported ("cannot import " ++ path ++ ": " ++ failure.message)))
    | (.ok (.classObject number), world) => (world, .ok ⟨some number⟩)
    | (.ok _, world) => (world, .error (reported (path ++ " is not a class")))

/-- The class of this number is a model. -/
def isModel (catalog : Catalog) (world : World) (number : Nat) : Bool :=
  let derives := match catalog.base with
    | some base => number != base && world.derives number base
    | none => true
  derives && ((world.class? number).map ClassObject.isMapped).getD false

/-- Imports a module; any exception is the fault of the module. -/
def importModule (world : World) (name : Text) : World × Except Text Unit :=
  match (Program.importModule name).run world with
  | (.ok (), world) => (world, .ok ())
  | (.error failure, world) => (world, .error failure.report)

/-- The models that a module defines, once for each name that it binds to them. -/
def modelsIn (catalog : Catalog) (world : World) (module : Text) : List Nat :=
  let bindings := ((world.loaded? module).map LoadedModule.bindings).getD []
  bindings.filterMap fun entry =>
    match entry.2 with
    | .classObject number =>
      let isHome := ((world.class? number).map fun object => object.home == module).getD false
      if isHome && catalog.isModel world number then some number else none
    | _ => none

/-- The model class that a path given on the command line names. -/
def loadModel (catalog : Catalog) (world : World) (path : Text) : World × Except Fault Nat :=
  let dotted := normalizeClassPath path
  let reported (reason : Text) : Fault := .input "--model" reason (.str dotted)
  match (loadObject dotted).run world with
  | (.error failure, world) =>
    (world, .error (reported ("class does not exist (" ++ failure.message ++ ")")))
  | (.ok (.classObject number), world) =>
    (world,
      if catalog.isModel world number then .ok number
      else .error (reported "not a SQLAlchemy model class"))
  | (.ok _, world) => (world, .error (reported "not a SQLAlchemy model class"))

/-- The suffix of files of compiled code that belong to a source file. -/
def bytecodeSuffix : Text := ".pyc".toList

/-- The suffixes of files of machine code. -/
def extensionSuffixes : List Text :=
  [".cpython-311-x86_64-linux-gnu.so".toList, ".abi3.so".toList, ".so".toList]

/-- The file that a class is written in. -/
def sourceFile (world : World) (object : ClassObject) : Except Fault Path :=
  let reported (reason : Text) : Fault := .discovery object.definition.qualname reason
  let file := if world.isLoaded object.home then world.fileOf object.home else none
  match file with
  | none => .error (reported ("<class '" ++ object.fullName ++ "'> is a built-in class"))
  | some file =>
    if extensionSuffixes.any fun suffix => suffix.isSuffixOf file then
      .error (reported "no source file")
    else
      let source :=
        if bytecodeSuffix.isSuffixOf file then file.take (file.length - 1) else file
      .ok (FileTree.resolve (Path.project.join (Path.parse source)))

/-- Makes an instance of a class without arguments. -/
def instantiate (world : World) (object : ClassObject) : World × Except Fault Unit :=
  match world.instantiate object with
  | (world, .ok ()) => (world, .ok ())
  | (world, .error fault) =>
    (world, .error (.discovery object.definition.qualname
      ("cannot instantiate: " ++ fault.message)))

end Catalog

end SchemaDoc
