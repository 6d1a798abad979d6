import SchemaDoc.Path
import SchemaDoc.Program.Description

/-!
Contract: what the import of described modules has brought about.

Owns:
- the imported modules and the names that they bind;
- the classes, each with its lineage, its registry, its table and its attributes;
- the registries whose classes could not be tied to each other.

A class is known by its number. A class is mapped when it has a table: one of its own, or that of
the mapped class it derives from.
-/

namespace SchemaDoc.Program

/-- What a name stands for. -/
inductive Object where
  | module (name : Text)
  | classObject (number : Nat)
  | value
deriving DecidableEq, Repr

/-- A module that is imported, or being imported. -/
structure LoadedModule where
  name : Text
  isComplete : Bool
  bindings : List (Text × Object)
deriving DecidableEq, Repr

/-- A relationship of a mapped class. -/
structure MappedRelationship where
  /-- The name of the class that it leads to. -/
  target : Text
  isCollection : Bool
  /-- Its direction can be found. -/
  isDirected : Bool
  /-- The relationship that the target gets: its name, and whether it is a collection. -/
  backReference : Option (Text × Bool)
  /-- It is taken over from the class that this one derives from. -/
  isInherited : Bool
deriving DecidableEq, Repr

inductive Attribute where
  | member (member : Member)
  | relationship (relationship : MappedRelationship)
deriving DecidableEq, Repr

structure ClassObject where
  definition : ClassDefinition
  /-- The module whose import made the class. -/
  site : Text
  /-- The class itself and those it derives from, in the order in which attributes are looked up. -/
  lineage : List Nat
  /-- The class that started its registry. -/
  registry : Option Nat
  /-- The table that the class is mapped to. -/
  table : Option Text
  attributes : List (Text × Attribute)
deriving DecidableEq, Repr

namespace ClassObject

/-- The module that the class is from, as it says. -/
def home (object : ClassObject) : Text :=
  object.definition.claimedModule.getD object.site

/-- The name of the class with its module. -/
def fullName (object : ClassObject) : Text :=
  object.home ++ "." ++ object.definition.qualname

def isMapped (object : ClassObject) : Bool :=
  object.table.isSome

end ClassObject

structure World where
  described : List ModuleDescription
  loaded : List LoadedModule
  /-- The classes in the order in which they were made. -/
  classes : List ClassObject
  /-- The registries that could not be set up, and never will be. -/
  failed : List Nat
  /-- The classes whose relationships are set up. -/
  configured : List Nat
  /-- The directories in which packages are looked for. -/
  searchPath : List Path
deriving Repr

namespace World

/-- The world before anything is imported. -/
def create (described : List ModuleDescription) (searchPath : List Path) : World :=
  ⟨described, [], [], [], [], searchPath⟩

/-! ## Modules -/

def description? (world : World) (name : Text) : Option ModuleDescription :=
  world.described.find? (·.name = name)

/-- Some described module lies below the name. -/
def hasChildren (world : World) (name : Text) : Bool :=
  world.described.any fun other => (name ++ ['.']).isPrefixOf other.name

/-- The module exists: it is described, or it holds a described one. -/
def hasModule (world : World) (name : Text) : Bool :=
  (world.description? name).isSome || world.hasChildren name

/-- The path of a module's file below the project directory. -/
def fileOf (world : World) (name : Text) : Option Text :=
  (world.description? name).bind ModuleDescription.file

/-- The module can hold other modules. -/
def isPackage (world : World) (name : Text) : Bool :=
  world.hasChildren name ||
    ((world.fileOf name).map fun file => "__init__.py".toList.isSuffixOf file).getD false

def loaded? (world : World) (name : Text) : Option LoadedModule :=
  world.loaded.find? (·.name = name)

def isLoaded (world : World) (name : Text) : Bool :=
  (world.loaded? name).isSome

/-- Names that every module has. -/
def moduleNames : List Text :=
  ["__name__".toList, "__doc__".toList, "__package__".toList, "__loader__".toList,
    "__spec__".toList, "__dict__".toList, "__class__".toList]

/-- What a name in an imported module stands for. -/
def lookup? (world : World) (module name : Text) : Option Object := do
  let entry ← world.loaded? module
  match entry.bindings.find? (·.1 = name) with
  | some (_, object) => some object
  | none => if moduleNames.contains name then some .value else none

/-- Bindings with a name bound: an old one keeps its place. -/
def assign (name : Text) (object : α) : List (Text × α) → List (Text × α)
  | [] => [(name, object)]
  | (old, present) :: rest =>
    if old = name then (name, object) :: rest else (old, present) :: assign name object rest

/-- A change to one imported module. -/
def updateModule (world : World) (name : Text) (change : LoadedModule → LoadedModule) : World :=
  { world with
    loaded := world.loaded.map fun entry => if entry.name = name then change entry else entry }

/-- A name bound in a module. -/
def bind (world : World) (module name : Text) (object : Object) : World :=
  world.updateModule module fun entry => { entry with bindings := assign name object entry.bindings }

/-- A module whose import begins. -/
def beginModule (world : World) (name : Text) : World :=
  { world with loaded := world.loaded ++ [⟨name, false, []⟩] }

def completeModule (world : World) (name : Text) : World :=
  world.updateModule name fun entry => { entry with isComplete := true }

/-- A module whose import failed. -/
def dropModule (world : World) (name : Text) : World :=
  { world with loaded := world.loaded.filter (·.name != name) }

/-! ## Classes -/

def class? (world : World) (number : Nat) : Option ClassObject :=
  world.classes[number]?

/-- The classes with their numbers. -/
def numbered (world : World) : List (ClassObject × Nat) :=
  world.classes.zipIdx

/-- The mapped classes of a registry, in the order in which they were made. -/
def mappedIn (world : World) (registry : Nat) : List (ClassObject × Nat) :=
  world.numbered.filter fun entry => entry.1.registry = some registry && entry.1.isMapped

/-- The first of two classes derives from the second, or is it. -/
def derives (world : World) (number ancestor : Nat) : Bool :=
  ((world.class? number).map fun object => object.lineage.contains ancestor).getD false

/-- The nearest mapped class among those given. -/
def nearestMapped? (world : World) (lineage : List Nat) : Option ClassObject :=
  lineage.findSome? fun number => (world.class? number).filter ClassObject.isMapped

/-- A change to one class. -/
def updateClass (world : World) (number : Nat) (change : ClassObject → ClassObject) : World :=
  { world with classes := world.classes.modify number change }

/-- The names of the tables of a registry. -/
def tablesOf (world : World) (registry : Nat) : List Text :=
  (world.mappedIn registry).filterMap fun entry => entry.1.table

end World

end SchemaDoc.Program
