import SchemaDoc.Program.Lineage

/-!
Contract: the import of described modules.

Owns:
- the order of an import: the packages above a module first, then its items one by one;
- what a failed import leaves behind: the module is not imported, those imported on the way are;
- the making of classes, with their attributes in the order of the class body.

A module that is being imported already counts as imported, so that modules may import each other.
-/

namespace SchemaDoc.Program

/-- A computation on the world that an exception may end; the world keeps what happened before. -/
abbrev Execution := ExceptT Failure (StateM World)

/-! ## Exceptions -/

/-- The start of every text about a module that is not there. -/
def missingText (name : Text) : Text :=
  "No module named " ++ Text.quoted name

def Failure.missing (name : Text) : Failure :=
  ⟨"ModuleNotFoundError".toList, missingText name⟩

def Failure.noPackage (name parent : Text) : Failure :=
  ⟨"ModuleNotFoundError".toList,
    missingText name ++ "; " ++ Text.quoted parent ++ " is not a package"⟩

def Failure.emptyName : Failure :=
  ⟨"ValueError".toList, "Empty module name".toList⟩

def Failure.relativeName (name : Text) : Failure :=
  ⟨"TypeError".toList,
    "the 'package' argument is required to perform a relative import for " ++ Text.quoted name⟩

def Failure.endless : Failure :=
  ⟨"RecursionError".toList, "maximum recursion depth exceeded".toList⟩

def Failure.noName (name : Text) : Failure :=
  ⟨"NameError".toList, "name " ++ Text.quoted name ++ " is not defined"⟩

def Failure.tableTaken (table : Text) : Failure :=
  ⟨"InvalidRequestError".toList,
    "Table " ++ Text.quoted table ++ " is already defined for this MetaData instance.  Specify " ++
      "'extend_existing=True' to redefine options and columns on an existing Table object."⟩

def Failure.noLineage (bases : List Text) : Failure :=
  ⟨"TypeError".toList,
    "Cannot create a consistent method resolution\norder (MRO) for bases " ++
      Text.join ", " bases⟩

/-- The text about a name that a module does not have. -/
def Failure.noImport (world : World) (name module : Text) : Failure :=
  let place := match world.fileOf module with
    | some file => (Path.project.join (Path.parse file)).render
    | none => "unknown location".toList
  let isPartial := ((world.loaded? module).map fun entry => !entry.isComplete).getD false
  ⟨"ImportError".toList,
    "cannot import name " ++ Text.quoted name ++ " from " ++
      (if isPartial then "partially initialized module " else "") ++ Text.quoted module ++
      (if isPartial then " (most likely due to a circular import)" else "") ++
      " (" ++ place ++ ")"⟩

/-! ## Classes -/

/-- A member of a mapped class as its attribute. -/
def mappedAttribute : Member → Attribute
  | .relationship declared =>
    .relationship
      { target := declared.target
        isCollection := declared.isCollection
        isDirected := declared.direction.isSome
        backReference := declared.backReference.map fun name =>
          (name, (declared.direction.map fun direction => direction.reversed.isCollection).getD true)
        isInherited := false }
  | .declaredRelationship target asked =>
    .relationship ⟨target, asked.getD false, true, none, false⟩
  | other => .member other

/-- Attributes that a class gets besides its own, when it has none of that name. -/
def fillIn (own : List (Text × Attribute)) (others : List (Text × Attribute)) :
    List (Text × Attribute) :=
  others.foldl (fun done entry =>
    if done.any (·.1 = entry.1) then done else done ++ [entry]) own

/-- The relationships that the unmapped ancestors declare for the mapped classes below them. -/
def declaredAbove (world : World) (ancestors : List Nat) : List (Text × Attribute) :=
  (ancestors.filterMap world.class?).flatMap fun object =>
    if object.isMapped then []
    else object.definition.members.filterMap fun (name, member) =>
      match member with
      | .declaredRelationship _ _ => some (name, mappedAttribute member)
      | _ => none

/-- The relationships that a mapped class hands on. -/
def handedOn (ancestor : ClassObject) : List (Text × Attribute) :=
  ancestor.attributes.filterMap fun entry =>
    match entry.2 with
    | .relationship relationship =>
      some (entry.1, .relationship { relationship with isInherited := true })
    | .member _ => none

/-- The attributes of a new mapped class: its own, those declared for it by unmapped ancestors, and
those handed on by the mapped class it derives from. -/
def mappedAttributes (world : World) (ancestors : List Nat) (members : List (Text × Member)) :
    List (Text × Attribute) :=
  let own := members.map fun (name, member) => (name, mappedAttribute member)
  let inherited := ((world.nearestMapped? ancestors).map handedOn).getD []
  let declared := (declaredAbove world ancestors).filter fun entry =>
    !inherited.any (·.1 = entry.1)
  fillIn (fillIn own declared) inherited

/-- The class that started the registry of a class with these ancestors. -/
def registryOf (world : World) (ancestors : List Nat) : Option Nat :=
  ancestors.find? fun number =>
    ((world.class? number).map fun object =>
      decide (object.definition.standing = .registryBase)).getD false

/-- The table of a new class. -/
def tableOf (world : World) (ancestors : List Nat) : Standing → Option Text
  | .model (some table) false => some table
  | .model none false => (world.nearestMapped? ancestors).bind ClassObject.table
  | _ => none

/-- The class with this number and lineage. -/
def makeClass (world : World) (site : Text) (definition : ClassDefinition) (number : Nat)
    (lineage : List Nat) : ClassObject :=
  let ancestors := lineage.tail
  let registry := match definition.standing with
    | .registryBase => some number
    | _ => registryOf world ancestors
  let table := if registry.isSome then tableOf world ancestors definition.standing else none
  { definition, site, lineage, registry, table
    attributes :=
      if table.isSome then mappedAttributes world ancestors definition.members
      else definition.members.map fun (name, member) => (name, .member member) }

/-- The table that a class would define a second time. -/
def takenTable? (world : World) (object : ClassObject) : Option Text := do
  let registry ← object.registry
  match object.definition.standing with
  | .model (some table) false =>
    if (world.tablesOf registry).contains table then some table else none
  | _ => none

/-- The class that a name in a module stands for. -/
def classNamed (module name : Text) : Execution Nat := do
  match (← get).lookup? module name with
  | some (.classObject number) => return number
  | _ => throw (.noName name)

/-- Makes a class. -/
def define (site : Text) (definition : ClassDefinition) : Execution Unit := do
  let bases ← definition.bases.mapM (classNamed site)
  let world ← get
  let number := world.classes.length
  match lineageOf? world number bases with
  | none => throw (.noLineage definition.bases)
  | some lineage =>
    let object := makeClass world site definition number lineage
    match takenTable? world object with
    | some table => throw (.tableTaken table)
    | none =>
      set ({ world with classes := world.classes ++ [object] }.bind site definition.name
        (.classObject number))

/-! ## Modules -/

/-- The name of the module above, and the last part of a dotted name. -/
def splitLast (name : Text) : Text × Text :=
  let last := (name.reverse.takeWhile (· != '.')).reverse
  (name.take (name.length - last.length - 1), last)

/-- A name taken from a module, which is imported first; a name that a package does not have may
be a module in it. -/
def takeName (load : Text → Execution Unit) (source name : Text) : Execution Object := do
  load source
  let world ← get
  match world.lookup? source name with
  | some object => return object
  | none =>
    let inner := source ++ "." ++ name
    if world.isPackage source then
      tryCatch (load inner) fun failure => do
        if failure != .missing inner then throw failure
    let world ← get
    match world.lookup? source name with
    | some object => return object
    | none => throw (.noImport world name source)

/-- One item of a module. -/
def executeItem (load : Text → Execution Unit) (site : Text) : Item → Execution Unit
  | .fromModule source name boundAs => do
    let object ← takeName load source name
    modify fun world => world.bind site boundAs object
  | .define definition => define site definition
  | .alias name target => do
    match (← get).lookup? site target with
    | some object => modify fun world => world.bind site name object
    | none => throw (.noName target)
  | .value name => modify fun world => world.bind site name .value
  | .raise failure => throw failure

/-- The items of a module, one by one. -/
def execute (load : Text → Execution Unit) (site : Text) (items : List Item) : Execution Unit :=
  items.forM (executeItem load site)

/-- Imports a module that the packages above it hold. -/
def runModule (load : Text → Execution Unit) (name : Text) : Execution Unit := do
  let world ← get
  if !world.hasModule name then throw (.missing name)
  let items := ((world.description? name).map ModuleDescription.items).getD []
  modify fun world => world.beginModule name
  tryCatch (execute load name items) fun failure => do
    modify fun world => world.dropModule name
    throw failure
  modify fun world => world.completeModule name

/-- Imports a module at a bounded depth of imports within imports. -/
def loadModule : Nat → Text → Execution Unit
  | 0, _ => throw .endless
  | depth + 1, name => do
    if (← get).isLoaded name then return
    let (parent, last) := splitLast name
    if parent.isEmpty then runModule (loadModule depth) name
    else
      loadModule depth parent
      let world ← get
      if world.isLoaded name then return
      if !world.isPackage parent then throw (.noPackage name parent)
      runModule (loadModule depth) name
      modify fun world => world.bind parent last (.module name)

/-- The length of the longest name that an import can meet. -/
def longestName (described : List ModuleDescription) : Nat :=
  (described.flatMap fun module => module.name.length :: module.items.map fun
    | .fromModule source name _ => source.length + name.length + 1
    | _ => 0).foldl max 0

/-- A depth that no import exceeds: each module in progress is another one, and above each there
are fewer packages than its name has characters. -/
def depthBound (described : List ModuleDescription) (name : Text) : Nat :=
  let longest := max (longestName described) name.length
  ((described.map fun module => module.name.length).foldl (· + ·) 0 + 1) * (longest + 2)

/-- Imports the module of an absolute name. -/
def importModule (name : Text) : Execution Unit := do
  if name.isEmpty then throw .emptyName
  if name.head? = some '.' then throw (.relativeName name)
  loadModule (depthBound (← get).described name) name

end SchemaDoc.Program
