import SchemaDoc.Program.World

/-!
Contract: the relationships of a registry's classes, set up together.

Owns:
- when a registry can be set up: every relationship has a direction and leads to exactly one of the
  registry's mapped classes, and the relationships added to the targets have names that are free;
- what the set-up adds to the targets;
- that a registry which could not be set up once is lost.
-/

namespace SchemaDoc.Program.World

/-- The mapped classes of a registry with a name. -/
def named (world : World) (registry : Nat) (name : Text) : List Nat :=
  ((world.mappedIn registry).filter fun entry => entry.1.definition.name = name).map Prod.snd

/-- The relationship has a direction and one target. -/
def isSound (world : World) (registry : Nat) (relationship : MappedRelationship) : Bool :=
  relationship.isDirected && (world.named registry relationship.target).length == 1

/-- The relationships that a class has. -/
def relationshipsOf (object : ClassObject) : List (Text × MappedRelationship) :=
  object.attributes.filterMap fun entry =>
    match entry.2 with
    | .relationship relationship => some (entry.1, relationship)
    | .member _ => none

/-- The attribute is tied to the table or to another class. -/
def isMappedAttribute : Attribute → Bool
  | .relationship _ => true
  | .member .column => true
  | .member _ => false

/-- The classes that share their mapped attributes with a class. -/
def family (world : World) (number : Nat) : List Nat :=
  (world.numbered.filter fun entry =>
    entry.1.isMapped && (world.derives entry.2 number || world.derives number entry.2)).map Prod.snd

/-- No class of the family has a mapped attribute of this name. -/
def isFree (world : World) (number : Nat) (name : Text) : Bool :=
  (world.family number).all fun other =>
    match world.class? other with
    | some object =>
      !object.attributes.any fun entry => entry.1 = name && isMappedAttribute entry.2
    | none => true

/-- A relationship added to a class, and taken over by the classes that derive from it. -/
def addRelationship (world : World) (number : Nat) (name : Text)
    (relationship : MappedRelationship) : World :=
  (world.numbered.filter fun entry => entry.1.isMapped && world.derives entry.2 number).foldl
    (fun world entry => world.updateClass entry.2 fun object =>
      { object with
        attributes := assign name
          (.relationship { relationship with isInherited := entry.2 != number }) object.attributes })
    world

/-- The relationship that a target gets, added when its name is free. -/
def addBackReference (registry : Nat) (owner : Text) (world : World)
    (relationship : MappedRelationship) : Option World :=
  match relationship.backReference with
  | none => some world
  | some (name, isCollection) =>
    match world.named registry relationship.target with
    | [target] =>
      if world.isFree target name then
        some (world.addRelationship target name ⟨owner, isCollection, true, none, false⟩)
      else none
    | _ => none

/-- The set-up of one class. -/
def configureClass (registry : Nat) (world : World) (number : Nat) : Option World := do
  let object ← world.class? number
  let own := (relationshipsOf object).filter fun entry => !entry.2.isInherited
  let world ← own.foldlM (fun world entry =>
    addBackReference registry object.definition.name world entry.2) world
  return { world with configured := world.configured ++ [number] }

/-- The set-up of the classes of a registry that are not set up yet. -/
def configureAll? (world : World) (registry : Nat) : Option World :=
  let classes := world.mappedIn registry
  if classes.all fun entry =>
      (relationshipsOf entry.1).all fun relationship => world.isSound registry relationship.2 then
    ((classes.map Prod.snd).filter fun number => !world.configured.contains number).foldlM
      (configureClass registry) world
  else none

/-- Sets a registry up, and says whether it is. -/
def configure (world : World) (registry : Nat) : World × Bool :=
  if world.failed.contains registry then (world, false)
  else
    match world.configureAll? registry with
    | some world => (world, true)
    | none => ({ world with failed := world.failed ++ [registry] }, false)

/-! ## Instances -/

/-- Why no instance of a class can be made. -/
inductive InstanceFault where
  | needsArgument
  | unconfigured
  | raised (failure : Failure)
deriving DecidableEq, Repr

def InstanceFault.message : InstanceFault → Text
  | .needsArgument => "__init__() missing 1 required positional argument: 'arg'".toList
  | .unconfigured => "<mapper error>".toList
  | .raised failure => failure.message

/-- The constructor that a class has or takes over. -/
def constructorOf (world : World) (object : ClassObject) : Constructor :=
  let constructors := object.lineage.filterMap fun number =>
    (world.class? number).map fun ancestor => ancestor.definition.constructor
  (constructors.find? (· != .standard)).getD .standard

/-- Makes an instance of a class: the arguments are looked at first, then the registry of a mapped
class is set up, then the constructor runs. -/
def instantiate (world : World) (object : ClassObject) : World × Except InstanceFault Unit :=
  let constructor := world.constructorOf object
  if constructor = .needsArgument then (world, .error .needsArgument)
  else
    let (world, isReady) :=
      match object.registry with
      | some registry => if object.isMapped then world.configure registry else (world, true)
      | none => (world, true)
    if !isReady then (world, .error .unconfigured)
    else
      match constructor with
      | .raises failure => (world, .error (.raised failure))
      | _ => (world, .ok ())

end SchemaDoc.Program.World
