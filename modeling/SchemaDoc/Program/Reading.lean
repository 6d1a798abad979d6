import SchemaDoc.Detection
import SchemaDoc.Program.Registry

/-!
Contract: what the attributes of described classes give when they are read or called.

Owns:
- the look-up of a name along the lineage of a class;
- the references from one attribute to another, followed up to a depth that only a circle exceeds;
- the members of a class as the detection of relationships sees them.
-/

namespace SchemaDoc.Program

/-- What a name read from a class gives. -/
inductive Reading where
  | plain
  | column
  /-- A relationship attribute of a class of the registry. -/
  | relationship (registry : Option Nat) (relationship : MappedRelationship)
  /-- The mapped property behind such an attribute. -/
  | property (registry : Option Nat) (relationship : MappedRelationship)
  /-- A relationship that belongs to no class. -/
  | unattached
deriving DecidableEq, Repr

/-- The mapped property behind an attribute. -/
def Reading.property? : Reading → Option Reading
  | .column => some .plain
  | .relationship registry mapped => some (.property registry mapped)
  | _ => none

/-- Where a name is read from. -/
inductive Vantage where
  | fromClass
  | fromInstance
deriving DecidableEq, Repr

/-- Values read from an instance are no relationships. -/
def Vantage.see (vantage : Vantage) (reading : Reading) : Reading :=
  match vantage with
  | .fromClass => reading
  | .fromInstance => .plain

namespace World

/-- The attribute that a name means for a class, and the class of the lineage that has it. -/
def find? (world : World) (object : ClassObject) (name : Text) : Option (ClassObject × Attribute) :=
  object.lineage.findSome? fun number => do
    let holder ← world.class? number
    let entry ← holder.attributes.find? (·.1 = name)
    return (holder, entry.2)

/-- Names that every class has. -/
def classNames : List Text :=
  ["__name__".toList, "__qualname__".toList, "__module__".toList, "__doc__".toList,
    "__dict__".toList, "__class__".toList, "__init__".toList]

/-- Names that every class of a registry has. -/
def registryNames : List Text :=
  ["metadata".toList, "registry".toList]

/-- Names that every mapped class has. -/
def mappedNames : List Text :=
  ["id".toList, "__table__".toList, "__tablename__".toList, "__mapper__".toList]

/-- The class has the name without declaring it. -/
def isProvided (object : ClassObject) (name : Text) : Bool :=
  classNames.contains name || (object.registry.isSome && registryNames.contains name) ||
    (object.isMapped && mappedNames.contains name)

/-- What a described result gives in a module, read for a class. -/
def readResult (world : World) (read : Vantage → ClassObject → Text → Option Reading)
    (site : Text) (object : ClassObject) : Result → Option Reading
  | .classValue name => read .fromClass object name
  | .mappedProperty name => (read .fromClass object name).bind Reading.property?
  | .instanceValue name => read .fromInstance object name
  | .ofClass className name =>
    match world.lookup? site className with
    | some (.classObject number) =>
      (world.class? number).bind fun other => read .fromClass other name
    | _ => none
  | .plain => some .plain
  | .unattached => some .unattached
  | .raises => none

/-- What a member gives when it is read; nothing when reading fails. -/
def readMember (world : World) (read : Vantage → ClassObject → Text → Option Reading)
    (vantage : Vantage) (site : Text) (object : ClassObject) : Member → Option Reading
  | .column => some .column
  | .relationship _ => some .unattached
  | .declaredRelationship _ _ => some .unattached
  | .hybrid result => world.readResult read site object result
  | .computed result =>
    match vantage with
    | .fromClass => some .plain
    | .fromInstance => world.readResult read site object result
  | .raising => none
  | .reference name isProperty =>
    let found := read .fromClass object name
    if isProperty then found.bind Reading.property? else found
  | _ => some .plain

/-- What a name gives, references followed up to a depth. -/
def readName (world : World) : Nat → Vantage → ClassObject → Text → Option Reading
  | 0, _, _, _ => none
  | depth + 1, vantage, object, name =>
    match world.find? object name with
    | none => if isProvided object name then some .plain else none
    | some (holder, .relationship relationship) =>
      some (vantage.see (.relationship holder.registry relationship))
    | some (holder, .member member) =>
      (world.readMember (world.readName depth) vantage holder.site object member).map vantage.see

/-- A depth that only a circle of references exceeds: a chain without repetition reads every
attribute once from each vantage. -/
def readingDepth (world : World) : Nat :=
  2 * (world.classes.map fun object => object.attributes.length).foldl (· + ·) 0 + 2

/-- What a member of a class gives when it is read from the class or called on an instance. -/
def look (world : World) (object : ClassObject) (access : Detection.Access) (name : Text) :
    Option Reading :=
  let read := world.readName world.readingDepth
  match access with
  | .read => read .fromClass object name
  | .call =>
    match world.find? object name with
    | some (holder, .member (.method _ _ result)) =>
      world.readResult read holder.site object result
    | _ => none

/-- The relationship that was read, once the registry of its class is set up. -/
def examine (world : World) (reading : Option Reading) : World × Detection.Outcome :=
  let mapped (registry : Option Nat) (relationship : MappedRelationship) :=
    let (world, isReady) :=
      match registry with
      | some registry => world.configure registry
      | none => (world, true)
    (world,
      if isReady then
        Detection.Outcome.relation relationship.target
          (if relationship.isCollection then .many else .one)
      else .failed)
  match reading with
  | none => (world, .failed)
  | some .unattached => (world, .failed)
  | some .plain => (world, .nothing)
  | some .column => (world, .nothing)
  | some (.relationship registry relationship) => mapped registry relationship
  | some (.property registry relationship) => mapped registry relationship

/-- The form of a member for the detection. -/
def formOf : Attribute → Detection.Form
  | .member (.method signature isAbstract _) => .function isAbstract signature
  | .member .unbound => .unbound
  | _ => .value false

/-- The relationships among a class's own attributes. -/
def detect (excluded : List Text) (object : ClassObject) : StateM World Detection.Findings :=
  Detection.detect
    (fun access name => do
      let world ← get
      let (after, outcome) := world.examine (world.look object access name)
      set after
      return outcome)
    excluded (object.attributes.map fun entry => (entry.1, formOf entry.2))

end World

end SchemaDoc.Program
