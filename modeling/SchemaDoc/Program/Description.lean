import SchemaDoc.Detection
import SchemaDoc.Text.Basic
import SchemaDoc.Text.Quoted
import SchemaDoc.Value

/-!
Contract: programs described as data.

A program is a list of modules. Each module lists what happens when it is imported: names taken
from other modules, classes, further names, an exception. A class lists its members; of a method
only the parameters and what a call gives are described.
-/

namespace SchemaDoc.Program

/-- An exception that ends the execution of described code. -/
structure Failure where
  kind : Text
  text : Text
deriving DecidableEq, Repr

namespace Failure

/-- The text of the exception; that of a missing key is quoted. -/
def message (failure : Failure) : Text :=
  if failure.kind = "KeyError".toList then Text.quoted failure.text else failure.text

/-- The kind of the exception and its text. -/
def report (failure : Failure) : Text :=
  failure.kind ++ ": " ++ failure.message

/-- The kinds of exceptions that tell that something cannot be imported. -/
def importKinds : List Text :=
  ["ImportError".toList, "ModuleNotFoundError".toList]

/-- The kinds of exceptions that tell that a value is wrong. -/
def valueKinds : List Text :=
  ["ValueError".toList, "UnicodeError".toList, "UnicodeDecodeError".toList,
    "UnicodeEncodeError".toList, "UnicodeTranslateError".toList]

/-- A package whose search ends with this exception counts as missing. -/
def meansMissing (failure : Failure) : Bool :=
  importKinds.contains failure.kind || valueKinds.contains failure.kind

end Failure

/-- What a call or a look at a member gives. -/
inductive Result where
  /-- The value of this name, taken from the class. -/
  | classValue (name : Text)
  /-- The mapped property behind the attribute of this name. -/
  | mappedProperty (name : Text)
  /-- The value of this name, taken from the instance. -/
  | instanceValue (name : Text)
  /-- An attribute of another class of the module. -/
  | ofClass (className name : Text)
  /-- A value that is no relationship. -/
  | plain
  /-- A relationship that belongs to no class. -/
  | unattached
  | raises
deriving DecidableEq, Repr

/-- The way in which the rows of two tables belong together. -/
inductive Direction where
  | oneToMany
  | manyToOne
  | manyToMany
deriving DecidableEq, Repr

namespace Direction

/-- The direction seen from the other table. -/
def reversed : Direction → Direction
  | .oneToMany => .manyToOne
  | .manyToOne => .oneToMany
  | .manyToMany => .manyToMany

/-- A relationship of this direction leads to several objects unless it says otherwise. -/
def isCollection (direction : Direction) : Bool :=
  direction != .manyToOne

end Direction

/-- A relationship as a class body declares it. -/
structure RelationshipMember where
  target : Text
  /-- No direction can be found when the tables do not belong together. -/
  direction : Option Direction
  /-- Whether the declaration asks for a collection. -/
  asked : Option Bool
  /-- The annotation names a single object. -/
  annotatedSingle : Bool
  /-- The name of the relationship that the target gets. -/
  backReference : Option Text
deriving DecidableEq, Repr

/-- The relationship leads to several objects. -/
def RelationshipMember.isCollection (member : RelationshipMember) : Bool :=
  !member.annotatedSingle &&
    member.asked.getD ((member.direction.map Direction.isCollection).getD true)

inductive Member where
  | column
  | relationship (member : RelationshipMember)
  /-- A relationship to one object that each mapped class gets for itself. -/
  | declaredRelationship (target : Text) (asked : Option Bool)
  | method (signature : Signature) (isAbstract : Bool) (result : Result)
  /-- A function that is not bound to instances. -/
  | unbound
  /-- A value computed for instances alone. -/
  | computed (result : Result)
  /-- A value computed for instances and for the class. -/
  | hybrid (result : Result)
  /-- Something that cannot be read. -/
  | raising
  /-- Another attribute of the class, or the mapped property behind it. -/
  | reference (name : Text) (isProperty : Bool)
  | inert
deriving DecidableEq, Repr

/-- How instances of a class are made. -/
inductive Constructor where
  | standard
  | needsArgument
  | raises (failure : Failure)
deriving DecidableEq, Repr

/-- What a class is to the mapping of classes to tables. -/
inductive Standing where
  /-- The start of a registry of its own. -/
  | registryBase
  | model (table : Option Text) (isAbstract : Bool)
  | plain
deriving DecidableEq, Repr

structure ClassDefinition where
  name : Text
  qualname : Text
  /-- The module that the class claims to be from, when it is not the one that defines it. -/
  claimedModule : Option Text
  bases : List Text
  standing : Standing
  members : List (Text × Member)
  constructor : Constructor
deriving DecidableEq, Repr

/-- One thing that happens when a module is imported. -/
inductive Item where
  | fromModule (source name boundAs : Text)
  | define (definition : ClassDefinition)
  | alias (name target : Text)
  | value (name : Text)
  | raise (failure : Failure)
deriving DecidableEq, Repr

structure ModuleDescription where
  name : Text
  /-- The path of its file below the project directory. -/
  file : Option Text
  items : List Item
deriving DecidableEq, Repr

end SchemaDoc.Program
