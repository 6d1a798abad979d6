import SchemaDoc.Value

/-!
Contract: the faults that the tool reports under its own name, and their texts.

Faults of one class (`discovery`, `schema`) are reported and the run goes on; the others end the
invocation.
-/

namespace SchemaDoc

inductive Fault where
  /-- A setting or settings file is wrong or missing. -/
  | configuration (component reason : Text)
  /-- A value given on the command line cannot be used. -/
  | input (option reason : Text) (given : Value)
  /-- A module or class cannot be loaded or used. -/
  | discovery (target reason : Text)
  /-- The data of a table is missing or cannot be read. -/
  | schema (table reason : Text)
  /-- A block cannot be written into a source file. -/
  | writing (path reason : Text)
deriving Repr

/-- The text of a fault; a given value of null is not shown. -/
def Fault.message : Fault → Text
  | .configuration component reason =>
    "Configuration error in '" ++ component ++ "': " ++ reason
  | .input option reason .null => "Invalid " ++ option ++ ": " ++ reason
  | .input option reason given =>
    "Invalid " ++ option ++ ": " ++ reason ++ " (got " ++ given.repr ++ ")"
  | .discovery target reason => "Cannot load '" ++ target ++ "': " ++ reason
  | .schema table reason => "Schema error for table '" ++ table ++ "': " ++ reason
  | .writing path reason => "Cannot write doc block to '" ++ path ++ "': " ++ reason

end SchemaDoc
