import SchemaDoc.Block.Strip
import SchemaDoc.Source.Lookup

/-!
Contract: insertion of a block above the definition of its class.

The insertion point is a line of the text, cut at line feeds alone; the block takes over the white
space in front of that line and its line ending. Where the reader of the source counts lines
differently, the point can lie behind the last line.
-/

namespace SchemaDoc.Block

/-- Why a block cannot be placed. -/
inductive PlacementFault where
  | nullCharacter
  | unparsable
  | classMissing
  | lineMissing
deriving DecidableEq, Repr

/-- The ending of the lines that go above a line. -/
def endingLike (line : Text) : Text :=
  if line.reverse.take 2 = ['\n', '\r'] then ['\r', '\n'] else ['\n']

/-- The lines of a block as they stand above a line. -/
def linesAbove (line block : Text) : List Text :=
  (Text.displayLines block).map fun entry => Text.margin line ++ entry ++ endingLike line

/-- The lines with a block above the one at `index`, if there is such a line. -/
def insertAt? (lines : List Text) (index : Nat) (block : Text) : Option (List Text) :=
  match lines.drop index with
  | [] => none
  | line :: rest => some (lines.take index ++ linesAbove line block ++ line :: rest)

/-- The line, counted from one, on which the definition of a class starts. -/
def locate (nameOf : Text → Option Nat) (content qualname : Text) :
    Except PlacementFault Nat :=
  match Source.SourceFile.read nameOf content with
  | .error .nullCharacter => .error .nullCharacter
  | .error .unparsable => .error .unparsable
  | .ok file =>
    match file.find? qualname with
    | none => .error .classMissing
    | some found => .ok (file.firstLine found)

/-- Insertion with a given way to locate classes. -/
def insertWith (locate : Text → Text → Except PlacementFault Nat)
    (content qualname block : Text) : Except PlacementFault Text :=
  match locate content qualname with
  | .error fault => .error fault
  | .ok line =>
    match insertAt? (Text.lines content) (line - 1) block with
    | none => .error .lineMissing
    | some lines => .ok lines.flatten

/-- The text with a block above the definition of its class. -/
def insert (nameOf : Text → Option Nat) (content qualname block : Text) :
    Except PlacementFault Text :=
  insertWith (locate nameOf) content qualname block

/-- Replacement with a given way to locate classes. -/
def replaceWith (locate : Text → Text → Except PlacementFault Nat)
    (content qualname block : Text) : Except PlacementFault Text :=
  insertWith locate (strip qualname content) qualname block

/-- The text with the blocks of a class replaced by one above its definition. -/
def replace (nameOf : Text → Option Nat) (content qualname block : Text) :
    Except PlacementFault Text :=
  replaceWith (locate nameOf) content qualname block

/-- The fault that is reported for a block that cannot be placed in a file, if it is one of the
tool's own faults. -/
def PlacementFault.report? (path qualname : Text) : PlacementFault → Option Fault
  | .unparsable => some (.writing path "source does not parse")
  | .classMissing =>
    some (.writing path ("class " ++ qualname ++ " is not defined in this file"))
  | _ => none

end SchemaDoc.Block
