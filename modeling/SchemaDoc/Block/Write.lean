import SchemaDoc.Block.Insert
import SchemaDoc.Encoding.Cookie
import SchemaDoc.Encoding.Flaw
import SchemaDoc.FileTree

/-!
Contract: the blocks of source files.

A file is read in the encoding that it declares, rewritten as a text, and stored in the same
encoding. Nothing is stored when the text does not change or cannot be stored.
-/

namespace SchemaDoc.Block

/-- Why a block cannot be written into a file. -/
inductive WriteFault where
  | access (fault : AccessFault)
  | encoding (fault : Encoding.CookieFault)
  /-- The contents are no text in the declared encoding. -/
  | undecodable (flaw : Option Encoding.Flaw)
  /-- The declared encoding stores no text. -/
  | notText
  | placement (fault : PlacementFault)
  /-- The new text cannot be stored in the encoding of this name. -/
  | unencodable (encoding : Text)
deriving DecidableEq, Repr

/-- The text of a file and the encoding that it is stored in. -/
def readBytes (bytes : Bytes) : Except WriteFault (Text × Encoding.Declared) :=
  match Encoding.detect bytes with
  | .error fault => .error (.encoding fault)
  | .ok declared =>
    if declared.codec = .bytesOnly then .error .notText
    else
      match declared.codec.decode bytes with
      | some text => .ok (text, declared)
      | none => .error (.undecodable (declared.codec.flaw? bytes))

/-- The new contents of a file whose block is replaced; none when the file stays as it is. -/
def rewrite? (nameOf : Text → Option Nat) (bytes : Bytes) (qualname block : Text) :
    Except WriteFault (Option Bytes) := do
  let (original, declared) ← readBytes bytes
  match replace nameOf original qualname block with
  | .error fault => .error (.placement fault)
  | .ok updated =>
    if updated = original then return none
    match declared.codec.encode updated with
    | none => .error (.unencodable declared.name)
    | some stored => return some stored

/-- Reads the source file at a path. -/
def readSource (tree : FileTree) (path : Path) : Except WriteFault (Text × Encoding.Declared) :=
  match tree.read path with
  | .error fault => .error (.access fault)
  | .ok bytes => readBytes bytes

/-- Replaces the block of a class in the file at a path, and says whether the file changed. On a
full disk the file is emptied before writing fails. -/
def write (nameOf : Text → Option Nat) (isFull : Bool) (tree : FileTree) (path : Path)
    (qualname block : Text) : FileTree × Except WriteFault Bool :=
  match tree.read path with
  | .error fault => (tree, .error (.access fault))
  | .ok bytes =>
    match rewrite? nameOf bytes qualname block with
    | .error fault => (tree, .error fault)
    | .ok none => (tree, .ok false)
    | .ok (some stored) =>
      if isFull && !stored.isEmpty then (tree.write path [], .error (.access .full))
      else (tree.write path stored, .ok true)

/-- The fault that is reported for a block that cannot be written, if it is one of the tool's own
faults. -/
def WriteFault.report? (path qualname : Text) : WriteFault → Option Fault
  | .access fault => some (.writing path (fault.message path))
  | .encoding fault => some (.writing path (fault.message path))
  | .undecodable flaw => some (.writing path ((flaw.map Encoding.Flaw.message).getD []))
  | .notText => none
  | .placement fault => fault.report? path qualname
  | .unencodable name => some (.writing path ("cannot encode as " ++ name))

end SchemaDoc.Block
