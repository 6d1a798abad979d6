import SchemaDoc.FileTree
import SchemaDoc.Log.Record
import SchemaDoc.Mapping
import SchemaDoc.Toml.Document

/-!
Contract: the packages that one project manifest declares.

Owns:
- the tables of a manifest that tie packages to directories, and their order;
- the flat source root of a manifest that declares none;
- what happens to a manifest that cannot be read.

A manifest that is missing or is no TOML document counts as empty, with a warning. Values of the
wrong kind are faults.
-/

namespace SchemaDoc.Manifest

/-- Why the packages of a manifest cannot be found out. -/
inductive Fault where
  /-- A value that has to be a table is none. -/
  | noTable
  /-- A value that has to be a path or a list is neither. -/
  | wrongKind
  | numberTooLong
  | undecodable
deriving DecidableEq, Repr

def fileName : Text := "pyproject.toml".toList

/-- The value of a key in a value that has to be a table, or a default. -/
def entry (key : String) (default table : Value) : Except Fault Value :=
  match table with
  | .map entries => .ok ((Value.lookup? key.toList entries).getD default)
  | _ => .error .noTable

/-- The table under a key; an empty value stands for an empty table. -/
def tableEntry (key : String) (table : Value) : Except Fault Value := do
  let value ← entry key (.map []) table
  return if value.isEmpty then .map [] else value

/-- The entries of a value that has to be a table. -/
def tableEntries : Value → Except Fault (List (Value × Value))
  | .map entries => .ok entries
  | _ => .error .noTable

/-- The parts of a value that has to have parts. -/
def listItems (value : Value) : Except Fault (List Value) :=
  match value.parts? with
  | some items => .ok items
  | none => .error .wrongKind

/-- A directory below another one, named by a value that has to be a text. -/
def directoryIn (base : Path) : Value → Except Fault Path
  | .str text => .ok (base.join (Path.parse text))
  | _ => .error .wrongKind

/-- The mapping of one entry of the table of package directories. -/
def packageDirectory (base : Path) (entry : Value × Value) : Except Fault Mapping := do
  let directory ← directoryIn base entry.2
  return ⟨Text.dropAround (· = '.') entry.1.display, directory⟩

/-- The source root that one value names. -/
def sourceRoot (base : Path) (value : Value) : Except Fault Mapping := do
  return ⟨[], ← directoryIn base value⟩

/-- The source roots in which packages are looked for. -/
def sourceRoots (base : Path) (setuptools : Value) : Except Fault (List Mapping) := do
  match ← entry "packages" .null setuptools with
  | .map entries =>
    let roots ← entry "where" (.list []) (← tableEntry "find" (.map entries))
    (← listItems roots).mapM (sourceRoot base)
  | _ => return []

/-- The mapping of one included package; none when it names no package. -/
def includedPackage (base : Path) (package : Value) : Except Fault (List Mapping) := do
  let name ← entry "include" .null package
  if name.isEmpty then return []
  let source ← directoryIn base (← entry "from" (.str ".") package)
  return [⟨name.display, ← directoryIn source name⟩]

/-- The mappings that a manifest's document declares, the base being the directory it stands in. -/
def declared (base : Path) (document : List (Value × Value)) : Except Fault (List Mapping) := do
  let tool ← entry "tool" (.map []) (.map document)
  let setuptools ← entry "setuptools" (.map []) tool
  let directories ← tableEntries (← tableEntry "package-dir" setuptools)
  let packages ← directories.mapM (packageDirectory base)
  let roots ← sourceRoots base setuptools
  let poetry ← entry "poetry" (.map []) tool
  let included ← (← listItems (← entry "packages" (.list []) poetry)).mapM (includedPackage base)
  return packages ++ roots ++ included.flatten

/-- The declared mappings, or the base as a flat source root. -/
def orFlat (base : Path) (mappings : List Mapping) : List Mapping :=
  if mappings.isEmpty then [⟨[], base⟩] else mappings

/-- The document of a manifest, with what is warned about. -/
def read (tree : FileTree) (path : Path) :
    List Log.Record × Except Fault (List (Value × Value)) :=
  let unreadable := [Log.Record.warning ("Cannot read manifest " ++ path.render)]
  match tree.read path with
  | .error _ => (unreadable, .ok [])
  | .ok stored =>
    match Encoding.decodeUtf8 stored with
    | none => ([], .error .undecodable)
    | some text =>
      match Toml.parse text with
      | .ok document => ([], .ok document)
      | .error .malformed => (unreadable, .ok [])
      | .error .tooLong => ([], .error .numberTooLong)

/-- The packages that the manifest at a path maps to directories; a list that is never empty. -/
def mappings (tree : FileTree) (path : Path) : List Log.Record × Except Fault (List Mapping) :=
  let (records, document) := read tree path
  (records, document.bind fun entries => (declared path.parent entries).map (orFlat path.parent))

end SchemaDoc.Manifest
