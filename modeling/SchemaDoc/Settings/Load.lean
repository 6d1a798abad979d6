import SchemaDoc.FileTree
import SchemaDoc.Manifest
import SchemaDoc.Settings.Basic
import SchemaDoc.Settings.Environment
import SchemaDoc.Text.Lines
import SchemaDoc.Toml.Document
import SchemaDoc.Yaml.Document

/-!
Contract: the settings of an invocation, from a settings file and the environment.

Owns:
- which file is read: a given one, else the one that the environment names, else the project's
  manifest if it has a section for the tool;
- which part of the file holds the settings;
- the order of placeholders, overriding variables and validation.

A given file must exist; a file that the environment names and that does not exist is warned
about. Faults of a file's syntax keep their kind, so that the outer layer can tell them apart.
-/

namespace SchemaDoc.Settings

/-- Why the settings cannot be loaded. -/
inductive LoadFault where
  /-- A fault that the tool reports itself. -/
  | reported (fault : Fault)
  /-- These entries of the settings are wrong; the source names where they came from. -/
  | invalid (source : Text) (entries : List (Value × Value)) (issues : List Issue)
  /-- The chosen file of this name stores a text that is no TOML document. -/
  | notToml (name text : Text)
  /-- The project's manifest is no TOML document. -/
  | manifestNotToml
  /-- A number of a TOML document is too long. -/
  | numberTooLong
  | yaml (fault : Yaml.Fault)
  | access (fault : AccessFault)
  /-- A value that should list entries does not. -/
  | shape (fault : Value.ShapeFault)
deriving Repr

/-- How the faults that validation and the reader of TOML find are put into words. -/
structure Wording where
  /-- Entries with what is wrong in them. -/
  invalid : List (Value × Value) → List Issue → Text
  /-- A text that is no TOML document. -/
  notToml : Text → Text

/-- The wording that only names the places of faulty values. -/
def Wording.brief : Wording where
  invalid _ issues := "wrong values: " ++ Text.join ", " (issues.map Issue.placeText)
  notToml _ := "no TOML document"

/-- The section of a manifest that belongs to the tool. -/
def toolSection : Text := "model-doc".toList

/-- The text of a file in UTF-8. -/
def readText (tree : FileTree) (path : Path) : Except LoadFault Text :=
  match tree.read path with
  | .error fault => .error (.access fault)
  | .ok stored =>
    match Encoding.decodeUtf8 stored with
    | some text => .ok text
    | none => .error (.access .undecodable)

/-! ## Manifests -/

/-- The tool's section is named in what a document has under `tool`: as a key, as an item, or
anywhere in a text. Other values name nothing, and asking them is a fault. -/
def namesSection (entries : List (Value × Value)) : Except LoadFault Bool :=
  match Value.lookup? "tool".toList entries with
  | none => .ok false
  | some (.map inside) => .ok (Value.lookup? toolSection inside).isSome
  | some (.list items) => .ok (items.any (Value.sameKey (.str toolSection)))
  | some (.str text) => .ok (Text.isInfix toolSection text)
  | some _ => .error (.shape .kind)

/-- The entries of the tool's section, which must stand in a table. -/
def sectionEntries (entries : List (Value × Value)) : Except LoadFault (List (Value × Value)) :=
  match Value.lookup? "tool".toList entries with
  | some (.map inside) =>
    match Value.lookup? toolSection inside with
    | some value =>
      match value.toEntries with
      | .ok found => .ok found
      | .error fault => .error (.shape fault)
    | none => .ok []
  | _ => .error (.shape .kind)

/-- The settings of a TOML file: the tool's section if the file names it, else everything, except
that a manifest without the section gives nothing. -/
def readToml (tree : FileTree) (path : Path) :
    Except LoadFault (List (Value × Value) × List Log.Record) := do
  let text ← readText tree path
  match Toml.parse text with
  | .error .malformed => throw (.notToml path.name text)
  | .error .tooLong => throw .numberTooLong
  | .ok entries =>
    if ← namesSection entries then return (← sectionEntries entries, [])
    if path.name = Manifest.fileName then
      return ([], [.warning
        "No [tool.model-doc] section found in pyproject.toml, using defaults"])
    return (entries, [])

/-! ## Documents with a kind -/

/-- Line ends of all kinds as line feeds. -/
def unifyLineEnds (text : Text) : Text :=
  (Text.physicalLines text).flatMap fun line =>
    let body := line.filter fun c => c != '\n' && c != '\r'
    if body.length = line.length then body else body ++ ['\n']

/-- What a document has under a name; a reference to the document is the document. -/
def entryOf (name : String) (entries : List (Value × Value)) : Value :=
  match Value.lookup? name.toList entries with
  | some (.enclosing _) => .map entries
  | some value => value
  | none => .null

/-- The settings that a document of this name holds: what it has under `spec`, when its kind is that of
a configuration. Settings that hold themselves have no end. -/
def documentSettings (name : Text) (entries : List (Value × Value)) :
    Except LoadFault (List (Value × Value)) :=
  match entryOf "kind" entries with
  | .str ['C', 'o', 'n', 'f', 'i', 'g'] =>
    match entryOf "spec" entries with
    | .map inside =>
      if (Value.map inside).holdsItself then .error (.yaml .endless) else .ok inside
    | other =>
      if other.isEmpty then .ok []
      else .error (.reported (.configuration name "'spec' must be a mapping"))
  | other =>
    .error (.reported (.configuration name
      ("YAML config must use 'kind: Config', got 'kind: " ++ other.display ++ "'")))

/-- The settings of a YAML file. -/
def readYaml (tree : FileTree) (path : Path) : Except LoadFault (List (Value × Value)) := do
  let text ← readText tree path
  match Yaml.parse (unifyLineEnds text) with
  | .error fault => throw (.yaml fault)
  | .ok (.map entries) => documentSettings path.name entries
  | .ok other =>
    throw (.reported (.configuration path.name ("expected a mapping, got " ++ other.kindName)))

/-! ## Loading -/

/-- The manifest of the project, if it names the tool's section. -/
def findManifest (tree : FileTree) (root : Path) : Except LoadFault (Option Path) := do
  let manifest := root.child Manifest.fileName
  if !tree.fileExists manifest then return none
  match Toml.parse (← readText tree manifest) with
  | .error .malformed => throw .manifestNotToml
  | .error .tooLong => throw .numberTooLong
  | .ok entries => if ← namesSection entries then return some manifest else return none

/-- The file that holds the settings, if there is one. -/
def findFile (tree : FileTree) (environment : Environment) (root : Path) (given : Option Text) :
    Except LoadFault (Option Path × List Log.Record) := do
  match given with
  | some (c :: rest) =>
    let path := Path.parse (c :: rest)
    if tree.fileExists path then return (some path, [])
    throw (.reported (.configuration path.render "configuration file not found"))
  | _ =>
    match environment.filled? "MODEL_DOC_CONFIG_PATH" with
    | none => return (← findManifest tree root, [])
    | some named =>
      let path := Path.parse named
      if tree.fileExists path then return (some path, [])
      return (← findManifest tree root,
        [.warning ("MODEL_DOC_CONFIG_PATH set but file not found: " ++ path.render)])

/-- The entries of a settings file, read by the suffix of its name. -/
def readFile (tree : FileTree) (path : Path) :
    Except LoadFault (List (Value × Value) × List Log.Record) := do
  if path.suffix = ".yaml".toList || path.suffix = ".yml".toList then
    return (← readYaml tree path, [])
  readToml tree path

/-- The settings of an invocation, with what is warned about. -/
def load (tree : FileTree) (environment : Environment) (root : Path) (given : Option Text) :
    Except LoadFault (Settings × List Log.Record) := do
  let (path, found) ← findFile tree environment root given
  let (entries, read) ← match path with
    | some path => readFile tree path
    | none => pure ([], [])
  match environment.override (environment.substituteEntries entries) with
  | .error fault => throw (.shape fault)
  | .ok (entries, overridden) =>
    match validate (.map entries) with
    | .ok settings => return (settings, found ++ read ++ overridden)
    | .error issues =>
      throw (.invalid (path.elim "environment" Path.render) entries issues)

end SchemaDoc.Settings
