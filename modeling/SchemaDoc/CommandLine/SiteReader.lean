import SchemaDoc.CommandLine.Command
import SchemaDoc.Program.Reader

/-!
Contract: descriptions of what a command works on, as dynamic values.

A description is a mapping: `files` has the contents of files by their paths, each a text or a
mapping with bytes in hexadecimal under `hex`; `directories` lists further directories;
`environment` has the variables by their names; `modules` describes the program, and `search_path`
lists directories in which other packages are found; `databases` has the tables of database files
by their paths, each table a mapping with a `name` and `columns`, which are pairs of a name and a
type. What is left out is empty; `width` is the number of columns of the screen, which is wide when it is
left out.
-/

namespace SchemaDoc.CommandLine.SiteReader

open Program.Reader

/-- Entries with their keys as texts. -/
def entries : Value → List (Text × Value)
  | .map entries => entries.map fun (key, value) => (key.display, value)
  | _ => []

def textOf (value : Value) : Text :=
  (text? value).getD []

/-! ## Files -/

/-- The bytes that pairs of hexadecimal digits give. -/
def bytesOfDigits : Text → Bytes
  | high :: low :: rest => UInt8.ofNat (Text.ofDigits 16 [high, low]) :: bytesOfDigits rest
  | _ => []

/-- The contents of a file. -/
def contents : Value → Bytes
  | .str text => Encoding.encodeUtf8 text
  | value => bytesOfDigits (textField "hex" value)

/-- The place of a path below the project. -/
def place (path : Text) : List Text :=
  (FileTree.resolve (Path.parse path)).parts

/-- The tree with the given files and directories. -/
def tree (files directories : Value) : FileTree :=
  let withFiles := (entries files).foldl
    (fun (tree : FileTree) (path, value) => tree.put (place path) (contents value))
    FileTree.empty
  (items directories).foldl
    (fun (tree : FileTree) path => tree.makeDirectory (place (textOf path))) withFiles

def environment (value : Value) : Environment :=
  (entries value).map fun (name, value) => (name, textOf value)

/-- The program before anything is imported. -/
def world (described searchPath : Value) : Program.World :=
  Program.World.create (modules described)
    ((items searchPath).map fun path => Path.project.join (Path.parse (textOf path)))

/-! ## Databases -/

/-- A column from a pair of a name and a type. -/
def column (value : Value) : DeclaredColumn :=
  match items value with
  | [name, type] => ⟨textOf name, textOf type⟩
  | _ => ⟨[], []⟩

def table (value : Value) : Table :=
  ⟨textField "name" value, (items (field "columns" value)).map column⟩

/-- A reachable database with tables, which are created one after the other. -/
def database (tables : Value) : Database :=
  ((items tables).map table).foldl Database.replaceTable (.ofFile [])

/-! ## Output -/

/-- A screen with the given number of columns. -/
def screen : Value → Console.Screen
  | .int columns => { Console.Screen.wide with width := columns.toNat }
  | _ => .wide

/-- The site that a value describes. -/
def site (value : Value) : Site where
  tree := tree (field "files" value) (field "directories" value)
  world := world (field "modules" value) (field "search_path" value)
  environment := environment (field "environment" value)
  databases := (entries (field "databases" value)).map fun (path, tables) =>
    (FileTree.resolve (Path.parse path), database tables)
  log := Log.State.silent
  screen := screen (field "width" value)
  wording := .brief

end SchemaDoc.CommandLine.SiteReader
