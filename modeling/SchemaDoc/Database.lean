import SchemaDoc.Text.Case
import SchemaDoc.Text.Basic
import SchemaDoc.Text.Word

/-!
Contract: a database as far as columns are read from it.

Owns:
- the tables with their columns as declared, found by name whatever the case of ASCII letters;
- the catalogue of columns that larger databases keep, and its selections;
- the ways in which a query can fail.
-/

namespace SchemaDoc

/-- One column of a table: its name and its declared type. -/
structure DeclaredColumn where
  name : Text
  type : Text
deriving DecidableEq, Repr

structure Table where
  name : Text
  columns : List DeclaredColumn
deriving DecidableEq, Repr

/-- One row of a catalogue of columns; a missing text is null. -/
structure CatalogueRow where
  schema : Option Text
  table : Option Text
  column : Text
  type : Option Text
  position : Option Int
deriving DecidableEq, Repr

structure Catalogue where
  /-- The schema of the connection, if it has one. -/
  current : Option Text
  rows : List CatalogueRow
deriving DecidableEq, Repr

structure Database where
  isReachable : Bool
  tables : List Table
  catalogue : Option Catalogue
  /-- The name of its dialect. -/
  dialectName : Text
deriving Repr

/-- Why a query gives no answer. -/
inductive QueryFault where
  /-- The database cannot be reached, or refuses the query. -/
  | failed
  | noTable (name : Text)
deriving DecidableEq, Repr

/-- The text of a fault; what the database itself says is not shown. -/
def QueryFault.message : QueryFault → Text
  | .failed => "<database error>".toList
  | .noTable name => name

namespace Database

/-- A reachable database that one file holds. -/
def ofFile (tables : List Table) : Database :=
  ⟨true, tables, none, "sqlite"⟩

/-! ## Tables -/

/-- An ASCII letter in lower case, any other character as it is. -/
def foldAscii (c : Char) : Char :=
  if 'A' ≤ c && c ≤ 'Z' then Char.ofNat (c.toNat + 32) else c

/-- The two names are the same up to the case of ASCII letters. -/
def sameName (left right : Text) : Bool :=
  left.map foldAscii = right.map foldAscii

/-- The table of a name. -/
def table? (database : Database) (name : Text) : Option Table :=
  database.tables.find? fun table => sameName table.name name

/-- The tables without the one of a name. -/
def dropTable (database : Database) (name : Text) : Database :=
  { database with tables := database.tables.filter fun table => !sameName table.name name }

/-- A table created in place of the one of its name; one without columns is only dropped. -/
def replaceTable (database : Database) (table : Table) : Database :=
  let rest := database.dropTable table.name
  if table.columns.isEmpty then rest else { rest with tables := rest.tables ++ [table] }

/-! ## Table names inside queries -/

/-- The character can be part of a parameter's name. -/
def isParameterChar (c : Char) : Bool :=
  Text.isWordChar c || c = '$'

/-- A colon after this character does not open a parameter. -/
def guardsColon (c : Char) : Bool :=
  isParameterChar c || c = ':' || c = '\\'

/-- What follows the run of parameter characters that a text opens with, and whether there is a run
and no colon behind it. -/
def parameterRun (text : Text) : Bool :=
  let run := text.takeWhile isParameterChar
  !run.isEmpty && (text.drop run.length).head? != some ':'

/-- The text holds a parameter: a colon and a name that nothing guards. -/
def holdsParameter (before : Option Char) : Text → Bool
  | [] => false
  | c :: rest =>
    (c = ':' && !(before.map guardsColon).getD false && parameterRun rest) ||
      holdsParameter (some c) rest

/-- The text without the backslashes that guard the colons of names. -/
def dropGuards : Text → Text
  | [] => []
  | c :: rest =>
    let guarded := c = '\\' && rest.head? = some ':' &&
      ((rest.drop 1).dropWhile isParameterChar).head? != some ':'
    if guarded then dropGuards rest else c :: dropGuards rest

/-- The columns that the table's own description gives: none for a table that does not exist. The
name stands in the query itself, where a part of it may be taken for a parameter. -/
def describe (database : Database) (name : Text) : Except QueryFault (List DeclaredColumn) :=
  if holdsParameter none name then .error .failed
  else .ok (((database.table? (dropGuards name)).map Table.columns).getD [])

/-! ## The catalogue -/

/-- The first position does not come after the second one; a missing one comes first. -/
def positionNotAfter : Option Int → Option Int → Bool
  | none, _ => true
  | some _, none => false
  | some a, some b => a ≤ b

/-- The rows that a condition selects, by ascending position. -/
def select (catalogue : Catalogue) (condition : CatalogueRow → Bool) : List CatalogueRow :=
  (catalogue.rows.filter condition).mergeSort fun a b => positionNotAfter a.position b.position

/-- The row is about a table of this name in the schema of the connection. -/
def isCurrent (catalogue : Catalogue) (table : Text) (row : CatalogueRow) : Bool :=
  row.table = some table && row.schema.isSome && row.schema = catalogue.current

/-- The row is about a table of this name in any schema. -/
def isNamed (table : Text) (row : CatalogueRow) : Bool :=
  row.table = some table

/-! ## Reflected types -/

/-- Declared types that are known by name, with the names that they are reflected as. -/
def knownTypes : List (String × String) :=
  [("BIGINT", "bigint"), ("BLOB", "blob"), ("BOOL", "boolean"), ("BOOLEAN", "boolean"),
    ("CHAR", "char"), ("DATE", "date"), ("DATE_CHAR", "date"), ("DATETIME", "datetime"),
    ("DATETIME_CHAR", "datetime"), ("DOUBLE", "double"), ("DECIMAL", "decimal"),
    ("FLOAT", "float"), ("INT", "integer"), ("INTEGER", "integer"), ("JSON", "json"),
    ("JSONB", "jsonb"), ("NUMERIC", "numeric"), ("REAL", "real"), ("SMALLINT", "smallint"),
    ("TEXT", "text"), ("TIME", "time"), ("TIME_CHAR", "time"), ("TIMESTAMP", "timestamp"),
    ("VARCHAR", "varchar"), ("NVARCHAR", "nvarchar"), ("NCHAR", "nchar")]

/-- Parts of other declared types, with the names that they are reflected as; the first part that
occurs decides. -/
def typeParts : List (String × String) :=
  [("INT", "integer"), ("CHAR", "text"), ("CLOB", "text"), ("TEXT", "text"), ("BLOB", "null"),
    ("REAL", "real"), ("FLOA", "real"), ("DOUB", "real")]

/-- The name that a declared type is reflected as. -/
def reflectedType (declared : Text) : Text :=
  let base := (Text.upper declared).takeWhile fun c => Text.isWordChar c || c = ' '
  match knownTypes.find? (·.1.toList = base) with
  | some (_, name) => name.toList
  | none =>
    match typeParts.find? fun entry => Text.isInfix entry.1.toList base with
    | some (_, name) => name.toList
    | none => if base.isEmpty then "null".toList else "numeric".toList

end Database

end SchemaDoc
