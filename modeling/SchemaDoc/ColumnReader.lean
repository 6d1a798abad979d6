import SchemaDoc.Database
import SchemaDoc.Fault
import SchemaDoc.Log.Record
import SchemaDoc.Text.Basic

/-!
Contract: the columns of a table, read in the way of the database's kind.

Owns:
- the kinds of databases that have a way of their own, by the names of their drivers;
- that a reading gives all columns or none: each name once, at the place where it first appears
  and with its last type, in lower case;
- the one warning about a driver that has no way of its own.
-/

namespace SchemaDoc

/-- The ways of reading columns. -/
inductive Dialect where
  | mysql
  | postgresql
  | sqlite
  | sqlServer
  | oracle
  | generic
deriving DecidableEq, Repr

namespace Dialect

/-- The names of the drivers that have a way of their own. -/
def drivers : List (Text × Dialect) :=
  [("mysql".toList, .mysql), ("mariadb".toList, .mysql), ("postgresql".toList, .postgresql),
    ("sqlite".toList, .sqlite), ("mssql".toList, .sqlServer), ("oracle".toList, .oracle)]

/-- The names of the drivers in order. -/
def available : List Text :=
  (drivers.map Prod.fst).mergeSort Text.notAfter

/-- The way for a driver's name, whatever its letter case; other names have the generic one. -/
def ofName (name : Text) : Dialect :=
  ((drivers.find? (·.1 = Text.lower name)).map Prod.snd).getD .generic

/-- The way for a driver that is asked for; an empty name asks for that of the connection. -/
def ofDriver (connected : Text) (driver : Option Text) : Dialect :=
  match driver.getD [] with
  | [] => ofName connected
  | name => ofName name

end Dialect

/-- What a query delivers: rows of a name and a type, which a fault may cut short. -/
structure Delivery where
  rows : List (Text × Option Text)
  fault : Option QueryFault
deriving DecidableEq, Repr

namespace Delivery

def ofRows (rows : List (Text × Option Text)) : Delivery := ⟨rows, none⟩

def ofFault (fault : QueryFault) : Delivery := ⟨[], some fault⟩

/-- Columns with one more row: an old name keeps its place and gets the new type. -/
def addColumn (columns : List (Text × Text)) (row : Text × Option Text) : List (Text × Text) :=
  let type := Text.lower (row.2.getD [])
  if columns.any (·.1 = row.1) then
    columns.map fun entry => if entry.1 = row.1 then (row.1, type) else entry
  else columns ++ [(row.1, type)]

/-- Takes rows into columns as they arrive; a fault behind them leaves none of the columns. -/
def gather (fault : Option QueryFault) (columns : List (Text × Text)) :
    List (Text × Option Text) → Except QueryFault (List (Text × Text))
  | row :: rest => gather fault (addColumn columns row) rest
  | [] =>
    match fault with
    | some fault => .error fault
    | none => .ok columns

/-- The columns of a complete delivery. -/
def columns (delivery : Delivery) : Except QueryFault (List (Text × Text)) :=
  gather delivery.fault [] delivery.rows

end Delivery

/-- A way of reading columns, the name of the connection's own dialect, and whether a warning about that
was given. -/
structure ColumnReader where
  dialect : Dialect
  connected : Text
  hasWarned : Bool
deriving DecidableEq, Repr

namespace ColumnReader

/-- The reader of a database, in the way that is asked for. -/
def create (database : Database) (driver : Option Text) : ColumnReader :=
  ⟨Dialect.ofDriver database.dialectName driver, database.dialectName, false⟩

/-- The rows of the catalogue that a condition selects. -/
def fromCatalogue (database : Database) (condition : Catalogue → CatalogueRow → Bool) : Delivery :=
  match database.catalogue with
  | none => .ofFault .failed
  | some catalogue =>
    .ofRows ((Database.select catalogue (condition catalogue)).map fun row =>
      (row.column, row.type))

/-- The answer of a reachable database about a table. -/
def query (dialect : Dialect) (database : Database) (table : Text) : Delivery :=
  match dialect with
  | .mysql => fromCatalogue database fun catalogue => Database.isCurrent catalogue table
  | .postgresql => fromCatalogue database fun catalogue => Database.isCurrent catalogue table
  | .sqlServer => fromCatalogue database fun _ => Database.isNamed table
  | .oracle => fromCatalogue database fun _ => Database.isNamed (Text.upper table)
  | .sqlite =>
    match database.describe table with
    | .ok columns => .ofRows (columns.map fun column => (column.name, some column.type))
    | .error fault => .ofFault fault
  | .generic =>
    match database.table? table with
    | some found => .ofRows (found.columns.map fun column =>
        (column.name, some (Database.reflectedType column.type)))
    | none => .ofFault (.noTable table)

/-- The rows that are read about a table. -/
def fetch (dialect : Dialect) (database : Database) (table : Text) : Delivery :=
  if database.isReachable then query dialect database table else .ofFault .failed

/-- The warning that a reader gives before its first reading. -/
def firstWarning (reader : ColumnReader) : List Log.Record :=
  if reader.dialect = .generic && !reader.hasWarned then
    [.warning ("Unsupported driver: " ++ reader.connected ++ ". Using inspector fallback.")]
  else []

/-- The columns of a complete delivery; an incomplete one gives none and an entry in the log. -/
def settle (table : Text) (delivery : Delivery) : List Log.Record × List (Text × Text) :=
  match delivery.columns with
  | .ok columns => ([], columns)
  | .error fault =>
    ([.error ("Failed to get columns for table '" ++ table ++ "': " ++ fault.message)], [])

/-- Reads the columns of a table, whatever the database delivers. -/
def readFrom (fetch : Dialect → Text → Delivery) (reader : ColumnReader) (table : Text) :
    ColumnReader × List Log.Record × List (Text × Text) :=
  let (records, columns) := settle table (fetch reader.dialect table)
  ({ reader with hasWarned := true }, reader.firstWarning ++ records, columns)

/-- Reads the columns of a table from a database. -/
def read (database : Database) (reader : ColumnReader) (table : Text) :
    ColumnReader × List Log.Record × List (Text × Text) :=
  readFrom (fun dialect => fetch dialect database) reader table

/-- The database has a table of this name. -/
def hasTable (database : Database) (table : Text) : Except Fault Bool :=
  if database.isReachable then .ok (database.table? table).isSome
  else .error (.schema table QueryFault.failed.message)

end ColumnReader

end SchemaDoc
