import SchemaDoc.Database
import SchemaDoc.FileTree

/-!
Contract: addresses of databases.

An address names a dialect and, after a plus sign, a driver; a user with a password and a host with
a port may follow, and then the database. Of the dialects only that of database files can be opened
here; an address of it names no host.

Owns:
- the parts of an address;
- the order of faults: the address is read, then the dialect is looked up, then its driver, and the
  host comes last.
-/

namespace SchemaDoc

structure Address where
  /-- The dialect and its driver, with a point between them. -/
  scheme : Text
  user : Option Text
  password : Option Text
  host : Option Text
  port : Option Text
  database : Option Text
deriving DecidableEq, Repr

namespace Address

/-- Why an address cannot be used. -/
inductive Fault where
  | unreadable
  | portNotNumber
  | portEmpty
  /-- More than one driver is named. -/
  | severalDrivers
  | unknownDialect (scheme : Text)
  /-- The driver of the dialect is not there. -/
  | noDriver (scheme : Text)
  /-- The address of a database file names a user or a host. -/
  | hostGiven (address : Text)
deriving DecidableEq, Repr

/-! ## Parts -/

/-- The dialect and the driver that an address starts with, and what follows. -/
def readScheme (text : Text) : Option (Text × Text) :=
  let scheme := text.takeWhile fun c => Text.isWordChar c || c = '+'
  match text.drop scheme.length with
  | ':' :: '/' :: '/' :: rest => if scheme.isEmpty then none else some (scheme, rest)
  | _ => none

/-- A text before and behind the last occurrence of a character. -/
def splitAtLast? (mark : Char) (text : Text) : Option (Text × Text) :=
  let behind := (text.reverse.takeWhile (· != mark)).reverse
  if behind.length = text.length then none
  else some (text.take (text.length - behind.length - 1), behind)

/-- The user with the password, as far as given, and what follows the at sign. -/
def readUser (text : Text) : Option Text × Option Text × Text :=
  let run := text.takeWhile fun c => c != ':' && c != '/'
  let rest := text.drop run.length
  let password := (rest.drop 1).takeWhile (· != '@')
  match rest, (rest.drop 1).drop password.length with
  | ':' :: _, '@' :: after => (some run, some password, after)
  | _, _ =>
    match splitAtLast? '@' run with
    | some (user, behind) => (some user, none, behind ++ rest)
    | none => (none, none, text)

/-- A host in brackets. -/
def readBracketed (text : Text) : Option (Text × Text) :=
  match text with
  | '[' :: rest =>
    let run := rest.takeWhile fun c => c != '/' && c != '?'
    (splitAtLast? ']' run).bind fun (host, behind) =>
      if host.isEmpty then none else some (host, behind ++ rest.drop run.length)
  | _ => none

/-- The host, as far as given, and what follows. -/
def readHost (text : Text) : Option Text × Text :=
  match readBracketed text with
  | some (host, rest) => (some host, rest)
  | none =>
    let host := text.takeWhile fun c => c != '/' && c != ':' && c != '?'
    if host.isEmpty then (none, text) else (some host, text.drop host.length)

/-- The port, as far as given, and what follows. -/
def readPort : Text → Option Text × Text
  | ':' :: rest =>
    let port := rest.takeWhile fun c => c != '/' && c != '?'
    (some port, rest.drop port.length)
  | rest => (none, rest)

/-- The parts of an address. -/
def parse (text : Text) : Except Fault Address :=
  match readScheme text with
  | none => .error .unreadable
  | some (scheme, rest) =>
    let (user, password, rest) := readUser rest
    let (host, rest) := readHost rest
    let (port, rest) := readPort rest
    let database := match rest with
      | '/' :: rest => some (rest.takeWhile (· != '?'))
      | _ => none
    if port = some [] then .error .portEmpty
    else if (port.map fun digits => digits.all Char.isDigit) = some false then
      .error .portNotNumber
    else .ok ⟨Text.replaceChar '+' '.' scheme, user, password, host, port, database⟩

/-! ## Dialects -/

/-- The dialects with their drivers, the standard one first. -/
def dialects : List (Text × List Text) :=
  [("sqlite", ["pysqlite", "aiosqlite", "pysqlcipher"]),
    ("mysql", ["mysqldb", "pymysql", "mysqlconnector", "mariadbconnector", "cymysql", "aiomysql",
      "asyncmy", "pyodbc"]),
    ("mariadb", ["mysqldb", "pymysql", "mysqlconnector", "mariadbconnector", "cymysql",
      "aiomysql", "asyncmy", "pyodbc"]),
    ("postgresql", ["psycopg2", "psycopg", "psycopg_async", "asyncpg", "pg8000",
      "psycopg2cffi"]),
    ("oracle", ["cx_oracle", "oracledb", "oracledb_async"]),
    ("mssql", ["pyodbc", "pymssql", "aioodbc"])]

/-- The schemes whose driver is there. -/
def openSchemes : List Text := ["sqlite", "sqlite.pysqlite"]

/-- The dialect and the driver of a scheme are known. -/
def isKnown (dialect : Text) (driver : Option Text) : Bool :=
  dialects.any fun (name, drivers) =>
    name = dialect && (driver.map drivers.contains).getD true

/-- Looks up the dialect and the driver of an address. -/
def checkScheme (scheme : Text) : Except Fault Unit :=
  let known := match Text.splitOnChar '.' scheme with
    | [dialect] => some (isKnown dialect none)
    | [dialect, driver] => some (isKnown dialect (some driver))
    | _ => none
  match known with
  | none => .error .severalDrivers
  | some false => .error (.unknownDialect scheme)
  | some true => if openSchemes.contains scheme then .ok () else .error (.noDriver scheme)

/-- A part is given and not empty. -/
def isFilled (part : Option Text) : Bool :=
  !(part.getD []).isEmpty

/-- The file of the database at an address; a database in memory has none. -/
def file? (text : Text) : Except Fault (Option Path) := do
  let address ← parse text
  checkScheme address.scheme
  if isFilled address.user || isFilled address.password || isFilled address.host ||
      isFilled address.port then
    throw (.hostGiven text)
  match address.database.getD [] with
  | [] => return none
  | place => return if place = ":memory:".toList then none else some (Path.parse place)

/-- The text of a fault that is reported, if it is one of those. -/
def Fault.report? : Fault → Option Text
  | .unreadable => some "Could not parse SQLAlchemy URL from given URL string"
  | .unknownDialect scheme => some ("Can't load plugin: sqlalchemy.dialects:" ++ scheme)
  | .hostGiven address =>
    some ("Invalid SQLite URL: " ++ address ++ "\nValid SQLite URL forms are\n" ++
      " sqlite:///:memory:\n sqlite:////absolute/path/to/file.db")
  | _ => none

end Address

end SchemaDoc
