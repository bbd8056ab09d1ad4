import Joinery.Sql.Dialect
import Joinery.Text.LetterCase

/-!
Database drivers and the descriptors that identify one database. Two stores can be
joined in one statement exactly when their descriptors are equal.
-/
namespace Joinery

inductive Driver where
  | sqlite | postgres | mysql | mssql | duckdb | oracle
deriving DecidableEq, Repr

namespace Driver

def name : Driver → String
  | .sqlite => "sqlite"
  | .postgres => "postgres"
  | .mysql => "mysql"
  | .mssql => "mssql"
  | .duckdb => "duckdb"
  | .oracle => "oracle"

def names : List (Driver × List String) := [
  (.sqlite, ["sqlite", "sqlite3"]),
  (.postgres, ["postgres", "postgresql", "pg"]),
  (.mysql, ["mysql", "mariadb"]),
  (.mssql, ["mssql", "sqlserver", "sql_server"]),
  (.duckdb, ["duckdb", "duck"]),
  (.oracle, ["oracle"])]

/-- Drivers are named in any case of letters. A refused name is given back in lower
    case. -/
def ofName (s : String) : Except String Driver :=
  let word := Text.lower s
  match names.find? fun entry => entry.2.contains word with
  | some entry => .ok entry.1
  | none => .error word

def refusal (word : String) : String :=
  "Unsupported driver: " ++ word
    ++ ". Supported: sqlite, postgres, mysql, mssql, duckdb, oracle"

def dialect : Driver → Dialect
  | .sqlite => .sqlite
  | .postgres => .postgres
  | .mysql => .mysql
  | .mssql => .tsql
  | .duckdb => .duckdb
  | .oracle => .oracle

def title : Driver → String
  | .sqlite => "Sqlite"
  | .postgres => "Postgres"
  | .mysql => "MySql"
  | .mssql => "MsSql"
  | .duckdb => "DuckDb"
  | .oracle => "Oracle"

end Driver

structure Descriptor where
  driver : Driver
  connection : String
deriving DecidableEq, Repr

namespace Descriptor

def isInMemory (d : Descriptor) : Bool :=
  d.driver = .sqlite ∧ (d.connection = "" ∨ d.connection = ":memory:")

def display (d : Descriptor) : String := d.driver.name ++ ":" ++ d.connection

end Descriptor
end Joinery
