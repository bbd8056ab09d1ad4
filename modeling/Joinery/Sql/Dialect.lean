import Joinery.Sql.Quote

/-!
The dialects a statement can be written in, and where they differ: quotes,
placeholders, column aliases and the full outer join. The first is the standard,
kept as a reference; it reads columns back by their qualified names.
-/
namespace Joinery

inductive Dialect where
  | ansi | sqlite | postgres | mysql | tsql | duckdb | oracle
deriving DecidableEq, Repr

namespace Dialect

def all : List Dialect := [.ansi, .sqlite, .postgres, .mysql, .tsql, .duckdb, .oracle]

def name : Dialect → String
  | .ansi => "ansi"
  | .sqlite => "sqlite"
  | .postgres => "postgres"
  | .mysql => "mysql"
  | .tsql => "tsql"
  | .duckdb => "duckdb"
  | .oracle => "oracle"

def nameDelimiters : Dialect → Sql.Delimiters
  | .mysql => Sql.backticks
  | .tsql => Sql.brackets
  | _ => Sql.doubleQuotes

def isAscii (s : List Char) : Bool := s.all fun c => c.toNat < 128

def stringDelimiters (d : Dialect) (s : List Char) : Sql.Delimiters :=
  if d = .tsql ∧ isAscii s = false then Sql.nationalQuotes else Sql.singleQuotes

def quoteIdentifier (d : Dialect) (s : String) : List Char :=
  d.nameDelimiters.enclose s.toList

def quoteString (d : Dialect) (s : String) : List Char :=
  (d.stringDelimiters s.toList).enclose s.toList

def placeholder (d : Dialect) (n : Nat) : List Char :=
  match d with
  | .postgres => '$' :: Nat.toDigits 10 n
  | .tsql => '@' :: 'p' :: Nat.toDigits 10 n
  | .oracle => ':' :: Nat.toDigits 10 n
  | _ => ['?']

/-- Whether selected columns are given names of their own, because results report
    bare column names. -/
def aliasesColumns : Dialect → Bool
  | .ansi => false
  | _ => true

def marksAliases : Dialect → Bool
  | .oracle => false
  | _ => true

def fullOuterJoin? : Dialect → Option String
  | .mysql => none
  | _ => some "FULL OUTER JOIN"

end Dialect
end Joinery
