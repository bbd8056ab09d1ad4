import Joinery.Sql.Dialect
import Joinery.Text.LetterCase

/-!
The words a statement is made of, before a dialect is chosen, and their text in
a dialect. A statement is the plain concatenation of its tokens, spaces included.
-/
namespace Joinery.Sql

inductive Keyword where
  | select | source | filter | and | or | not | named | on | join | inner | left | right
  | outer | orderBy | asc | desc | among | isNull | isNotNull | count
deriving DecidableEq, Repr

def Keyword.text : Keyword → String
  | .select => "SELECT"
  | .source => "FROM"
  | .filter => "WHERE"
  | .and => "AND"
  | .or => "OR"
  | .not => "NOT"
  | .named => "AS"
  | .on => "ON"
  | .join => "JOIN"
  | .inner => "INNER"
  | .left => "LEFT"
  | .right => "RIGHT"
  | .outer => "OUTER"
  | .orderBy => "ORDER BY"
  | .asc => "ASC"
  | .desc => "DESC"
  | .among => "IN"
  | .isNull => "IS NULL"
  | .isNotNull => "IS NOT NULL"
  | .count => "COUNT"

inductive Symbol where
  | comma | dot | star | lparen | rparen | eq | ne | lt | gt | le | ge | space
deriving DecidableEq, Repr

def Symbol.text : Symbol → String
  | .comma => ","
  | .dot => "."
  | .star => "*"
  | .lparen => "("
  | .rparen => ")"
  | .eq => "="
  | .ne => "<>"
  | .lt => "<"
  | .gt => ">"
  | .le => "<="
  | .ge => ">="
  | .space => " "

inductive Token where
  | keyword (k : Keyword)
  | symbol (s : Symbol)
  | ident (name : String)
  | int (n : Int64)
  | string (s : String)
  | param (n : Nat)
  | fullOuterJoin
  | function (name : String)
  | raw (sql : String)
deriving DecidableEq, Repr

namespace Token

def select : Token := .keyword .select
def source : Token := .keyword .source
def filter : Token := .keyword .filter
def and : Token := .keyword .and
def or : Token := .keyword .or
def not : Token := .keyword .not
def named : Token := .keyword .named
def on : Token := .keyword .on
def join : Token := .keyword .join
def orderBy : Token := .keyword .orderBy
def among : Token := .keyword .among
def comma : Token := .symbol .comma
def dot : Token := .symbol .dot
def star : Token := .symbol .star
def lparen : Token := .symbol .lparen
def rparen : Token := .symbol .rparen
def eq : Token := .symbol .eq
def space : Token := .symbol .space

/-- A full outer join is written with its usual words even where the dialect has no
    keyword for it; the compiler refuses it before that. -/
def text (d : Dialect) : Token → List Char
  | .keyword k => k.text.toList
  | .symbol s => s.text.toList
  | .ident name => d.quoteIdentifier name
  | .int n => (toString n.toInt).toList
  | .string s => d.quoteString s
  | .param n => d.placeholder n
  | .fullOuterJoin => (d.fullOuterJoin?.getD "FULL OUTER JOIN").toList
  | .function name => (Text.upper name).toList
  | .raw sql => sql.toList

def qualified (qualifier column : String) : List Token :=
  [.ident qualifier, dot, .ident column]

end Token

def serialize (d : Dialect) (tokens : List Token) : String :=
  String.ofList (tokens.flatMap (Token.text d))

end Joinery.Sql
