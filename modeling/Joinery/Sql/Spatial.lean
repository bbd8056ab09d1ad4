import Joinery.Sql.Token

/-!
The condition that a column lies within a bound geometry. Some dialects have none,
and one has no use for the spatial reference.
-/
namespace Joinery.Sql

def reference (srid : Option Int64) : List Token :=
  match srid with
  | none => []
  | some n => [Token.comma, Token.space, .int n]

def containment (contains build : String) (column : List Token) (param : Nat)
    (srid : Option Int64) : List Token :=
  [.function contains, Token.lparen] ++ column
    ++ [Token.comma, Token.space, .function build, Token.lparen, .param param]
    ++ reference srid ++ [Token.rparen, Token.rparen]

/-- A method of the column; here the reference is required and 0 stands for none. -/
def containmentMethod (column : List Token) (param : Nat) (srid : Option Int64) :
    List Token :=
  column ++ [Token.dot, .raw "STWithin", Token.lparen, .raw "geometry::STGeomFromText",
      Token.lparen, .param param]
    ++ reference (some (srid.getD 0))
    ++ [Token.rparen, Token.rparen, Token.space, Token.eq, Token.space, .int 1]

def within? (d : Dialect) (column : List Token) (param : Nat) (srid : Option Int64) :
    Option (List Token) :=
  match d with
  | .ansi => none
  | .sqlite => none
  | .postgres => some (containment "ST_Within" "ST_GeomFromText" column param srid)
  | .mysql => some (containment "ST_Within" "ST_GeomFromText" column param srid)
  | .duckdb => some (containment "ST_Within" "ST_GeomFromText" column param none)
  | .tsql => some (containmentMethod column param srid)
  | .oracle =>
    some (containment "SDO_INSIDE" "SDO_GEOMETRY" column param srid
      ++ [Token.space, Token.eq, Token.space, .string "TRUE"])

end Joinery.Sql
