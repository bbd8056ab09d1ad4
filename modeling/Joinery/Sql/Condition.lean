import Joinery.Sql.Plan
import Joinery.Sql.Spatial

/-!
Conditions: filter trees and join expressions as tokens. Negation is never a prefix
of a whole tree; each leaf is written in its complementary form, so that unknown
stays unknown under inversion. Literals become parameters of the type of the column
they are compared with.
-/
namespace Joinery.Sql
open Emission

def connectiveToken : Connective → Token
  | .and => Token.and
  | .or => Token.or

def comparison : Relation → Bool → Symbol
  | .equal, true => .eq
  | .equal, false => .ne
  | .greater, true => .gt
  | .greater, false => .le
  | .lesser, true => .lt
  | .lesser, false => .ge

def nullTest (positive : Bool) : Token :=
  .keyword (if positive then .isNull else .isNotNull)

def constant (holds : Bool) : Emission :=
  tokens [.int 1, Token.space, Token.eq, Token.space, .int (if holds then 1 else 0)]

def between (connective : Connective) : List Token :=
  [Token.space, connectiveToken connective, Token.space]

def parenthesized (e : Emission) : Emission :=
  tokens [Token.lparen] ++ e ++ tokens [Token.rparen]

def column (s : Seat) (property : String) : Emission :=
  require (s.column property) fun c => tokens (s.qualified c)

/-- Equality with null is written as a null test, since a comparison with null is
    never true. -/
def compareLiteral (s : Seat) (property : String) (relation : Relation) (v : Value)
    (positive : Bool) : Emission :=
  require (s.column property) fun c =>
    tokens (s.qualified c ++ [Token.space]) ++
      if v.isNull && relation = .equal then tokens [nullTest positive]
      else
        require (s.coerce c v) fun w =>
          tokens [.symbol (comparison relation positive), Token.space] ++ param w

def compareColumns (left : Seat) (property : String) (relation : Relation)
    (positive : Bool) (right : Seat) (other : String) : Emission :=
  column left property
    ++ tokens [Token.space, .symbol (comparison relation positive), Token.space]
    ++ column right other

def coerceAll (s : Seat) (c : Column) : List Value → Except Fault (List Value)
  | [] => .ok []
  | v :: rest =>
    match s.coerce c v with
    | .error fault => .error fault
    | .ok w =>
      match coerceAll s c rest with
      | .error fault => .error fault
      | .ok ws => .ok (w :: ws)

/-- No value is bound before all of them have been converted. -/
def membership (s : Seat) (property : String) (values : List Value) (positive : Bool) :
    Emission :=
  if values.isEmpty then constant (!positive)
  else
    require (s.column property) fun c =>
      require (coerceAll s c values) fun ws =>
        tokens (s.qualified c ++ [Token.space]
            ++ (if positive then [] else [Token.not, Token.space])
            ++ [Token.among, Token.space, Token.lparen])
          ++ separated [Token.comma, Token.space] (ws.map param)
          ++ tokens [Token.rparen]

def containmentIn (d : Dialect) (s : Seat) (property : String) (shape : Shape)
    (positive : Bool) : Emission :=
  require (s.column property) fun c => fun bound =>
    match within? d (s.qualified c) (bound + 1) shape.srid with
    | none => fail (.unsupported d (.containment property)) bound
    | some template =>
      ⟨if positive then template
        else [Token.not, Token.space, Token.lparen] ++ template ++ [Token.rparen],
        [.text shape.wkt], none⟩

def otherSeat (p : Plan) (s : Seat) : Option String → Except Fault Seat
  | none => .ok s
  | some aliasName => p.resolve aliasName

def combined (connective : Connective) (parts : List Emission) : Emission :=
  if parts.isEmpty then constant (connective = .and)
  else separated (between connective) parts

mutual

def expression (d : Dialect) (p : Plan) (s : Seat) : Expression → Emission
  | .inList property values positive => membership s property values positive
  | .within property shape positive => containmentIn d s property shape positive
  | .compare property relation v positive => compareLiteral s property relation v positive
  | .compareProperty property relation aliasName other positive =>
    require (otherSeat p s aliasName) fun o =>
      compareColumns s property relation positive o other
  | .isNull property positive =>
    column s property ++ tokens [Token.space, nullTest positive]
  | .group connective items =>
    parenthesized (combined connective (expressions d p s items))

def expressions (d : Dialect) (p : Plan) (s : Seat) : List Expression → List Emission
  | [] => []
  | e :: rest => expression d p s e :: expressions d p s rest

end

def criteria (d : Dialect) (p : Plan) (s : Seat) (c : Criteria) : Emission :=
  combined c.connective (expressions d p s c.items)

def joinExpression (p : Plan) (s : Seat) (e : JoinExpression) : Emission :=
  require (p.resolve e.otherAlias) fun other =>
    parenthesized
      (match e with
      | .properties left right relation _ otherIsLeft positive =>
        if otherIsLeft then compareColumns other left relation positive s right
        else compareColumns s left relation positive other right
      | .value property literal relation _ positive =>
        compareLiteral other property relation literal positive)

end Joinery.Sql
