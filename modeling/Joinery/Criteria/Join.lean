import Joinery.Criteria.Basic

/-!
How a store is attached to the stores before it: the kind of join, the relations
of its condition, and a filter on its own rows. A relation always names the other
store by its alias.
-/
namespace Joinery

inductive JoinType where
  | inner | leftOuter | rightOuter | fullOuter
deriving DecidableEq, Repr

def JoinType.isOuter : JoinType → Bool
  | .inner => false
  | _ => true

def JoinType.display : JoinType → String
  | .inner => "inner"
  | .leftOuter => "left outer"
  | .rightOuter => "right outer"
  | .fullOuter => "full outer"

inductive JoinExpression where
  /-- A relation between a property of the other store and one of the joined store;
      `otherIsLeft` says which of the two stands on the left. -/
  | properties (left right : String) (relation : Relation) (otherAlias : String)
      (otherIsLeft : Bool) (positive : Bool)
  | value (property : String) (literal : Value) (relation : Relation)
      (otherAlias : String) (positive : Bool)

namespace JoinExpression

def otherAlias : JoinExpression → String
  | .properties _ _ _ aliasName _ _ => aliasName
  | .value _ _ _ aliasName _ => aliasName

def relation : JoinExpression → Relation
  | .properties _ _ r _ _ _ => r
  | .value _ _ r _ _ => r

def positive : JoinExpression → Bool
  | .properties _ _ _ _ _ p => p
  | .value _ _ _ _ p => p

def withAlias (aliasName : String) : JoinExpression → JoinExpression
  | .properties l r relation _ side p => .properties l r relation aliasName side p
  | .value property literal relation _ p => .value property literal relation aliasName p

def invert : JoinExpression → JoinExpression
  | .properties l r relation aliasName side p => .properties l r relation aliasName side (!p)
  | .value property literal relation aliasName p => .value property literal relation aliasName (!p)

def flip : JoinExpression → JoinExpression
  | .properties l r relation aliasName side p =>
    .properties r l relation.converse aliasName (!side) p
  | .value property literal relation aliasName p => .value property literal relation aliasName p

def agrees : JoinExpression → JoinExpression → Bool
  | .properties l r o a s p, .properties l' r' o' a' s' p' =>
    l == l' && r == r' && o == o' && a == a' && s == s' && p == p'
  | .value q v o a p, .value q' v' o' a' p' =>
    q == q' && v.agrees v' && o == o' && a == a' && p == p'
  | _, _ => false

def display : JoinExpression → String
  | .properties l r relation aliasName true p =>
    Expression.negation p ++ aliasName ++ "." ++ l ++ " " ++ relation.name ++ " " ++ r
  | .properties l r relation aliasName false p =>
    Expression.negation p ++ l ++ " " ++ relation.name ++ " " ++ aliasName ++ "." ++ r
  | .value property literal relation aliasName p =>
    Expression.negation p ++ aliasName ++ "." ++ property ++ " " ++ relation.name ++ " "
      ++ literal.display

end JoinExpression

/-- What is needed to attach one store. A join type has no default: a store joined
    without one is refused when the join is compiled. -/
structure JoinCriteria where
  aliasName : Option String
  joinType : Option JoinType
  connective : Connective
  on : List JoinExpression
  criteria : Option Criteria

end Joinery
