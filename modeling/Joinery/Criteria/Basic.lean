import Joinery.Value.Basic

/-!
Filters over the rows of one store. Every leaf of a filter tree says whether it
keeps the rows its predicate accepts or the others, so that a filter is inverted
without changing its form: leaves change polarity, groups change their connective.
-/
namespace Joinery

inductive Connective where
  | and | or
deriving DecidableEq, Repr

instance : Inhabited Connective := ⟨.and⟩

def Connective.flipped : Connective → Connective
  | .and => .or
  | .or => .and

inductive Relation where
  | equal | greater | lesser
deriving DecidableEq, Repr

def Relation.name : Relation → String
  | .equal => "Equal"
  | .greater => "Greater"
  | .lesser => "Lesser"

def Relation.converse : Relation → Relation
  | .equal => .equal
  | .greater => .lesser
  | .lesser => .greater

structure Shape where
  wkt : String
  srid : Option Int64
deriving DecidableEq, Repr

inductive Expression where
  | inList (property : String) (values : List Value) (positive : Bool)
  | within (property : String) (shape : Shape) (positive : Bool)
  | compare (property : String) (relation : Relation) (value : Value) (positive : Bool)
  /-- Without an alias the other property is one of the same store. -/
  | compareProperty (property : String) (relation : Relation) (otherAlias : Option String)
      (otherProperty : String) (positive : Bool)
  | isNull (property : String) (positive : Bool)
  | group (connective : Connective) (items : List Expression)

instance : Inhabited Expression := ⟨.group .and []⟩

/-- A list of expressions under one connective. An empty conjunction accepts every
    row and an empty disjunction none. -/
structure Criteria where
  connective : Connective
  items : List Expression

namespace Expression

/-- Groups always count as positive; their negation lies in their members. -/
def positive : Expression → Bool
  | .inList _ _ p => p
  | .within _ _ p => p
  | .compare _ _ _ p => p
  | .compareProperty _ _ _ _ p => p
  | .isNull _ p => p
  | .group _ _ => true

mutual

def invert : Expression → Expression
  | .inList property values p => .inList property values (!p)
  | .within property shape p => .within property shape (!p)
  | .compare property relation value p => .compare property relation value (!p)
  | .compareProperty property relation aliasName other p =>
    .compareProperty property relation aliasName other (!p)
  | .isNull property p => .isNull property (!p)
  | .group connective items => .group connective.flipped (invertAll items)

def invertAll : List Expression → List Expression
  | [] => []
  | e :: rest => invert e :: invertAll rest

end

mutual

/-- Equality with literals compared as values, so that a NaN differs from itself. -/
def agrees : Expression → Expression → Bool
  | .inList p vs b, .inList q ws c => p == q && Value.agreeAll vs ws && b == c
  | .within p s b, .within q t c => p == q && s == t && b == c
  | .compare p r v b, .compare q s w c => p == q && r == s && v.agrees w && b == c
  | .compareProperty p r a o b, .compareProperty q s a' o' c =>
    p == q && r == s && a == a' && o == o' && b == c
  | .isNull p b, .isNull q c => p == q && b == c
  | .group c es, .group d fs => c == d && agreeAll es fs
  | _, _ => false

def agreeAll : List Expression → List Expression → Bool
  | [], [] => true
  | e :: es, f :: fs => agrees e f && agreeAll es fs
  | _, _ => false

end

def negation (p : Bool) : String := if p then "" else "NOT "

def separator : Connective → String
  | .and => " AND "
  | .or => " OR "

mutual

def display : Expression → String
  | .inList property values p =>
    negation p ++ property ++ " IN " ++ Value.bracketed (values.map Value.describe)
  | .within property shape p => negation p ++ property ++ " WITHIN " ++ shape.wkt
  | .compare property relation value p =>
    negation p ++ property ++ " " ++ relation.name ++ " " ++ value.display
  | .compareProperty property relation none other p =>
    negation p ++ property ++ " " ++ relation.name ++ " " ++ other
  | .compareProperty property relation (some aliasName) other p =>
    negation p ++ property ++ " " ++ relation.name ++ " " ++ aliasName ++ "." ++ other
  | .isNull property p => negation p ++ property ++ " IS NULL"
  | .group connective items =>
    "(" ++ (separator connective).intercalate (displayAll items) ++ ")"

def displayAll : List Expression → List String
  | [] => []
  | e :: rest => display e :: displayAll rest

end

end Expression

namespace Criteria

def isEmpty (c : Criteria) : Bool := c.items.isEmpty

def filters (c : Criteria) : Bool := !(c.isEmpty && c.connective = .and)

def invert (c : Criteria) : Criteria := ⟨c.connective.flipped, Expression.invertAll c.items⟩

def agrees (c d : Criteria) : Bool :=
  c.connective == d.connective && Expression.agreeAll c.items d.items

def display (c : Criteria) : String :=
  (Expression.separator c.connective).intercalate (Expression.displayAll c.items)

end Criteria
end Joinery
