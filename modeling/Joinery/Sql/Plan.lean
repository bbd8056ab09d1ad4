import Joinery.Mapping.Basic
import Joinery.Sql.Query

/-!
The stores of a join in order, checked for their shape: two to twenty-six of them,
no alias used twice, and every store but the first attached by a join type and at
least one expression. Each store is known in the statement by a letter.
-/
namespace Joinery.Sql

structure Member where
  aliasName : String
  mapping : Mapping
  joinType : Option JoinType
  connective : Connective
  on : List JoinExpression
  criteria : Option Criteria

namespace Member

/-- The alias of a store is the name of its table unless another is given. -/
def root (mapping : Mapping) (criteria : Option Criteria) (aliasName : Option String) : Member :=
  ⟨aliasName.getD mapping.table, mapping, none, .and, [], criteria⟩

def joined (mapping : Mapping) (join : JoinCriteria) : Member :=
  ⟨join.aliasName.getD mapping.table, mapping, join.joinType, join.connective, join.on,
    join.criteria⟩

end Member

/-- A store as it is asked for, before its mapping is built. The first store of a
    join has criteria and perhaps an alias; the others are attached to it. -/
inductive Draft where
  | root (table : String) (columns : List Column) (criteria : Option Criteria)
      (aliasName : Option String)
  | joined (table : String) (columns : List Column) (join : JoinCriteria)

def Draft.member : Draft → Except Fault Member
  | .root table columns criteria aliasName =>
    (Mapping.ofColumns table columns).map fun m => Member.root m criteria aliasName
  | .joined table columns join =>
    (Mapping.ofColumns table columns).map fun m => Member.joined m join

def members : List Draft → Except Fault (List Member)
  | [] => .ok []
  | d :: rest =>
    match d.member with
    | .error fault => .error fault
    | .ok m => (members rest).map (m :: ·)

def letter (index : Nat) : String :=
  String.singleton (Char.ofNat (65 + index % maxStores))

def memberFault (seen : List String) : List Member → Option Fault
  | [] => none
  | m :: rest =>
    if m.aliasName ∈ seen then some (.aliasTaken m.aliasName)
    else if seen ≠ [] ∧ m.joinType = none then some (.joinTypeMissing m.aliasName)
    else if seen ≠ [] ∧ m.on.isEmpty then some (.joinConditionMissing m.aliasName)
    else memberFault (seen ++ [m.aliasName]) rest

structure Plan where
  members : List Member

structure Seat where
  index : Nat
  member : Member

namespace Plan

def ofMembers (members : List Member) : Except Fault Plan :=
  if members.length < 2 then .error (.tooFewStores members.length)
  else if maxStores < members.length then .error (.tooManyStores members.length)
  else
    match memberFault [] members with
    | some fault => .error fault
    | none => .ok ⟨members⟩

def seatsFrom (index : Nat) : List Member → List Seat
  | [] => []
  | m :: rest => ⟨index, m⟩ :: seatsFrom (index + 1) rest

def seats (p : Plan) : List Seat := seatsFrom 0 p.members

def resolve (p : Plan) (aliasName : String) : Except Fault Seat :=
  match p.seats.find? (·.member.aliasName == aliasName) with
  | some s => .ok s
  | none => .error (.unknownAlias aliasName)

end Plan

namespace Seat

def letter (s : Seat) : String := Sql.letter s.index

def column (s : Seat) (property : String) : Except Fault Column :=
  match s.member.mapping.column? property with
  | some c => .ok c
  | none => .error (.storePropertyNotMapped s.member.aliasName s.member.mapping.table property)

def qualified (s : Seat) (c : Column) : List Token := Token.qualified s.letter c.name

def coerce (s : Seat) (c : Column) (v : Value) : Except Fault Value :=
  match v.coerce c.type with
  | .ok w => .ok w
  | .error cause => .error (.valueNotBindable s.member.aliasName c.property c.type cause)

end Seat
end Joinery.Sql
