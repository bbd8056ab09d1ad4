import Joinery.Proofs.Criteria.Tree
import Joinery.Sql.Statement

/-!
Stores without the literals of their conditions. Of a list of values only its length
is kept, of a shape only its reference, and of a literal only whether it is a null that
something is to be equal to.
-/
namespace Joinery

def Value.redacted (relation : Relation) (v : Value) : Value :=
  if v.isNull && relation = .equal then .null else .text ""

theorem Value.redacted_eq_iff {relation : Relation} {v v' : Value} :
    v.redacted relation = v'.redacted relation ↔ (relation = .equal → v.isNull = v'.isNull) := by
  unfold Value.redacted
  by_cases equal : relation = .equal
  · cases v.isNull <;> cases v'.isNull <;> simp [equal]
  · simp [equal]

namespace Expression

mutual

def redacted : Expression → Expression
  | .inList property values positive => .inList property (values.map fun _ => .null) positive
  | .within property shape positive => .within property ⟨"", shape.srid⟩ positive
  | .compare property relation v positive =>
    .compare property relation (v.redacted relation) positive
  | .compareProperty property relation aliasName other positive =>
    .compareProperty property relation aliasName other positive
  | .isNull property positive => .isNull property positive
  | .group connective items => .group connective (redactedAll items)

def redactedAll : List Expression → List Expression
  | [] => []
  | e :: rest => redacted e :: redactedAll rest

end

theorem redactedAll_eq_map (items : List Expression) : redactedAll items = items.map redacted := by
  induction items with
  | nil => rfl
  | cons e rest ih => rw [redactedAll, ih, List.map_cons]

end Expression

def Criteria.redacted (c : Criteria) : Criteria := ⟨c.connective, c.items.map Expression.redacted⟩

theorem Criteria.redacted_filters (c : Criteria) : c.redacted.filters = c.filters := by
  have sameLength : (c.items.map Expression.redacted).isEmpty = c.items.isEmpty := List.isEmpty_map
  exact congrArg (fun empty => !(empty && c.connective = .and)) sameLength

def JoinExpression.redacted : JoinExpression → JoinExpression
  | .properties left right relation aliasName otherIsLeft positive =>
    .properties left right relation aliasName otherIsLeft positive
  | .value property literal relation aliasName positive =>
    .value property (literal.redacted relation) relation aliasName positive

namespace Sql

def Member.redacted (m : Member) : Member :=
  { m with
    on := m.on.map JoinExpression.redacted
    criteria := m.criteria.map Criteria.redacted }

def Seat.redacted (s : Seat) : Seat := ⟨s.index, s.member.redacted⟩

def Plan.redacted (p : Plan) : Plan := ⟨p.members.map Member.redacted⟩

theorem Plan.seats_redacted (p : Plan) : p.redacted.seats = p.seats.map Seat.redacted := by
  have general (index : Nat) (ms : List Member) :
      seatsFrom index (ms.map Member.redacted) = (seatsFrom index ms).map Seat.redacted := by
    induction ms generalizing index with
    | nil => rfl
    | cons m ms ih =>
      rw [List.map_cons, seatsFrom, seatsFrom, ih, List.map_cons]
      rfl
  exact general 0 p.members

theorem Plan.resolve_redacted (p : Plan) (aliasName : String) :
    p.redacted.resolve aliasName = (p.resolve aliasName).map Seat.redacted := by
  have sameAlias : (fun s : Seat => s.member.aliasName == aliasName) ∘ Seat.redacted =
      fun s => s.member.aliasName == aliasName := rfl
  unfold Plan.resolve
  rw [p.seats_redacted, List.find?_map, sameAlias]
  cases p.seats.find? fun s => s.member.aliasName == aliasName <;> rfl

theorem filtered_redacted (p : Plan) :
    filtered p.redacted = (filtered p).map fun part => (part.1.redacted, part.2.redacted) := by
  unfold filtered
  rw [p.seats_redacted, List.filterMap_map, List.map_filterMap]
  congr 1
  funext s
  obtain ⟨index, m⟩ := s
  cases criteria : m.criteria with
  | none => simp [Seat.redacted, Member.redacted, criteria]
  | some c =>
    by_cases filters : c.filters = true
    · simp [Seat.redacted, Member.redacted, criteria, c.redacted_filters, filters]
    · simp [Seat.redacted, Member.redacted, criteria, c.redacted_filters, filters]

end Sql
end Joinery
