import Joinery.Proofs.Criteria.Tree
import Joinery.Proofs.Criteria.Truth
import Joinery.Sql.Statement

/-!
What filters and join expressions mean on a row, said without tokens or parameters. A
meaning is missing where a property, an alias or a conversion is missing. Inversion
negates the meaning, unknown staying unknown.
-/
namespace Joinery

/-- The spatial reference that a dialect hands on: one always needs a reference, and one
    has no use for it. -/
def Dialect.referenceUsed (d : Dialect) (srid : Option Int64) : Option Int64 :=
  match d with
  | .tsql => some (srid.getD 0)
  | .duckdb => none
  | _ => srid

namespace Sql

namespace Seat

def field (w : World) (s : Seat) (property : String) : Option Value :=
  (s.member.mapping.column? property).map fun c => w.cell s.letter c.name

def literal (s : Seat) (property : String) (v : Value) : Option Value :=
  (s.member.mapping.column? property).bind fun c => (v.coerce c.type).toOption

/-- A comparison with a literal. To equal null is to be null. -/
def literalMeaning (w : World) (s : Seat) (property : String) (relation : Relation)
    (v : Value) (positive : Bool) : Option Truth :=
  (s.field w property).bind fun x =>
    if v.isNull && relation = .equal then some (.signed positive (.ofBool x.isNull))
    else (s.literal property v).map fun y => .signed positive (w.test relation.accepts x y)

end Seat

def columnsMeaning (w : World) (left : Seat) (property : String) (relation : Relation)
    (positive : Bool) (right : Seat) (other : String) : Option Truth :=
  (left.field w property).bind fun x =>
    (right.field w other).map fun y => .signed positive (w.test relation.accepts x y)

def Plan.otherStore (p : Plan) (s : Seat) : Option String → Option Seat
  | none => some s
  | some aliasName => (p.resolve aliasName).toOption

mutual

def expressionMeaning (w : World) (d : Dialect) (p : Plan) (s : Seat) :
    Expression → Option Truth
  | .inList property values positive =>
    if values.isEmpty then some (.signed positive .no)
    else
      (s.field w property).bind fun x =>
        (values.mapM (s.literal property)).map fun vs => .signed positive (w.oneOf x vs)
  | .within property shape positive =>
    (s.field w property).map fun x =>
      .signed positive (w.inside x (.text shape.wkt) (d.referenceUsed shape.srid))
  | .compare property relation v positive => s.literalMeaning w property relation v positive
  | .compareProperty property relation aliasName other positive =>
    (p.otherStore s aliasName).bind fun o =>
      columnsMeaning w s property relation positive o other
  | .isNull property positive =>
    (s.field w property).map fun x => .signed positive (.ofBool x.isNull)
  | .group connective items => (expressionsMeaning w d p s items).map connective.fold

def expressionsMeaning (w : World) (d : Dialect) (p : Plan) (s : Seat) :
    List Expression → Option (List Truth)
  | [] => some []
  | e :: rest =>
    (expressionMeaning w d p s e).bind fun t =>
      (expressionsMeaning w d p s rest).map fun ts => t :: ts

end

def criteriaMeaning (w : World) (d : Dialect) (p : Plan) (s : Seat) (c : Criteria) :
    Option Truth :=
  (expressionsMeaning w d p s c.items).map c.connective.fold

def joinMeaning (w : World) (p : Plan) (s : Seat) (e : JoinExpression) : Option Truth :=
  (p.resolve e.otherAlias).toOption.bind fun other =>
    match e with
    | .properties left right relation _ otherIsLeft positive =>
      if otherIsLeft then columnsMeaning w other left relation positive s right
      else columnsMeaning w s left relation positive other right
    | .value property literal relation _ positive =>
      other.literalMeaning w property relation literal positive

def onMeaning (w : World) (p : Plan) (s : Seat) : Option Truth :=
  (s.member.on.mapM (joinMeaning w p s)).map s.member.connective.fold

def filterMeaning (w : World) (d : Dialect) (p : Plan) (s : Seat) : Option Truth :=
  match s.member.criteria with
  | none => some .yes
  | some c => criteriaMeaning w d p s c

def whereMeaning (w : World) (d : Dialect) (p : Plan) : Option Truth :=
  (p.seats.mapM (filterMeaning w d p)).map Connective.and.fold

variable {w : World} {d : Dialect} {p : Plan} {s : Seat}

theorem expressionsMeaning_eq_mapM (items : List Expression) :
    expressionsMeaning w d p s items = items.mapM (expressionMeaning w d p s) := by
  induction items with
  | nil => rfl
  | cons e rest ih =>
    rw [expressionsMeaning, ih, List.mapM_cons]
    cases expressionMeaning w d p s e <;> cases rest.mapM (expressionMeaning w d p s) <;> rfl

theorem fold_mapM_cons {α : Type} (connective : Connective) (f : α → Option Truth) (x : α)
    (xs : List α) :
    ((x :: xs).mapM f).map connective.fold =
      (f x).bind fun t => ((xs.mapM f).map connective.fold).map (connective.combine t) := by
  rw [List.mapM_cons]
  cases f x <;> cases xs.mapM f <;> rfl

theorem field_of_column {property : String} {c : Column}
    (mapped : s.column property = .ok c) (w : World) :
    s.field w property = some (w.cell s.letter c.name) := by
  unfold Seat.column at mapped
  unfold Seat.field
  split at mapped
  · rename_i found
    cases mapped
    rw [found]
    rfl
  · exact absurd mapped (by simp)

theorem literal_of_coerce {property : String} {c : Column} {v x : Value}
    (mapped : s.column property = .ok c) (coerced : s.coerce c v = .ok x) :
    s.literal property v = some x := by
  unfold Seat.column at mapped
  unfold Seat.coerce at coerced
  unfold Seat.literal
  split at mapped
  · rename_i found
    cases mapped
    rw [found, Option.bind_some]
    split at coerced
    · rename_i converted
      cases coerced
      rw [converted]
      rfl
    · exact absurd coerced (by simp)
  · exact absurd mapped (by simp)

theorem coerceAll_cons {c : Column} {v : Value} {rest ws : List Value} :
    coerceAll s c (v :: rest) = .ok ws ↔
      ∃ x xs, s.coerce c v = .ok x ∧ coerceAll s c rest = .ok xs ∧ ws = x :: xs := by
  rw [coerceAll]
  cases s.coerce c v with
  | error fault => simp
  | ok x => cases coerceAll s c rest <;> simp [eq_comm]

theorem literals_of_coerceAll {property : String} {c : Column} {vs ws : List Value}
    (mapped : s.column property = .ok c) (coerced : coerceAll s c vs = .ok ws) :
    vs.mapM (s.literal property) = some ws := by
  induction vs generalizing ws with
  | nil =>
    cases coerced
    rfl
  | cons v rest ih =>
    obtain ⟨x, xs, first, others, rfl⟩ := coerceAll_cons.mp coerced
    rw [List.mapM_cons, literal_of_coerce mapped first, ih others]
    rfl

theorem length_coerceAll {c : Column} {vs ws : List Value} (coerced : coerceAll s c vs = .ok ws) :
    ws.length = vs.length := by
  induction vs generalizing ws with
  | nil =>
    cases coerced
    rfl
  | cons v rest ih =>
    obtain ⟨x, xs, -, others, rfl⟩ := coerceAll_cons.mp coerced
    rw [List.length_cons, List.length_cons, ih others]

theorem literalMeaning_not (property : String) (relation : Relation) (v : Value)
    (positive : Bool) :
    s.literalMeaning w property relation v (!positive) =
      (s.literalMeaning w property relation v positive).map Truth.not := by
  unfold Seat.literalMeaning
  cases s.field w property with
  | none => rfl
  | some x =>
    simp only [Option.bind_some]
    split
    · rw [Truth.signed_not, Option.map_some]
    · rw [Option.map_map]
      exact congrArg (Option.map · _) (funext fun y => Truth.signed_not positive _)

theorem columnsMeaning_not (left : Seat) (property : String) (relation : Relation)
    (positive : Bool) (right : Seat) (other : String) :
    columnsMeaning w left property relation (!positive) right other =
      (columnsMeaning w left property relation positive right other).map Truth.not := by
  unfold columnsMeaning
  cases left.field w property <;> cases right.field w other <;> simp [Truth.signed_not]

theorem mapM_not {α : Type} {f g : α → Option Truth} (xs : List α)
    (negated : ∀ x ∈ xs, g x = (f x).map Truth.not) :
    xs.mapM g = (xs.mapM f).map (List.map Truth.not) := by
  induction xs with
  | nil => rfl
  | cons x xs ih =>
    have head := negated x (by simp)
    have tail := ih fun y member => negated y (by simp [member])
    rw [List.mapM_cons, List.mapM_cons, head, tail]
    cases f x <;> cases xs.mapM f <;> rfl

theorem items_meaning_not (connective : Connective) (items : List Expression)
    (negated : ∀ e ∈ items, expressionMeaning w d p s e.invert =
      (expressionMeaning w d p s e).map Truth.not) :
    (expressionsMeaning w d p s (Expression.invertAll items)).map connective.flipped.fold =
      ((expressionsMeaning w d p s items).map connective.fold).map Truth.not := by
  have members : items.mapM (expressionMeaning w d p s ∘ Expression.invert) =
      (items.mapM (expressionMeaning w d p s)).map (List.map Truth.not) := mapM_not items negated
  rw [Expression.invertAll_eq_map, expressionsMeaning_eq_mapM, expressionsMeaning_eq_mapM,
    List.mapM_map, members, Option.map_map, Option.map_map]
  exact congrArg (Option.map · _) (funext fun ts => connective.fold_flipped ts)

theorem expressionMeaning_invert (e : Expression) :
    expressionMeaning w d p s e.invert = (expressionMeaning w d p s e).map Truth.not := by
  induction e with
  | inList property values positive =>
    simp only [Expression.invert, expressionMeaning]
    split
    · rw [Truth.signed_not, Option.map_some]
    · cases s.field w property <;> cases values.mapM (s.literal property) <;>
        simp [Truth.signed_not]
  | within property shape positive =>
    simp only [Expression.invert, expressionMeaning]
    cases s.field w property <;> simp [Truth.signed_not]
  | compare property relation v positive => exact literalMeaning_not property relation v positive
  | compareProperty property relation aliasName other positive =>
    simp only [Expression.invert, expressionMeaning]
    cases p.otherStore s aliasName with
    | none => rfl
    | some o => exact columnsMeaning_not s property relation positive o other
  | isNull property positive =>
    simp only [Expression.invert, expressionMeaning]
    cases s.field w property <;> simp [Truth.signed_not]
  | group connective items ih => exact items_meaning_not connective items ih

theorem criteriaMeaning_invert (c : Criteria) :
    criteriaMeaning w d p s c.invert = (criteriaMeaning w d p s c).map Truth.not :=
  items_meaning_not c.connective c.items fun e _ => expressionMeaning_invert e

theorem joinMeaning_invert (e : JoinExpression) :
    joinMeaning w p s e.invert = (joinMeaning w p s e).map Truth.not := by
  cases e with
  | properties left right relation aliasName otherIsLeft positive =>
    simp only [joinMeaning, JoinExpression.invert, JoinExpression.otherAlias]
    cases (p.resolve aliasName).toOption with
    | none => rfl
    | some other => cases otherIsLeft <;> exact columnsMeaning_not _ _ _ _ _ _
  | value property literal relation aliasName positive =>
    simp only [joinMeaning, JoinExpression.invert, JoinExpression.otherAlias]
    cases (p.resolve aliasName).toOption with
    | none => rfl
    | some other => exact literalMeaning_not property relation literal positive

def Sample.authors : Member where
  aliasName := "authors"
  mapping := {
    table := "authors"
    columns := [⟨"id", "id", .integer, true⟩, ⟨"name", "name", .text, false⟩]
    table_ne := by decide
    columns_ne := by decide
    properties_nodup := by decide
    names_nodup := by decide }
  joinType := none
  connective := .and
  on := []
  criteria := some ⟨.or, [.group .and [], .compare "name" .equal .null true]⟩

def Sample.books : Member where
  aliasName := "books"
  mapping := {
    table := "books"
    columns := [⟨"id", "id", .integer, true⟩, ⟨"author", "author_id", .integer, false⟩,
      ⟨"place", "place", .blob, false⟩]
    table_ne := by decide
    columns_ne := by decide
    properties_nodup := by decide
    names_nodup := by decide }
  joinType := some .leftOuter
  connective := .or
  on := [.properties "id" "author" .equal "authors" true true,
    .value "id" (.text "7") .lesser "authors" false]
  criteria := some ⟨.and, [.inList "id" [.integer 1, .text "2"] false,
    .within "place" ⟨"POINT(1 2)", some 4326⟩ false]⟩

def Sample.plan : Plan := ⟨[Sample.authors, Sample.books]⟩

theorem Sample.accepted : Plan.ofMembers [authors, books] = .ok plan := rfl

end Sql
end Joinery
