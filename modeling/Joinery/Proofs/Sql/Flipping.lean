import Joinery.Proofs.Sql.Inversion

/-!
Join expressions read from the other side. With the operands exchanged and the symbol
turned round, a comparison of two columns accepts the same rows, whichever store stands on
the left and whether or not the comparison is inverted. A comparison with a literal has
only one side and stays as it is.
-/
namespace Joinery

theorem Relation.converse_converse (r : Relation) : r.converse.converse = r := by
  cases r <;> rfl

theorem Relation.accepts_converse (r : Relation) (o : Ordering) :
    r.converse.accepts o = r.accepts o.swap := by
  cases r <;> cases o <;> rfl

theorem World.test_converse (w : World) (r : Relation) (x y : Value) :
    w.test r.converse.accepts x y = w.test r.accepts y x := by
  have := w.collation.total
  have swapped : w.collation.compare y x = (w.collation.compare x y).swap :=
    Std.OrientedCmp.eq_swap
  unfold World.test
  rw [Bool.or_comm, Relation.accepts_converse, swapped]

namespace JoinExpression

theorem flip_flip (e : JoinExpression) : e.flip.flip = e := by
  cases e <;> simp [flip, Relation.converse_converse]

theorem flip_invert (e : JoinExpression) : e.invert.flip = e.flip.invert := by
  cases e <;> rfl

theorem flip_withAlias (e : JoinExpression) (aliasName : String) :
    (e.withAlias aliasName).flip = e.flip.withAlias aliasName := by
  cases e <;> rfl

end JoinExpression

namespace Sql
open Emission Reader

def Symbol.converse : Symbol → Symbol
  | .lt => .gt
  | .gt => .lt
  | .le => .ge
  | .ge => .le
  | s => s

theorem comparison_converse (relation : Relation) (positive : Bool) :
    comparison relation.converse positive = (comparison relation positive).converse := by
  cases relation <;> cases positive <;> rfl

def compared (left : Seat × Column) (symbol : Symbol) (right : Seat × Column) : List Token :=
  [Token.lparen] ++ (left.1.qualified left.2 ++ [Token.space, .symbol symbol, Token.space]
    ++ right.1.qualified right.2) ++ [Token.rparen]

variable {d : Dialect} {p : Plan} {s : Seat}

theorem parenthesized_compareColumns (left right : Seat) (property other : String)
    (relation : Relation) (positive : Bool) (n : Nat) :
    parenthesized (compareColumns left property relation positive right other) n =
      match left.column property, right.column other with
      | .error fault, _ => ⟨[Token.lparen], [], some (.configuration fault)⟩
      | .ok c, .error fault =>
        ⟨[Token.lparen] ++ (left.qualified c
            ++ [Token.space, .symbol (comparison relation positive), Token.space]),
          [], some (.configuration fault)⟩
      | .ok c, .ok c' => ⟨compared (left, c) (comparison relation positive) (right, c'), [], none⟩ := by
  unfold compareColumns column
  cases left.column property with
  | error fault => rfl
  | ok c => cases right.column other <;> rfl

structure Exchanged (symbol : Symbol) (f f' : Fragment) : Prop where
  failure : f'.failure = none ↔ f.failure = none
  params : f.params = [] ∧ f'.params = []
  tokens : f.failure = none → ∃ x y,
    f.tokens = compared x symbol y ∧ f'.tokens = compared y symbol.converse x

theorem exchanged_compareColumns (left right : Seat) (property other : String)
    (relation : Relation) (positive : Bool) (n : Nat) :
    Exchanged (comparison relation positive)
      (parenthesized (compareColumns left property relation positive right other) n)
      (parenthesized (compareColumns right other relation.converse positive left property) n) := by
  rw [parenthesized_compareColumns, parenthesized_compareColumns, comparison_converse]
  cases left.column property with
  | error fault =>
    cases right.column other <;> exact ⟨by simp, ⟨rfl, rfl⟩, by simp⟩
  | ok c =>
    cases right.column other with
    | error fault => exact ⟨by simp, ⟨rfl, rfl⟩, by simp⟩
    | ok c' => exact ⟨Iff.rfl, ⟨rfl, rfl⟩, fun _ => ⟨(left, c), (right, c'), rfl, rfl⟩⟩

theorem exchanged_flip (left right : String) (relation : Relation) (aliasName : String)
    (otherIsLeft positive : Bool) (n : Nat) :
    let e : JoinExpression := .properties left right relation aliasName otherIsLeft positive
    Exchanged (comparison relation positive) (joinExpression p s e n)
      (joinExpression p s e.flip n) := by
  intro e
  unfold joinExpression
  have sameStore : e.flip.otherAlias = e.otherAlias := rfl
  rw [sameStore]
  cases p.resolve e.otherAlias with
  | error fault => exact ⟨Iff.rfl, ⟨rfl, rfl⟩, fun complete => by cases complete⟩
  | ok other =>
    -- flipping moves the other store to the other side, so it stays the one that is resolved
    cases otherIsLeft with
    | true => exact exchanged_compareColumns other s left right relation positive n
    | false => exact exchanged_compareColumns s other left right relation positive n

theorem columnsMeaning_converse (w : World) (left : Seat) (property : String)
    (relation : Relation) (positive : Bool) (right : Seat) (other : String) :
    columnsMeaning w right other relation.converse positive left property =
      columnsMeaning w left property relation positive right other := by
  unfold columnsMeaning
  cases left.field w property <;> cases right.field w other <;> simp [World.test_converse]

theorem joinMeaning_flip (w : World) (e : JoinExpression) :
    joinMeaning w p s e.flip = joinMeaning w p s e := by
  cases e with
  | properties left right relation aliasName otherIsLeft positive =>
    simp only [joinMeaning, JoinExpression.flip, JoinExpression.otherAlias]
    cases (p.resolve aliasName).toOption with
    | none => rfl
    | some other => cases otherIsLeft <;> exact columnsMeaning_converse w _ _ _ _ _ _
  | value property literal relation aliasName positive => rfl

def SameTruth (d : Dialect) (n : Nat) (f f' : Fragment) : Prop :=
  ∃ c c', Condition.read d f.tokens = some c ∧ Condition.read d f'.tokens = some c' ∧
    ∀ (w : World) (before after : List Value), before.length = n →
      c'.eval w (before ++ f'.params ++ after) = c.eval w (before ++ f.params ++ after)

theorem sameTruth_of_meaning {e e' : Emission} {m : World → Option Truth} {n : Nat}
    (first : Means (whole d) [.or, .and] e m) (second : Means (whole d) [.or, .and] e' m)
    (complete : (e n).failure = none) (complete' : (e' n).failure = none) :
    SameTruth d n (e n) (e' n) := by
  obtain ⟨c, read, tells⟩ := read_of_means first (emits_of_complete complete)
  obtain ⟨c', read', tells'⟩ := read_of_means second (emits_of_complete complete')
  refine ⟨c, c', read, read', ?_⟩
  intro w before after count
  have value := tells w before after count
  have value' := tells' w before after count
  rw [value] at value'
  exact (Option.some.inj value').symm

theorem failure_flip (e : JoinExpression) (n : Nat) :
    (joinExpression p s e.flip n).failure = none ↔ (joinExpression p s e n).failure = none := by
  cases e with
  | properties left right relation aliasName otherIsLeft positive =>
    exact (exchanged_flip left right relation aliasName otherIsLeft positive n).failure
  | value property literal relation aliasName positive => exact Iff.rfl

theorem params_flip (e : JoinExpression) (n : Nat) :
    (joinExpression p s e.flip n).params = (joinExpression p s e n).params := by
  cases e with
  | properties left right relation aliasName otherIsLeft positive =>
    have none := (exchanged_flip (p := p) (s := s) left right relation aliasName otherIsLeft
      positive n).params
    exact none.2.trans none.1.symm
  | value property literal relation aliasName positive => rfl

/-- Flipping never changes what a join expression matches. -/
theorem flip_restates (d : Dialect) (p : Plan) (s : Seat) (n : Nat) (e : JoinExpression) :
    let f := joinExpression p s e n
    let f' := joinExpression p s e.flip n
    (f'.failure = none ↔ f.failure = none) ∧ f'.params = f.params ∧
      (f.failure = none → SameTruth d n f f') ∧
      (∀ left right relation aliasName otherIsLeft positive,
        e = .properties left right relation aliasName otherIsLeft positive →
          Exchanged (comparison relation positive) f f') ∧
      (∀ property literal relation aliasName positive,
        e = .value property literal relation aliasName positive → e.flip = e) ∧
      e.flip.flip = e ∧ e.invert.flip = e.flip.invert ∧
      ∀ aliasName, (e.withAlias aliasName).flip = e.flip.withAlias aliasName := by
  intro f f'
  refine ⟨failure_flip e n, params_flip e n, ?_, ?_, ?_, e.flip_flip, e.flip_invert,
    e.flip_withAlias⟩
  · intro complete
    have first := means_whole (means_joinExpression (d := d) (s := s) p e)
    have second := means_whole (means_joinExpression (d := d) (s := s) p e.flip)
    have same : (fun w => joinMeaning w p s e.flip) = fun w => joinMeaning w p s e :=
      funext fun w => joinMeaning_flip w e
    rw [same] at second
    exact sameTruth_of_meaning first second complete ((failure_flip e n).mpr complete)
  · rintro left right relation aliasName otherIsLeft positive rfl
    exact exchanged_flip left right relation aliasName otherIsLeft positive n
  · rintro property literal relation aliasName positive rfl
    rfl

theorem flip_restates_sample :
    let books : Seat := ⟨1, Sample.books⟩
    let older : JoinExpression := .properties "author" "id" .greater "authors" false false
    let number : JoinExpression := .value "id" (.text "7") .lesser "authors" false
    Exchanged .le (joinExpression Sample.plan books older 0)
        (joinExpression Sample.plan books older.flip 0) ∧
      SameTruth .tsql 0 (joinExpression Sample.plan books older 0)
        (joinExpression Sample.plan books older.flip 0) ∧
      older.flip = .properties "id" "author" .lesser "authors" true false ∧
      number.flip = number := by
  intro books older number
  obtain ⟨-, -, truth, exchanged, -⟩ := flip_restates .tsql Sample.plan books 0 older
  obtain ⟨-, -, -, -, literal, -⟩ := flip_restates .tsql Sample.plan books 0 number
  exact ⟨exchanged _ _ _ _ _ _ rfl, truth rfl, rfl, literal _ _ _ _ _ rfl⟩

end Sql
end Joinery
