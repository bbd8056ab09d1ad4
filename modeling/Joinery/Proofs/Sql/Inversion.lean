import Joinery.Proofs.Sql.ReadBack

/-!
Inversion on the level of statements. A condition and its inverse fail alike and bind
the same values. When they are complete, both are read back, and the truth of the one
is the negation of the truth of the other on every row: no row is accepted by both, and
one by neither only if the condition is unknown there.
-/
namespace Joinery.Sql
open Emission Reader

def Alike (a b : Emission) : Prop :=
  ∀ n, (a n).failure = (b n).failure ∧ (a n).params = (b n).params

variable {d : Dialect} {p : Plan} {s : Seat}

theorem alike_refl (e : Emission) : Alike e e := fun _ => ⟨rfl, rfl⟩

theorem alike_tokens (ts us : List Token) : Alike (tokens ts) (tokens us) := fun _ => ⟨rfl, rfl⟩

theorem alike_append {a a' b b' : Emission} (first : Alike a a') (second : Alike b b') :
    Alike (a ++ b) (a' ++ b') := by
  intro n
  obtain ⟨failure, params⟩ := first n
  obtain ⟨failure', params'⟩ := second (n + (a n).params.length)
  rw [append_apply, append_apply, ← failure, ← params]
  cases (a n).failure with
  | some e => exact ⟨failure, params⟩
  | none => exact ⟨failure', congrArg ((a n).params ++ ·) params'⟩

theorem alike_require {α : Type} (check : Except Fault α) {k k' : α → Emission}
    (h : ∀ a, Alike (k a) (k' a)) : Alike (require check k) (require check k') := by
  cases check with
  | error fault => exact alike_refl _
  | ok a => exact h a

theorem alike_separated {α : Type} {f g : α → Emission} (sep sep' : List Token) (xs : List α)
    (h : ∀ x ∈ xs, Alike (f x) (g x)) :
    Alike (separated sep (xs.map f)) (separated sep' (xs.map g)) :=
  related_separated alike_append (alike_refl _) (alike_tokens sep sep') h

theorem alike_combined {α : Type} {f g : α → Emission} (c c' : Connective) (xs : List α)
    (h : ∀ x ∈ xs, Alike (f x) (g x)) :
    Alike (combined c (xs.map f)) (combined c' (xs.map g)) := by
  cases xs with
  | nil => exact alike_tokens _ _
  | cons x xs => exact alike_separated _ _ (x :: xs) h

theorem alike_parenthesized {a b : Emission} (h : Alike a b) :
    Alike (parenthesized a) (parenthesized b) :=
  alike_append (alike_append (alike_refl _) h) (alike_refl _)

theorem alike_compareLiteral (property : String) (relation : Relation) (v : Value)
    (positive positive' : Bool) :
    Alike (compareLiteral s property relation v positive)
      (compareLiteral s property relation v positive') := by
  apply alike_require
  intro c
  apply alike_append (alike_refl _)
  split
  · exact alike_tokens _ _
  · exact alike_require _ fun x => alike_append (alike_tokens _ _) (alike_refl _)

theorem alike_compareColumns (left : Seat) (property : String) (relation : Relation)
    (positive positive' : Bool) (right : Seat) (other : String) :
    Alike (compareColumns left property relation positive right other)
      (compareColumns left property relation positive' right other) :=
  alike_append (alike_append (alike_refl _) (alike_tokens _ _)) (alike_refl _)

theorem alike_membership (property : String) (values : List Value) (positive positive' : Bool) :
    Alike (membership s property values positive) (membership s property values positive') := by
  unfold membership
  split
  · exact alike_tokens _ _
  · apply alike_require
    intro c
    apply alike_require
    intro ws
    exact alike_append (alike_append (alike_tokens _ _) (alike_refl _)) (alike_refl _)

theorem alike_containmentIn (property : String) (shape : Shape) (positive positive' : Bool) :
    Alike (containmentIn d s property shape positive)
      (containmentIn d s property shape positive') := by
  rw [containmentIn_eq, containmentIn_eq]
  apply alike_require
  intro c
  cases template? d (s.qualified c) shape.srid with
  | none => exact alike_refl _
  | some t => exact alike_append (alike_append (alike_tokens _ _) (alike_refl _)) (alike_tokens _ _)

theorem alike_invert (e : Expression) :
    Alike (expression d p s e) (expression d p s e.invert) := by
  -- what is checked and bound does not depend on the sign, which is only spelt
  induction e with
  | inList property values positive => exact alike_membership property values _ _
  | within property shape positive => exact alike_containmentIn property shape _ _
  | compare property relation v positive => exact alike_compareLiteral property relation v _ _
  | compareProperty property relation aliasName other positive =>
    exact alike_require _ fun o => alike_compareColumns s property relation _ _ o other
  | isNull property positive => exact alike_append (alike_refl _) (alike_tokens _ _)
  | group connective items ih =>
    rw [Expression.invert, expression, expression, expressions_eq_map, expressions_eq_map,
      Expression.invertAll_eq_map, List.map_map]
    exact alike_parenthesized (alike_combined _ _ items ih)

theorem alike_criteria_invert (c : Criteria) :
    Alike (criteria d p s c) (criteria d p s c.invert) := by
  unfold criteria Criteria.invert
  rw [expressions_eq_map, expressions_eq_map, Expression.invertAll_eq_map, List.map_map]
  exact alike_combined _ _ c.items fun e _ => alike_invert e

theorem alike_join_invert (e : JoinExpression) :
    Alike (joinExpression p s e) (joinExpression p s e.invert) := by
  cases e with
  | properties left right relation aliasName otherIsLeft positive =>
    apply alike_require
    intro other
    apply alike_parenthesized
    cases otherIsLeft <;> exact alike_compareColumns _ _ _ _ _ _ _
  | value property literal relation aliasName positive =>
    exact alike_require _ fun other =>
      alike_parenthesized (alike_compareLiteral property relation literal _ _)

/-- Both fragments are complete conditions after `n` parameters, and the truth of the
    second is the negation of the truth of the first. -/
def Opposed (d : Dialect) (n : Nat) (f f' : Fragment) : Prop :=
  f'.failure = none ∧ ∃ c c',
    Condition.read d f.tokens = some c ∧ Condition.read d f'.tokens = some c' ∧
    ∀ (w : World) (before after : List Value), before.length = n →
      let truth := c.eval w (before ++ f.params ++ after)
      let truth' := c'.eval w (before ++ f'.params ++ after)
      truth' = truth.not ∧ ¬ (truth = .yes ∧ truth' = .yes) ∧
        (truth ≠ .unknown → (truth = .yes ∧ truth' ≠ .yes) ∨ (truth ≠ .yes ∧ truth' = .yes))

theorem opposed_of_meaning {e e' : Emission} {m m' : World → Option Truth} (alike : Alike e e')
    (first : Means (whole d) [.or, .and] e m) (second : Means (whole d) [.or, .and] e' m')
    (negated : ∀ w, m' w = (m w).map Truth.not) {n : Nat} (complete : (e n).failure = none) :
    Opposed d n (e n) (e' n) := by
  obtain ⟨failure, params⟩ := alike n
  have complete' : (e' n).failure = none := failure ▸ complete
  obtain ⟨c, read, tells⟩ := read_of_means first (emits_of_complete complete)
  obtain ⟨c', read', tells'⟩ := read_of_means second (emits_of_complete complete')
  refine ⟨complete', c, c', read, read', ?_⟩
  intro w before after count truth truth'
  -- both conditions are read in the same world, so their meanings decide
  have opposite : truth' = truth.not := by
    have value := tells w before after count
    have value' := tells' w before after count
    rw [negated, value, Option.map_some] at value'
    exact (Option.some.inj value').symm
  rw [opposite]
  exact ⟨rfl, truth.not_both_yes, Truth.exactly_one_yes⟩

/-- Whatever can be written can also be written inverted, and the two conditions read back are
    negations of each other in every world; where one is unknown, so is the other. -/
theorem invert_negates (d : Dialect) (p : Plan) (s : Seat) (n : Nat) :
    (∀ e : Expression, (expression d p s e n).failure = none →
      Opposed d n (expression d p s e n) (expression d p s e.invert n)) ∧
    (∀ c : Criteria, (criteria d p s c n).failure = none →
      Opposed d n (criteria d p s c n) (criteria d p s c.invert n)) ∧
    (∀ e : JoinExpression, (joinExpression p s e n).failure = none →
      Opposed d n (joinExpression p s e n) (joinExpression p s e.invert n)) := by
  refine ⟨fun e complete => ?_, fun c complete => ?_, fun e complete => ?_⟩
  · have first := means_whole (means_expression (d := d) (s := s) p e)
    have second := means_whole (means_expression (d := d) (s := s) p e.invert)
    exact opposed_of_meaning (alike_invert e) first second
      (fun w => expressionMeaning_invert e) complete
  · exact opposed_of_meaning (alike_criteria_invert c) (means_criteria p c)
      (means_criteria p c.invert) (fun w => criteriaMeaning_invert c) complete
  · have first := means_whole (means_joinExpression (d := d) (s := s) p e)
    have second := means_whole (means_joinExpression (d := d) (s := s) p e.invert)
    exact opposed_of_meaning (alike_join_invert e) first second
      (fun w => joinMeaning_invert e) complete

theorem invert_negates_sample :
    let authors : Seat := ⟨0, Sample.authors⟩
    let books : Seat := ⟨1, Sample.books⟩
    let group : Expression := .group .or [.group .and [], .compare "name" .equal .null true]
    let region : Criteria := ⟨.and, [.inList "id" [.integer 1, .text "2"] false,
      .within "place" ⟨"POINT(1 2)", some 4326⟩ false]⟩
    let number : JoinExpression := .value "id" (.text "7") .lesser "authors" false
    Opposed .ansi 1 (expression .ansi Sample.plan authors group 1)
        (expression .ansi Sample.plan authors group.invert 1) ∧
      Opposed .oracle 2 (criteria .oracle Sample.plan books region 2)
        (criteria .oracle Sample.plan books region.invert 2) ∧
      Opposed .mysql 0 (joinExpression Sample.plan books number 0)
        (joinExpression Sample.plan books number.invert 0) := by
  intro authors books group region number
  refine ⟨?_, ?_, ?_⟩
  · exact (invert_negates .ansi Sample.plan authors 1).1 group rfl
  · exact (invert_negates .oracle Sample.plan books 2).2.1 region rfl
  · exact (invert_negates .mysql Sample.plan books 0).2.2 number rfl

end Joinery.Sql
