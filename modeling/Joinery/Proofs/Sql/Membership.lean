import Joinery.Proofs.Sql.Failing
import Joinery.Proofs.Sql.Inversion

/-!
A membership against the disjunction of equalities with its values. Both can be written for
the same lists, and as long as no value is null they accept the same rows. A null is where
they part: as a literal to equal it is written as a null test, in a list it is bound like
any other value, so that rows which hold null are not found and an inverted list with a
null in it accepts nothing at all.
-/
namespace Joinery.Sql
open Emission Reader

def anyEqual (property : String) (values : List Value) : Expression :=
  .group .or (values.map fun v => .compare property .equal v true)

def oriented (positive : Bool) (e : Expression) : Expression := if positive then e else e.invert

def equals (w : World) (x y : Value) : Truth :=
  if y.isNull then .ofBool x.isNull else w.test Ordering.isEq x y

theorem or_fold_yes {ts : List Truth} : Connective.or.fold ts = .yes ↔ .yes ∈ ts := by
  induction ts with
  | nil => simp [Connective.neutral]
  | cons t ts ih =>
    rw [Connective.fold_cons, List.mem_cons, ← ih]
    cases t <;> cases Connective.or.fold ts <;> simp [Connective.combine, Truth.or]

theorem or_fold_no {ts : List Truth} : Connective.or.fold ts = .no ↔ ∀ t ∈ ts, t = .no := by
  induction ts with
  | nil => simp [Connective.neutral]
  | cons t ts ih =>
    rw [Connective.fold_cons, List.forall_mem_cons, ← ih]
    cases t <;> cases Connective.or.fold ts <;> simp [Connective.combine, Truth.or]

section Truths
variable {w : World} {x : Value} {ws : List Value}

theorem equals_eq_test {y : Value} (value : y.isNull = false) :
    equals w x y = w.test Ordering.isEq x y := by
  rw [equals, value]
  rfl

theorem test_null : w.test Ordering.isEq x .null = .unknown := by
  unfold World.test
  rw [if_pos (by simp [Value.isNull])]

theorem oneOf_of_no_null (noNull : .null ∉ ws) :
    w.oneOf x ws = Connective.or.fold (ws.map (equals w x)) := by
  have same : ws.map (w.test Ordering.isEq x) = ws.map (equals w x) := by
    apply List.map_congr_left
    intro y member
    have value : y.isNull = false := Value.isNull_eq_false_iff.mpr fun null => noNull (null ▸ member)
    rw [equals_eq_test value]
  rw [World.oneOf, same]

theorem oneOf_yes_iff :
    w.oneOf x ws = .yes ↔ x ≠ .null ∧ Connective.or.fold (ws.map (equals w x)) = .yes := by
  unfold World.oneOf
  rw [or_fold_yes, or_fold_yes, List.mem_map, List.mem_map]
  constructor
  · rintro ⟨y, member, found⟩
    have values : x.isNull = false ∧ y.isNull = false := by
      cases own : x.isNull <;> cases other : y.isNull <;> simp [World.test, own, other] at found ⊢
    exact ⟨Value.isNull_eq_false_iff.mp values.1, y, member, by rw [equals_eq_test values.2, found]⟩
  · rintro ⟨given, y, member, found⟩
    refine ⟨y, member, ?_⟩
    cases other : y.isNull with
    | false => rwa [equals_eq_test other] at found
    | true =>
      rw [equals, if_pos other, Value.isNull_eq_false_iff.mpr given] at found
      cases found

theorem oneOf_ne_no (null : .null ∈ ws) : w.oneOf x ws ≠ .no := by
  intro absent
  have refused := or_fold_no.mp absent _ (List.mem_map_of_mem null)
  rw [test_null] at refused
  cases refused

end Truths

theorem exists_longer (ws : List Value) : ∃ n, ∀ y ∈ ws, y.sortKey.length < n := by
  induction ws with
  | nil => exact ⟨0, by simp⟩
  | cons y rest ih =>
    obtain ⟨n, bound⟩ := ih
    refine ⟨max n (y.sortKey.length + 1), fun z member => ?_⟩
    rcases List.mem_cons.mp member with rfl | later
    · omega
    · have := bound z later
      omega

theorem exists_other (ws : List Value) :
    ∃ x : Value, x ≠ .null ∧ ∀ y ∈ ws, (compareOn Value.sortKey x y).isEq = false := by
  -- a text longer than all of them compares unequal to each
  obtain ⟨n, bound⟩ := exists_longer ws
  let x : Value := .text (String.ofList (List.replicate n 'a'))
  have length : x.sortKey.length = n + 1 := by simp [x, Value.sortKey]
  refine ⟨x, by simp [x], fun y member => Bool.eq_false_iff.mpr fun same => ?_⟩
  have keys : x.sortKey = y.sortKey := by
    have equal : compare x.sortKey y.sortKey = .eq := Ordering.isEq_iff_eq_eq.mp same
    exact Std.LawfulEqCmp.eq_of_compare equal
  have same_length := congrArg List.length keys
  have := bound y member
  omega

section Meanings
variable {w : World} {d : Dialect} {p : Plan} {s : Seat} {property : String}

theorem literal_isNull {v y : Value} (converted : s.literal property v = some y) :
    y.isNull = v.isNull := by
  obtain ⟨c, -, coerced⟩ := Option.bind_eq_some_iff.mp converted
  cases result : v.coerce c.type with
  | error cause =>
    rw [result] at coerced
    cases coerced
  | ok z =>
    rw [result] at coerced
    cases coerced
    exact Value.coerce_isNull result

theorem null_mem_literals {values ws : List Value}
    (converted : values.mapM (s.literal property) = some ws) : .null ∈ ws ↔ .null ∈ values := by
  induction values generalizing ws with
  | nil =>
    cases converted
    rfl
  | cons v rest ih =>
    rw [List.mapM_cons] at converted
    obtain ⟨y, first, later⟩ := Option.bind_eq_some_iff.mp converted
    obtain ⟨ys, others, shape⟩ := Option.bind_eq_some_iff.mp later
    cases shape
    have same : .null = y ↔ .null = v := by
      rw [eq_comm, ← Value.isNull_iff, literal_isNull first, Value.isNull_iff, eq_comm]
    rw [List.mem_cons, List.mem_cons, ih others, same]

theorem equalMeaning {x : Value} (held : s.field w property = some x) (v : Value) :
    s.literalMeaning w property .equal v true = (s.literal property v).map (equals w x) := by
  obtain ⟨c, mapped, -⟩ := Option.map_eq_some_iff.mp held
  rw [Seat.literalMeaning, held, Option.bind_some]
  cases null : v.isNull with
  | true =>
    have absent : s.literal property v = some .null := by
      rw [Value.isNull_iff.mp null, Seat.literal, mapped, Option.bind_some, Value.coerce_null]
      rfl
    rw [absent]
    rfl
  | false =>
    cases converted : s.literal property v with
    | none => rfl
    | some y =>
      have value : y.isNull = false := (literal_isNull converted).trans null
      exact congrArg some (equals_eq_test value).symm

theorem anyEqual_meaning {x : Value} (held : s.field w property = some x) (values : List Value) :
    expressionMeaning w d p s (anyEqual property values) =
      (values.mapM (s.literal property)).map fun ws => Connective.or.fold (ws.map (equals w x)) := by
  rw [anyEqual, expressionMeaning, expressionsMeaning_eq_mapM, List.mapM_map]
  have each : (expressionMeaning w d p s ∘ fun v => Expression.compare property .equal v true) =
      fun v => (s.literal property v).map (equals w x) := funext fun v => equalMeaning held v
  rw [each]
  induction values with
  | nil => rfl
  | cons v rest ih =>
    rw [fold_mapM_cons, ih, List.mapM_cons]
    cases s.literal property v <;> cases rest.mapM (s.literal property) <;> rfl

theorem oriented_meaning (positive : Bool) (e : Expression) :
    expressionMeaning w d p s (oriented positive e) =
      (expressionMeaning w d p s e).map (Truth.signed positive) := by
  cases positive with
  | true => exact (Option.map_id_apply).symm
  | false => exact expressionMeaning_invert e

theorem inList_meaning {values : List Value} (some_value : values ≠ []) {positive : Bool}
    {t : Truth}
    (meant : expressionMeaning w d p s (.inList property values positive) = some t) :
    ∃ x ws, s.field w property = some x ∧ values.mapM (s.literal property) = some ws ∧
      t = .signed positive (w.oneOf x ws) := by
  have nonempty : ¬ values.isEmpty = true := fun empty => some_value (List.isEmpty_iff.mp empty)
  rw [expressionMeaning, if_neg nonempty] at meant
  obtain ⟨x, held, rest⟩ := Option.bind_eq_some_iff.mp meant
  obtain ⟨ws, converted, rfl⟩ := Option.map_eq_some_iff.mp rest
  exact ⟨x, ws, held, converted, rfl⟩

end Meanings

section Failures
variable {d : Dialect} {p : Plan} {s : Seat} {property : String}

theorem fails_anyEqual (values : List Value) :
    Fails (expression d p s (anyEqual property values))
      (if values.isEmpty then none
        else (s.unmapped property).or (values.findSome? (s.unbindable property))) := by
  rw [anyEqual, expression, expressions_eq_map, List.map_map]
  have each : Fails (combined .or (values.map fun v => compareLiteral s property .equal v true))
      (values.findSome? fun v => (s.unmapped property).or (s.unbindable property v)) :=
    fails_combined fun v _ => fails_compareLiteral s property .equal v true
  -- every equality checks the column, and where it is not mapped the first one tells
  cases values with
  | nil => exact fails_parenthesized each
  | cons v rest =>
    cases mapped : s.unmapped property with
    | none =>
      simp only [mapped, Option.none_or] at each
      exact fails_parenthesized each
    | some e =>
      rw [mapped] at each
      exact fails_parenthesized each

theorem same_failure (values : List Value) (positive : Bool) (n : Nat) :
    (expression d p s (.inList property values positive) n).failure =
      (expression d p s (oriented positive (anyEqual property values)) n).failure := by
  rw [expression, fails_membership s property values positive n]
  cases positive with
  | true => exact (fails_anyEqual values n).symm
  | false =>
    unfold oriented
    rw [if_neg Bool.false_ne_true, ← (alike_invert (anyEqual property values) n).1]
    exact (fails_anyEqual values n).symm

end Failures

def Accepts (w : World) (before after : List Value) (c : Condition) (f : Fragment) : Prop :=
  c.eval w (before ++ f.params ++ after) = .yes

/-- A membership and the equalities with its values, each in the same orientation, as two
    fragments that are read back. -/
structure Compared (d : Dialect) (s : Seat) (property : String) (values : List Value)
    (positive : Bool) (n : Nat) (list group : Fragment) (c c' : Condition) : Prop where
  readList : Condition.read d list.tokens = some c
  readGroup : Condition.read d group.tokens = some c'
  same : (∀ w before after, before.length = n →
    (Accepts w before after c list ↔ Accepts w before after c' group)) ↔ .null ∉ values
  /-- With a null among the values, the list finds no row that holds null, and an inverted
      list finds no row at all. -/
  lost : .null ∈ values → ∀ w before after, before.length = n →
    (Accepts w before after c list ↔
      positive = true ∧ s.field w property ≠ some .null ∧ Accepts w before after c' group)

def Evaluate (s : Seat) (property : String) (values : List Value) (positive : Bool) (n : Nat)
    (list group : Fragment) (c c' : Condition) : Prop :=
  ∀ w before after, before.length = n → ∃ x ws,
    s.field w property = some x ∧ values.mapM (s.literal property) = some ws ∧
    c.eval w (before ++ list.params ++ after) = .signed positive (w.oneOf x ws) ∧
    c'.eval w (before ++ group.params ++ after) =
      .signed positive (Connective.or.fold (ws.map (equals w x)))

section Differ
variable {s : Seat} {property : String} {values : List Value} {positive : Bool} {n : Nat}
  {list group : Fragment} {c c' : Condition}
  (evaluate : Evaluate s property values positive n list group c c')
include evaluate

theorem accepts_same (noNull : .null ∉ values) :
    ∀ w before after, before.length = n →
      (Accepts w before after c list ↔ Accepts w before after c' group) := by
  intro w before after count
  obtain ⟨x, ws, -, converted, first, second⟩ := evaluate w before after count
  have absent : .null ∉ ws := fun null => noNull ((null_mem_literals converted).mp null)
  unfold Accepts
  rw [first, second, oneOf_of_no_null absent]

theorem accepts_lost (null : .null ∈ values) :
    ∀ w before after, before.length = n →
      (Accepts w before after c list ↔
        positive = true ∧ s.field w property ≠ some .null ∧ Accepts w before after c' group) := by
  intro w before after count
  obtain ⟨x, ws, held, converted, first, second⟩ := evaluate w before after count
  have listed : .null ∈ ws := (null_mem_literals converted).mpr null
  unfold Accepts
  rw [first, second, held]
  cases positive with
  | true =>
    have chosen : w.oneOf x ws = .yes ↔
        x ≠ .null ∧ Connective.or.fold (ws.map (equals w x)) = .yes := oneOf_yes_iff
    simpa [Truth.signed] using chosen
  | false =>
    have known := oneOf_ne_no (w := w) (x := x) listed
    cases truth : w.oneOf x ws <;> simp_all [Truth.signed, Truth.not]

theorem accepts_differ (null : .null ∈ values) :
    ∃ w before after, before.length = n ∧
      ¬ (Accepts w before after c list ↔ Accepts w before after c' group) := by
  let before : List Value := List.replicate n .null
  have count : before.length = n := List.length_replicate
  obtain ⟨x, ws, held, converted, -, second⟩ := evaluate default before [] count
  have listed : .null ∈ ws := (null_mem_literals converted).mpr null
  -- the list loses rows with null; inverted it finds none, so any other value will do
  cases positive with
  | true =>
    refine ⟨default, before, [], count, fun same => ?_⟩
    have holdsNull : s.field default property = some .null := by
      obtain ⟨column, mapped, -⟩ := Option.map_eq_some_iff.mp held
      rw [Seat.field, mapped]
      rfl
    have own : x = .null := Option.some.inj (held.symm.trans holdsNull)
    have found : Accepts default before [] c' group := by
      unfold Accepts
      rw [second]
      refine or_fold_yes.mpr (List.mem_map.mpr ⟨.null, listed, ?_⟩)
      rw [own]
      rfl
    have lost := (accepts_lost evaluate null default before [] count).mp (same.mpr found)
    exact lost.2.1 holdsNull
  | false =>
    obtain ⟨other, given, differs⟩ := exists_other ws
    let w : World := { (default : World) with cell := fun _ _ => other }
    refine ⟨w, before, [], count, fun same => ?_⟩
    obtain ⟨y, ws', held', converted', -, second'⟩ := evaluate w before [] count
    obtain ⟨column, mapped, own⟩ := Option.map_eq_some_iff.mp held'
    have same_values : ws' = ws := Option.some.inj (converted'.symm.trans converted)
    have found : Accepts w before [] c' group := by
      have refused : Connective.or.fold (ws'.map (equals w y)) = .no := by
        refine or_fold_no.mpr fun t member => ?_
        obtain ⟨v, inside, rfl⟩ := List.mem_map.mp member
        have apart : (w.collation.compare other v).isEq = false := differs v (same_values ▸ inside)
        have value : other.isNull = false := Value.isNull_eq_false_iff.mpr given
        have held : y = other := own.symm
        rw [held]
        cases tested : v.isNull with
        | true => rw [equals, if_pos tested, value, Truth.ofBool, if_neg Bool.false_ne_true]
        | false =>
          rw [equals_eq_test tested, World.test, value, tested, apart]
          rfl
      unfold Accepts
      rw [second', refused]
      rfl
    have lost := (accepts_lost evaluate null w before [] count).mp (same.mpr found)
    cases lost.1

end Differ

/-- A value list and the group of equalities fail alike; where both are written they accept the
    same rows unless a null stands among the values. -/
theorem membership_against_equalities (d : Dialect) (p : Plan) (s : Seat) (property : String)
    (values : List Value) (positive : Bool) (n : Nat) :
    let list := expression d p s (.inList property values positive) n
    let group := expression d p s (oriented positive (anyEqual property values)) n
    list.failure = group.failure ∧ (list.failure = none →
      ∃ c c', Compared d s property values positive n list group c c') := by
  intro list group
  refine ⟨same_failure values positive n, fun complete => ?_⟩
  have complete' : group.failure = none := (same_failure values positive n).symm.trans complete
  obtain ⟨c, read, tells⟩ := read_of_means
    (means_whole (means_expression p (.inList property values positive))) (emits_of_complete complete)
  obtain ⟨c', read', tells'⟩ := read_of_means
    (means_whole (means_expression p (oriented positive (anyEqual property values))))
    (emits_of_complete complete')
  refine ⟨c, c', ?_⟩
  -- an empty list is a constant and asks for no column
  rcases Classical.em (values = []) with rfl | some_value
  · refine ⟨read, read', iff_of_true (fun w before after count => ?_) (by simp), by simp⟩
    have first := tells w before after count
    have second := tells' w before after count
    dsimp only at first second
    rw [oriented_meaning] at second
    unfold Accepts
    rw [← Option.some.inj first, ← Option.some.inj second]
    rfl
  · have evaluate : Evaluate s property values positive n list group c c' := by
      intro w before after count
      obtain ⟨x, ws, held, converted, first⟩ :=
        inList_meaning some_value (tells w before after count)
      have second := tells' w before after count
      dsimp only at second
      rw [oriented_meaning, anyEqual_meaning held, converted] at second
      rw [Option.map_some, Option.map_some] at second
      exact ⟨x, ws, held, converted, first, (Option.some.inj second).symm⟩
    refine ⟨read, read', ⟨fun same null => ?_, accepts_same evaluate⟩, accepts_lost evaluate⟩
    obtain ⟨w, before, after, count, differ⟩ := accepts_differ evaluate null
    exact differ (same w before after count)

/-- The list with nothing but a null finds no row, the equality with null those that hold it. -/
theorem membership_of_null_differs :
    let authors : Seat := ⟨0, Sample.authors⟩
    let list := expression .sqlite Sample.plan authors (.inList "name" [.null] true) 0
    let group := expression .sqlite Sample.plan authors (anyEqual "name" [.null]) 0
    ∃ (w : World) (c c' : Condition), list.failure = none ∧ group.failure = none ∧
      Condition.read .sqlite list.tokens = some c ∧ Condition.read .sqlite group.tokens = some c' ∧
      ¬ Accepts w [] [] c list ∧ Accepts w [] [] c' group := by
  intro authors list group
  refine ⟨default, .among (.column "A" "name") [.param 1] true, .nullTest (.column "A" "name") true,
    rfl, rfl, rfl, rfl, ?_, ?_⟩
  · unfold Accepts
    decide
  · unfold Accepts
    decide

end Joinery.Sql
