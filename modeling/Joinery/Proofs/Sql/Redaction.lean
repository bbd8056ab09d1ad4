import Joinery.Proofs.Criteria.Redacted
import Joinery.Proofs.Sql.Emission
import Joinery.Proofs.Sql.Meaning
import Joinery.Proofs.Sql.Plan

/-!
Literals never reach the text. Two statements for stores that differ in nothing but
their literals have the same tokens and bind the same number of values, part by part,
whenever both are complete. They may fail differently, since a literal may not fit its
column.
-/
namespace Joinery.Sql
open Emission

/-- If both are complete, they write the same and bind equally many values. -/
def Parallel (a b : Emission) : Prop :=
  ∀ n ts ps us qs, Emits a n ts ps → Emits b n us qs → ts = us ∧ ps.length = qs.length

theorem parallel_refl (e : Emission) : Parallel e e := by
  intro n ts ps us qs first second
  have same := first.symm.trans second
  simp only [Fragment.mk.injEq, and_true] at same
  exact ⟨same.1, congrArg List.length same.2⟩

theorem parallel_fail (e : Error) (b : Emission) : Parallel (fail e) b :=
  fun _ _ _ _ _ first _ => absurd first not_emits_fail

theorem parallel_param (v w : Value) : Parallel (param v) (param w) := by
  intro n ts ps us qs first second
  obtain ⟨rfl, rfl⟩ := emits_param.mp first
  obtain ⟨rfl, rfl⟩ := emits_param.mp second
  exact ⟨rfl, rfl⟩

theorem parallel_append {a a' b b' : Emission} (first : Parallel a a') (second : Parallel b b') :
    Parallel (a ++ b) (a' ++ b') := by
  intro n ts ps us qs one other
  obtain ⟨ts₁, ps₁, ts₂, ps₂, lead, rest, rfl, rfl⟩ := emits_append.mp one
  obtain ⟨us₁, qs₁, us₂, qs₂, lead', rest', rfl, rfl⟩ := emits_append.mp other
  obtain ⟨rfl, count⟩ := first _ _ _ _ _ lead lead'
  -- both second parts count their placeholders from the same number
  rw [← count] at rest'
  obtain ⟨rfl, count'⟩ := second _ _ _ _ _ rest rest'
  exact ⟨rfl, by rw [List.length_append, List.length_append, count, count']⟩

theorem parallel_require {α β : Type} {check : Except Fault α} {check' : Except Fault β}
    {k : α → Emission} {k' : β → Emission}
    (kept : ∀ a a', check = .ok a → check' = .ok a' → Parallel (k a) (k' a')) :
    Parallel (require check k) (require check' k') := by
  intro n ts ps us qs first second
  obtain ⟨a, ok, rest⟩ := emits_require.mp first
  obtain ⟨a', ok', rest'⟩ := emits_require.mp second
  exact kept a a' ok ok' _ _ _ _ _ rest rest'

theorem parallel_foundAt {place place' : Place} {a b : Emission} (inside : Parallel a b) :
    Parallel (foundAt place a) (foundAt place' b) :=
  fun _ _ _ _ _ first second =>
    inside _ _ _ _ _ (emits_foundAt.mp first) (emits_foundAt.mp second)

section Lists
variable {α β : Type} {erase : α → β} {f f' : α → Emission} {xs ys : List α}

theorem parallel_concat (same : xs.map erase = ys.map erase)
    (kept : ∀ x ∈ xs, ∀ y, erase x = erase y → Parallel (f x) (f' y)) :
    Parallel (concat (xs.map f)) (concat (ys.map f')) := by
  induction xs generalizing ys with
  | nil =>
    obtain rfl : ys = [] := List.map_eq_nil_iff.mp same.symm
    exact parallel_refl _
  | cons x xs ih =>
    cases ys with
    | nil => cases same
    | cons y ys =>
      obtain ⟨first, others⟩ := List.cons.inj same
      exact parallel_append (kept x List.mem_cons_self y first)
        (ih others fun x' member => kept x' (List.mem_cons_of_mem x member))

theorem parallel_separated (sep : List Token) (same : xs.map erase = ys.map erase)
    (kept : ∀ x ∈ xs, ∀ y, erase x = erase y → Parallel (f x) (f' y)) :
    Parallel (separated sep (xs.map f)) (separated sep (ys.map f')) := by
  cases xs with
  | nil =>
    obtain rfl : ys = [] := List.map_eq_nil_iff.mp same.symm
    exact parallel_refl _
  | cons x xs =>
    cases ys with
    | nil => cases same
    | cons y ys =>
      obtain ⟨first, others⟩ := List.cons.inj same
      rw [List.map_cons, List.map_cons, separated_cons, separated_cons, List.map_map, List.map_map]
      apply parallel_append (kept x List.mem_cons_self y first)
      apply parallel_concat others
      intro x' member y' alike
      exact parallel_append (parallel_refl _) (kept x' (List.mem_cons_of_mem x member) y' alike)

theorem parallel_combined (connective : Connective) (same : xs.map erase = ys.map erase)
    (kept : ∀ x ∈ xs, ∀ y, erase x = erase y → Parallel (f x) (f' y)) :
    Parallel (combined connective (xs.map f)) (combined connective (ys.map f')) := by
  cases xs with
  | nil =>
    obtain rfl : ys = [] := List.map_eq_nil_iff.mp same.symm
    exact parallel_refl _
  | cons x xs =>
    cases ys with
    | nil => cases same
    | cons y ys => exact parallel_separated _ same kept

end Lists

theorem parallel_parenthesized {a b : Emission} (inside : Parallel a b) :
    Parallel (parenthesized a) (parenthesized b) :=
  parallel_append (parallel_append (parallel_refl _) inside) (parallel_refl _)

variable {d : Dialect} {p p' : Plan} {s s' : Seat}

theorem parallel_compareLiteral (s : Seat) (property : String) {relation : Relation} {v v' : Value}
    (positive : Bool) (same : v.redacted relation = v'.redacted relation) :
    Parallel (compareLiteral s property relation v positive)
      (compareLiteral s property relation v' positive) := by
  -- that a literal is null shows only under equality, and there redaction keeps it
  have tested : (v.isNull && decide (relation = .equal)) = (v'.isNull && decide (relation = .equal)) := by
    by_cases equal : relation = .equal
    · rw [Value.redacted_eq_iff.mp same equal]
    · simp [equal]
  apply parallel_require
  intro c c' column column'
  obtain rfl := Except.ok.inj (column.symm.trans column')
  apply parallel_append (parallel_refl _)
  rw [← tested]
  split
  · exact parallel_refl _
  · exact parallel_require fun x x' _ _ => parallel_append (parallel_refl _) (parallel_param x x')

theorem parallel_membership (s : Seat) (property : String) {vs vs' : List Value} (positive : Bool)
    (same : vs.length = vs'.length) :
    Parallel (membership s property vs positive) (membership s property vs' positive) := by
  have empty : vs.isEmpty = vs'.isEmpty := by
    cases vs <;> cases vs' <;> first | rfl | cases same
  unfold membership
  rw [← empty]
  split
  · exact parallel_refl _
  · apply parallel_require
    intro c c' column column'
    obtain rfl := Except.ok.inj (column.symm.trans column')
    apply parallel_require
    intro ws ws' coerced coerced'
    -- of the values only their number goes into the text
    have lengths : ws.map (fun _ => ()) = ws'.map (fun _ => ()) := by
      rw [List.map_const', List.map_const', length_coerceAll coerced, length_coerceAll coerced', same]
    have items : Parallel (separated [Token.comma, Token.space] (ws.map param))
        (separated [Token.comma, Token.space] (ws'.map param)) :=
      parallel_separated _ lengths fun v _ w _ => parallel_param v w
    exact parallel_append (parallel_append (parallel_refl _) items) (parallel_refl _)

theorem parallel_containmentIn (d : Dialect) (s : Seat) (property : String) {shape shape' : Shape}
    (positive : Bool) (same : shape.srid = shape'.srid) :
    Parallel (containmentIn d s property shape positive)
      (containmentIn d s property shape' positive) := by
  rw [containmentIn_eq, containmentIn_eq, ← same]
  apply parallel_require
  intro c c' column column'
  obtain rfl := Except.ok.inj (column.symm.trans column')
  cases template? d (s.qualified c) shape.srid with
  | none => exact parallel_fail _ _
  | some t =>
    exact parallel_append (parallel_append (parallel_refl _) (parallel_param _ _)) (parallel_refl _)

theorem kept_alike {α : Type} (f : Seat → α) (kept : ∀ s, f s.redacted = f s)
    (seats : s.redacted = s'.redacted) : f s = f s' := by
  rw [← kept s, seats, kept s']

theorem membership_redacted (property : String) (values : List Value) (positive : Bool) (s : Seat) :
    membership s.redacted property values positive = membership s property values positive := by
  have coerced (c : Column) (vs : List Value) : coerceAll s.redacted c vs = coerceAll s c vs := by
    induction vs with
    | nil => rfl
    | cons v rest ih =>
      rw [coerceAll, coerceAll, ih]
      rfl
  unfold membership
  simp only [coerced]
  rfl

theorem resolve_alike (plans : p.redacted = p'.redacted) {aliasName : String}
    (found : p.resolve aliasName = .ok s) (found' : p'.resolve aliasName = .ok s') :
    s.redacted = s'.redacted := by
  have both : p.redacted.resolve aliasName = p'.redacted.resolve aliasName := by rw [plans]
  rw [p.resolve_redacted, p'.resolve_redacted, found, found'] at both
  exact Except.ok.inj both

theorem otherSeat_alike (plans : p.redacted = p'.redacted) (seats : s.redacted = s'.redacted)
    {aliasName : Option String} {o o' : Seat} (found : otherSeat p s aliasName = .ok o)
    (found' : otherSeat p' s' aliasName = .ok o') : o.redacted = o'.redacted := by
  cases aliasName with
  | none =>
    cases found
    cases found'
    exact seats
  | some aliasName => exact resolve_alike plans found found'

theorem parallel_compareColumns {o o' : Seat} (seats : s.redacted = s'.redacted)
    (others : o.redacted = o'.redacted) (property : String) (relation : Relation)
    (positive : Bool) (other : String) :
    Parallel (compareColumns s property relation positive o other)
      (compareColumns s' property relation positive o' other) := by
  have left : column s property = column s' property :=
    kept_alike (column · property) (fun _ => rfl) seats
  have right : column o other = column o' other :=
    kept_alike (column · other) (fun _ => rfl) others
  unfold compareColumns
  rw [left, right]
  exact parallel_refl _

theorem parallel_expression (plans : p.redacted = p'.redacted) (seats : s.redacted = s'.redacted)
    {e e' : Expression} (same : e.redacted = e'.redacted) :
    Parallel (expression d p s e) (expression d p' s' e') := by
  -- the redacted forms agree, so the second tree has the same constructor at every node
  induction e generalizing e' with
  | inList property values positive =>
    cases e' with
    | inList property' values' positive' =>
      simp only [Expression.redacted, Expression.inList.injEq] at same
      obtain ⟨rfl, lengths, rfl⟩ := same
      have other : membership s property values' positive = membership s' property values' positive :=
        kept_alike (membership · property values' positive) (membership_redacted _ _ _) seats
      rw [expression, expression, ← other]
      exact parallel_membership s property positive (by simpa using congrArg List.length lengths)
    | _ => cases same
  | within property shape positive =>
    cases e' with
    | within property' shape' positive' =>
      simp only [Expression.redacted, Expression.within.injEq, Shape.mk.injEq, true_and] at same
      obtain ⟨rfl, reference, rfl⟩ := same
      have other : containmentIn d s property shape' positive =
          containmentIn d s' property shape' positive :=
        kept_alike (containmentIn d · property shape' positive) (fun _ => rfl) seats
      rw [expression, expression, ← other]
      exact parallel_containmentIn d s property positive reference
    | _ => cases same
  | compare property relation v positive =>
    cases e' with
    | compare property' relation' v' positive' =>
      simp only [Expression.redacted, Expression.compare.injEq] at same
      obtain ⟨rfl, rfl, literals, rfl⟩ := same
      have other : compareLiteral s property relation v' positive =
          compareLiteral s' property relation v' positive :=
        kept_alike (compareLiteral · property relation v' positive) (fun _ => rfl) seats
      rw [expression, expression, ← other]
      exact parallel_compareLiteral s property positive literals
    | _ => cases same
  | compareProperty property relation aliasName other positive =>
    cases e' with
    | compareProperty property' relation' aliasName' other' positive' =>
      simp only [Expression.redacted, Expression.compareProperty.injEq] at same
      obtain ⟨rfl, rfl, rfl, rfl, rfl⟩ := same
      rw [expression, expression]
      apply parallel_require
      intro o o' found found'
      exact parallel_compareColumns seats (otherSeat_alike plans seats found found') _ _ _ _
    | _ => cases same
  | isNull property positive =>
    cases e' with
    | isNull property' positive' =>
      simp only [Expression.redacted, Expression.isNull.injEq] at same
      obtain ⟨rfl, rfl⟩ := same
      have other : column s property = column s' property :=
        kept_alike (column · property) (fun _ => rfl) seats
      rw [expression, expression, other]
      exact parallel_refl _
    | _ => cases same
  | group connective items ih =>
    cases e' with
    | group connective' items' =>
      simp only [Expression.redacted, Expression.redactedAll_eq_map, Expression.group.injEq] at same
      obtain ⟨rfl, members⟩ := same
      rw [expression, expression, expressions_eq_map, expressions_eq_map]
      apply parallel_parenthesized
      exact parallel_combined connective members fun e member e' alike => ih e member alike
    | _ => cases same

theorem parallel_criteria (plans : p.redacted = p'.redacted) (seats : s.redacted = s'.redacted)
    {c c' : Criteria} (same : c.redacted = c'.redacted) :
    Parallel (criteria d p s c) (criteria d p' s' c') := by
  simp only [Criteria.redacted, Criteria.mk.injEq] at same
  obtain ⟨connectives, items⟩ := same
  rw [criteria, criteria, expressions_eq_map, expressions_eq_map, connectives]
  exact parallel_combined _ items fun e _ e' alike => parallel_expression plans seats alike

theorem parallel_joinExpression (plans : p.redacted = p'.redacted) (seats : s.redacted = s'.redacted)
    {e e' : JoinExpression} (same : e.redacted = e'.redacted) :
    Parallel (joinExpression p s e) (joinExpression p' s' e') := by
  cases e with
  | properties left right relation aliasName otherIsLeft positive =>
    cases e' with
    | properties left' right' relation' aliasName' otherIsLeft' positive' =>
      simp only [JoinExpression.redacted, JoinExpression.properties.injEq] at same
      obtain ⟨rfl, rfl, rfl, rfl, rfl, rfl⟩ := same
      apply parallel_require
      intro o o' found found'
      have others := resolve_alike plans found found'
      apply parallel_parenthesized
      cases otherIsLeft with
      | true => exact parallel_compareColumns others seats _ _ _ _
      | false => exact parallel_compareColumns seats others _ _ _ _
    | value => cases same
  | value property literal relation aliasName positive =>
    cases e' with
    | value property' literal' relation' aliasName' positive' =>
      simp only [JoinExpression.redacted, JoinExpression.value.injEq] at same
      obtain ⟨rfl, literals, rfl, rfl, rfl⟩ := same
      apply parallel_require
      intro o o' found found'
      have others := resolve_alike plans found found'
      have other : compareLiteral o property relation literal' positive =
          compareLiteral o' property relation literal' positive :=
        kept_alike (compareLiteral · property relation literal' positive) (fun _ => rfl) others
      apply parallel_parenthesized
      change Parallel (compareLiteral o property relation literal positive)
        (compareLiteral o' property relation literal' positive)
      rw [← other]
      exact parallel_compareLiteral o property positive literals
    | properties => cases same

theorem parallel_joinClause (plans : p.redacted = p'.redacted) (seats : s.redacted = s'.redacted) :
    Parallel (joinClause d p s) (joinClause d p' s') := by
  have types : s.member.joinType = s'.member.joinType := kept_alike (·.member.joinType) (fun _ => rfl) seats
  have aliases : s.member.aliasName = s'.member.aliasName := kept_alike (·.member.aliasName) (fun _ => rfl) seats
  have connectives : s.member.connective = s'.member.connective :=
    kept_alike (·.member.connective) (fun _ => rfl) seats
  have tables : table s = table s' := kept_alike table (fun _ => rfl) seats
  have conditions : s.member.on.map JoinExpression.redacted = s'.member.on.map JoinExpression.redacted :=
    congrArg (fun t => t.member.on) seats
  unfold joinClause
  rw [← types, ← aliases, ← connectives, ← tables]
  cases s.member.joinType with
  | none => exact parallel_fail _ _
  | some type =>
    apply parallel_append (parallel_refl _)
    apply parallel_separated _ conditions
    intro e _ e' alike
    exact parallel_foundAt (parallel_joinExpression plans seats alike)

theorem seats_alike (plans : p.redacted = p'.redacted) :
    p.seats.map Seat.redacted = p'.seats.map Seat.redacted := by
  rw [← p.seats_redacted, plans, p'.seats_redacted]

theorem parallel_fromClause (plans : p.redacted = p'.redacted) :
    Parallel (fromClause d p) (fromClause d p') := by
  have seats := seats_alike plans
  unfold fromClause
  cases first : p.seats with
  | nil =>
    rw [first] at seats
    rw [List.map_eq_nil_iff.mp seats.symm]
    exact parallel_refl _
  | cons s rest =>
    cases second : p'.seats with
    | nil =>
      rw [first, second] at seats
      cases seats
    | cons s' rest' =>
      rw [first, second] at seats
      obtain ⟨own, others⟩ := List.cons.inj seats
      have tables : table s = table s' := kept_alike table (fun _ => rfl) own
      dsimp only
      rw [tables]
      apply parallel_append (parallel_refl _)
      exact parallel_concat others fun t _ t' alike => parallel_joinClause plans alike

def redactedPart (part : Seat × Criteria) : Seat × Criteria := (part.1.redacted, part.2.redacted)

theorem parallel_filterClause (plans : p.redacted = p'.redacted) (lead : Token)
    {part part' : Seat × Criteria} (same : redactedPart part = redactedPart part') :
    Parallel (filterClause d p lead part) (filterClause d p' lead part') := by
  obtain ⟨seats, filters⟩ := Prod.mk.inj same
  apply parallel_append (parallel_refl _)
  apply parallel_parenthesized
  exact parallel_foundAt (parallel_criteria plans seats filters)

theorem parallel_whereClause (plans : p.redacted = p'.redacted) :
    Parallel (whereClause d p) (whereClause d p') := by
  have parts : (filtered p).map redactedPart = (filtered p').map redactedPart := by
    have both : filtered p.redacted = filtered p'.redacted := by rw [plans]
    rwa [filtered_redacted, filtered_redacted] at both
  unfold whereClause
  cases first : filtered p with
  | nil =>
    rw [first] at parts
    rw [List.map_eq_nil_iff.mp parts.symm]
    exact parallel_refl _
  | cons part rest =>
    cases second : filtered p' with
    | nil =>
      rw [first, second] at parts
      cases parts
    | cons part' rest' =>
      rw [first, second] at parts
      obtain ⟨own, others⟩ := List.cons.inj parts
      apply parallel_append (parallel_filterClause plans _ own)
      exact parallel_concat others fun t _ t' alike => parallel_filterClause plans _ alike

theorem parallel_orderItem (plans : p.redacted = p'.redacted) (o : SortOrder) :
    Parallel (orderItem p o) (orderItem p' o) := by
  have ordered (direction : List Token) :
      Parallel (require (p.resolve o.aliasName) fun s => column s o.property ++ tokens direction)
        (require (p'.resolve o.aliasName) fun s => column s o.property ++ tokens direction) := by
    apply parallel_require
    intro s s' found found'
    have columns : column s o.property = column s' o.property :=
      kept_alike (column · o.property) (fun _ => rfl) (resolve_alike plans found found')
    rw [columns]
    exact parallel_refl _
  unfold orderItem
  cases o.direction with
  | computed => exact parallel_refl _
  | ascending => exact ordered _
  | descending => exact ordered _

theorem parallel_orderClause (plans : p.redacted = p'.redacted) (orders : List SortOrder) :
    Parallel (orderClause p orders) (orderClause p' orders) := by
  unfold orderClause
  split
  · exact parallel_refl _
  · apply parallel_append (parallel_refl _)
    have same : orders.map id = orders.map id := rfl
    apply parallel_separated _ same
    rintro o - o' rfl
    exact parallel_orderItem plans o

theorem parallel_body (plans : p.redacted = p'.redacted) : Parallel (body d p) (body d p') :=
  parallel_append (parallel_fromClause plans) (parallel_whereClause plans)

theorem columnList_alike (plans : p.redacted = p'.redacted) : columnList d p = columnList d p' := by
  have items (p : Plan) : selectItems d p.redacted = selectItems d p := by
    unfold selectItems
    rw [p.seats_redacted, List.flatMap_map]
    rfl
  unfold columnList
  rw [← items p, plans, items p']

theorem prefixes_alike (plans : p.redacted = p'.redacted) : prefixes d p = prefixes d p' := by
  have leads (p : Plan) : prefixes d p.redacted = prefixes d p := by
    unfold prefixes
    rw [p.seats_redacted, List.map_map]
    rfl
  rw [← leads p, plans, leads p']

theorem parallel_statement (plans : p.redacted = p'.redacted) (request : Request) :
    Parallel (statement d p request) (statement d p' request) := by
  cases request with
  | select orders =>
    have columns : columnList d p = columnList d p' := columnList_alike plans
    change Parallel (selectStatement d p orders) (selectStatement d p' orders)
    unfold selectStatement
    rw [columns]
    exact parallel_append (parallel_append (parallel_refl _) (parallel_body plans))
      (parallel_orderClause plans orders)
  | count => exact parallel_append (parallel_refl _) (parallel_body plans)

/-- Two requests whose stores differ only in the literals of their criteria get the same text
    and as many parameters. -/
theorem statement_independent_of_literals {members members' : List Member}
    (alike : members.map Member.redacted = members'.map Member.redacted) {d : Dialect}
    {request : Request} {q q' : Query} (complete : (compile d members request q).failure = none)
    (complete' : (compile d members' request q').failure = none) :
    let query := (compile d members request q).query
    let query' := (compile d members' request q').query
    query.tokens = query'.tokens ∧ query.sql = query'.sql ∧ query.prefixes = query'.prefixes ∧
      query.params.length = query'.params.length := by
  intro query query'
  obtain ⟨p, accepted⟩ := accepted_of_complete complete
  obtain ⟨p', accepted'⟩ := accepted_of_complete complete'
  have plans : p.redacted = p'.redacted := by
    obtain ⟨rfl, -⟩ := Plan.ofMembers_ok accepted
    obtain ⟨rfl, -⟩ := Plan.ofMembers_ok accepted'
    exact congrArg Plan.mk alike
  obtain ⟨ownTokens, ownParams, ownFailure⟩ := compile_accepted accepted d request q
  obtain ⟨ownTokens', ownParams', ownFailure'⟩ := compile_accepted accepted' d request q'
  have emits := emits_of_complete (ownFailure.symm.trans complete)
  have emits' := emits_of_complete (ownFailure'.symm.trans complete')
  obtain ⟨sameTokens, sameCount⟩ := parallel_statement plans request _ _ _ _ _ emits emits'
  rw [← ownTokens, ← ownTokens'] at sameTokens
  rw [← ownParams, ← ownParams'] at sameCount
  refine ⟨sameTokens, ?_, ?_, sameCount⟩
  · rw [compile_sql complete, compile_sql complete', sameTokens]
  · have leads (m : List Member) (r : Query) (p : Plan) (ok : Plan.ofMembers m = .ok p) :
        (compile d m request r).query.prefixes =
          match request with
          | .select _ => prefixes d p
          | .count => [] := by
      rw [compile, ok]
      cases request <;> rfl
    rw [leads _ _ _ accepted, leads _ _ _ accepted', prefixes_alike plans]

def Sample.otherBooks : Member :=
  { Sample.books with
    on := [.properties "id" "author" .equal "authors" true true,
      .value "id" (.integer 8) .lesser "authors" false]
    criteria := some ⟨.and, [.inList "id" [.text "3", .null] false,
      .within "place" ⟨"') OR 1=1 --", some 4326⟩ false]⟩ }

theorem statement_independent_of_literals_sample :
    let query := (compile .oracle [Sample.authors, Sample.books] (.select []) default).query
    let query' := (compile .oracle [Sample.authors, Sample.otherBooks] (.select []) default).query
    [Sample.authors, Sample.books].map Member.redacted =
        [Sample.authors, Sample.otherBooks].map Member.redacted ∧
      query.tokens = query'.tokens ∧ query.sql = query'.sql ∧ query.prefixes = query'.prefixes ∧
      query.params.length = query'.params.length := by
  intro query query'
  have alike : [Sample.authors, Sample.books].map Member.redacted =
      [Sample.authors, Sample.otherBooks].map Member.redacted := by rfl
  exact ⟨alike, statement_independent_of_literals alike rfl rfl⟩

end Joinery.Sql
