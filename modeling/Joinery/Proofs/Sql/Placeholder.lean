import Joinery.Proofs.Sql.Emission
import Joinery.Proofs.Sql.Meaning

/-!
Placeholders and parameters. The placeholders of a statement count its parameters from
one, also when the compiler has stopped halfway. The parameters of a complete statement
are the literals met on a walk through the join conditions and then the filters, each in
the type of its column.
-/
namespace Joinery.Sql
open Emission

def placeholders (ts : List Token) : List Nat :=
  ts.filterMap fun t =>
    match t with
    | .param k => some k
    | _ => none

/-- Placeholders go on from the parameters bound before, one for each value. -/
def Numbered (e : Emission) : Prop :=
  ∀ n, placeholders (e n).tokens = List.range' (n + 1) (e n).params.length

def unnumbered : Token → Bool
  | .param _ => false
  | _ => true

theorem placeholders_append (ts us : List Token) :
    placeholders (ts ++ us) = placeholders ts ++ placeholders us := List.filterMap_append

theorem placeholders_unnumbered {ts : List Token} (h : ts.all unnumbered = true) :
    placeholders ts = [] := by
  apply List.filterMap_eq_nil_iff.mpr
  intro t member
  have := List.all_eq_true.mp h t member
  cases t <;> simp_all [unnumbered]

theorem numbered_tokens {ts : List Token} (h : ts.all unnumbered = true) :
    Numbered (tokens ts) := fun _ => placeholders_unnumbered h

theorem numbered_append {a b : Emission} (ha : Numbered a) (hb : Numbered b) :
    Numbered (a ++ b) := by
  intro n
  rw [append_apply]
  split
  · exact ha n
  · -- the second part starts counting where the first has stopped
    have shift : n + (a n).params.length + 1 = n + 1 + 1 * (a n).params.length := by omega
    rw [placeholders_append, ha n, hb, shift, List.range'_append, List.length_append]

theorem numbered_closed : Closed Numbered where
  words h := numbered_tokens (all_mono (fun t => by cases t <;> simp [fixedWord, unnumbered]) h)
  param _ _ := rfl
  fail _ _ := rfl
  append := numbered_append
  foundAt _ h := h

theorem numbered_joinKeywords (d : Dialect) (aliasName : String) (type : JoinType) :
    Numbered (joinKeywords d aliasName type) := by
  cases type with
  | inner => exact numbered_tokens rfl
  | leftOuter => exact numbered_tokens rfl
  | rightOuter => exact numbered_tokens rfl
  | fullOuter =>
    unfold joinKeywords
    cases d.fullOuterJoin? with
    | none => exact numbered_closed.fail _
    | some _ => exact numbered_tokens rfl

theorem numbered_joinClause (d : Dialect) (p : Plan) (s : Seat) :
    Numbered (joinClause d p s) := by
  unfold joinClause
  cases s.member.joinType with
  | none => exact numbered_closed.fail _
  | some type =>
    refine numbered_append (numbered_append (numbered_append (numbered_tokens rfl)
      (numbered_joinKeywords d _ type)) (numbered_tokens rfl)) ?_
    apply numbered_closed.separated (by cases s.member.connective <;> rfl)
    intro e _
    exact numbered_closed.foundAt _ (numbered_closed.joinExpression p s e)

theorem numbered_fromClause (d : Dialect) (p : Plan) : Numbered (fromClause d p) := by
  unfold fromClause
  cases p.seats with
  | nil => exact numbered_tokens rfl
  | cons first rest =>
    apply numbered_append (numbered_tokens rfl)
    exact numbered_closed.concat fun s _ => numbered_joinClause d p s

theorem numbered_filterClause (d : Dialect) (p : Plan) {lead : Token}
    (h : unnumbered lead = true) (part : Seat × Criteria) :
    Numbered (filterClause d p lead part) :=
  numbered_append (numbered_tokens (by simp only [List.all_cons, h]; rfl))
    (numbered_closed.parenthesized
      (numbered_closed.foundAt _ (numbered_closed.criteria d p part.1 part.2)))

theorem numbered_whereClause (d : Dialect) (p : Plan) : Numbered (whereClause d p) := by
  unfold whereClause
  cases filtered p with
  | nil => exact numbered_tokens rfl
  | cons first rest =>
    apply numbered_append (numbered_filterClause d p rfl first)
    exact numbered_closed.concat fun part _ => numbered_filterClause d p rfl part

theorem numbered_orderItem (p : Plan) (o : SortOrder) : Numbered (orderItem p o) := by
  unfold orderItem
  cases o.direction with
  | computed => exact numbered_tokens rfl
  | ascending =>
    exact numbered_closed.require _ fun s =>
      numbered_append (numbered_closed.column s o.property) (numbered_tokens rfl)
  | descending =>
    exact numbered_closed.require _ fun s =>
      numbered_append (numbered_closed.column s o.property) (numbered_tokens rfl)

theorem numbered_orderClause (p : Plan) (orders : List SortOrder) :
    Numbered (orderClause p orders) := by
  unfold orderClause
  split
  · exact numbered_tokens rfl
  · apply numbered_append (numbered_tokens rfl)
    exact numbered_closed.separated rfl fun o _ => numbered_orderItem p o

theorem numbered_body (d : Dialect) (p : Plan) : Numbered (body d p) :=
  numbered_append (numbered_fromClause d p) (numbered_whereClause d p)

theorem numbered_selectStatement (d : Dialect) (p : Plan) (orders : List SortOrder) :
    Numbered (selectStatement d p orders) := by
  refine numbered_append (numbered_append (numbered_tokens ?_) (numbered_body d p))
    (numbered_orderClause p orders)
  have list := all_mono (g := unnumbered) (fun t => by cases t <;> simp [listWord, unnumbered])
    (columnList_words d p)
  rw [List.all_append, List.all_append, list]
  rfl

theorem numbered_countStatement (d : Dialect) (p : Plan) : Numbered (countStatement d p) :=
  numbered_append (numbered_tokens rfl) (numbered_body d p)

theorem numbered_statement (d : Dialect) (p : Plan) (request : Request) :
    Numbered (statement d p request) := by
  cases request with
  | select orders => exact numbered_selectStatement d p orders
  | count => exact numbered_countStatement d p

/-- What a parameter is made from: a literal compared with a property of a store, or
    the text of a shape. -/
inductive Binding where
  | literal (owner : Option Seat) (property : String) (v : Value)
  | shape (wkt : String)

def Binding.value : Binding → Option Value
  | .literal owner property v => owner.bind fun s => s.literal property v
  | .shape wkt => some (.text wkt)

def literalBindings (owner : Option Seat) (property : String) (relation : Relation)
    (v : Value) : List Binding :=
  if v.isNull && relation = .equal then [] else [.literal owner property v]

mutual

def expressionBindings (s : Seat) : Expression → List Binding
  | .inList property values _ => values.map (.literal (some s) property)
  | .within _ shape _ => [.shape shape.wkt]
  | .compare property relation v _ => literalBindings (some s) property relation v
  | .compareProperty _ _ _ _ _ => []
  | .isNull _ _ => []
  | .group _ items => expressionsBindings s items

def expressionsBindings (s : Seat) : List Expression → List Binding
  | [] => []
  | e :: rest => expressionBindings s e ++ expressionsBindings s rest

end

def joinBindings (p : Plan) : JoinExpression → List Binding
  | .properties _ _ _ _ _ _ => []
  | .value property literal relation aliasName _ =>
    literalBindings (p.resolve aliasName).toOption property relation literal

def filterBindings (s : Seat) : List Binding :=
  match s.member.criteria with
  | none => []
  | some c => expressionsBindings s c.items

/-- The walk: join conditions in join order, then filters in store order. -/
def planBindings (p : Plan) : List Binding :=
  p.seats.tail.flatMap (fun s => s.member.on.flatMap (joinBindings p))
    ++ p.seats.flatMap filterBindings

def Binds (e : Emission) (bs : List Binding) : Prop :=
  ∀ n ts ps, Emits e n ts ps → bs.mapM Binding.value = some ps

theorem binds_tokens (ts : List Token) : Binds (tokens ts) [] := by
  intro n us ps h
  rw [(emits_tokens.mp h).2]
  rfl

theorem binds_fail (e : Error) (bs : List Binding) : Binds (fail e) bs :=
  fun _ _ _ h => absurd h not_emits_fail

theorem binds_param {b : Binding} {v : Value} (h : b.value = some v) : Binds (param v) [b] := by
  intro n ts ps emits
  rw [(emits_param.mp emits).2]
  simp [h]

theorem binds_append {a b : Emission} {xs ys : List Binding} (ha : Binds a xs)
    (hb : Binds b ys) : Binds (a ++ b) (xs ++ ys) := by
  intro n ts ps h
  obtain ⟨ts₁, ps₁, ts₂, ps₂, first, second, -, rfl⟩ := emits_append.mp h
  rw [List.mapM_append, ha _ _ _ first, hb _ _ _ second]
  rfl

theorem binds_require {α : Type} {check : Except Fault α} {k : α → Emission}
    {bs : List Binding} (h : ∀ a, check = .ok a → Binds (k a) bs) :
    Binds (require check k) bs := by
  intro n ts ps emits
  obtain ⟨a, ok, rest⟩ := emits_require.mp emits
  exact h a ok _ _ _ rest

theorem binds_foundAt {place : Place} {e : Emission} {bs : List Binding} (h : Binds e bs) :
    Binds (foundAt place e) bs := fun _ _ _ emits => h _ _ _ (emits_foundAt.mp emits)

theorem binds_concat {α : Type} {xs : List α} {f : α → Emission} {g : α → List Binding}
    (h : ∀ x ∈ xs, Binds (f x) (g x)) : Binds (concat (xs.map f)) (xs.flatMap g) := by
  induction xs with
  | nil => exact binds_tokens []
  | cons x rest ih =>
    exact binds_append (h x (by simp)) (ih fun y member => h y (by simp [member]))

theorem binds_separated {α : Type} {sep : List Token} {xs : List α} {f : α → Emission}
    {g : α → List Binding} (h : ∀ x ∈ xs, Binds (f x) (g x)) :
    Binds (separated sep (xs.map f)) (xs.flatMap g) := by
  cases xs with
  | nil => exact binds_tokens []
  | cons x rest =>
    rw [List.map_cons, separated_cons, List.map_map]
    apply binds_append (h x (by simp))
    apply binds_concat
    intro y member
    exact binds_append (binds_tokens sep) (h y (by simp [member]))

theorem binds_parenthesized {e : Emission} {bs : List Binding} (h : Binds e bs) :
    Binds (parenthesized e) bs := by
  have around := binds_append (binds_append (binds_tokens [Token.lparen]) h)
    (binds_tokens [Token.rparen])
  rw [List.nil_append, List.append_nil] at around
  exact around

theorem binds_column (s : Seat) (property : String) : Binds (column s property) [] :=
  binds_require fun _ _ => binds_tokens _

theorem binds_compareColumns (left : Seat) (property : String) (relation : Relation)
    (positive : Bool) (right : Seat) (other : String) :
    Binds (compareColumns left property relation positive right other) [] :=
  binds_append (binds_append (binds_column left property) (binds_tokens _))
    (binds_column right other)

theorem binds_compareLiteral (s : Seat) (property : String) (relation : Relation) (v : Value)
    (positive : Bool) :
    Binds (compareLiteral s property relation v positive)
      (literalBindings (some s) property relation v) := by
  apply binds_require
  intro c mapped
  rw [← List.nil_append (literalBindings (some s) property relation v)]
  apply binds_append (binds_tokens _)
  unfold literalBindings
  split
  · exact binds_tokens _
  · apply binds_require
    intro x coerced
    exact binds_append (binds_tokens _) (binds_param (literal_of_coerce mapped coerced))

theorem emits_params_values {sep : List Token} {vs : List Value} {n : Nat} {ts : List Token}
    {ps : List Value} (h : Emits (separated sep (vs.map param)) n ts ps) : ps = vs := by
  cases vs with
  | nil => exact (emits_tokens.mp h).2
  | cons v rest => exact (emits_params h).2

theorem binds_membership (s : Seat) (property : String) (values : List Value)
    (positive : Bool) :
    Binds (membership s property values positive)
      (values.map (.literal (some s) property)) := by
  unfold membership
  split
  · rename_i empty
    rw [List.isEmpty_iff.mp empty]
    exact binds_tokens _
  · apply binds_require
    intro c mapped
    apply binds_require
    intro ws coerced n ts ps h
    have converted : values.mapM (Binding.value ∘ .literal (some s) property) = some ws :=
      literals_of_coerceAll mapped coerced
    obtain ⟨ts₁, ps₁, ts₂, ps₂, inner, close, -, rfl⟩ := emits_append.mp h
    obtain ⟨ts₃, ps₃, ts₄, ps₄, lead, items, -, rfl⟩ := emits_append.mp inner
    rw [(emits_tokens.mp lead).2, (emits_tokens.mp close).2, emits_params_values items,
      List.mapM_map]
    simpa using converted

theorem binds_containmentIn (d : Dialect) (s : Seat) (property : String) (shape : Shape)
    (positive : Bool) :
    Binds (containmentIn d s property shape positive) [.shape shape.wkt] := by
  rw [containmentIn_eq]
  apply binds_require
  intro c _
  cases template? d (s.qualified c) shape.srid with
  | none => exact binds_fail _ _
  | some t =>
    have inner := binds_append (binds_tokens (negatable positive t).1)
      (binds_param (b := .shape shape.wkt) rfl)
    have whole := binds_append inner (binds_tokens (negatable positive t).2)
    rw [List.nil_append, List.append_nil] at whole
    exact whole

theorem binds_combined {α : Type} {connective : Connective} {xs : List α} {f : α → Emission}
    {g : α → List Binding} (h : ∀ x ∈ xs, Binds (f x) (g x)) :
    Binds (combined connective (xs.map f)) (xs.flatMap g) := by
  unfold combined
  split
  · rename_i empty
    rw [List.isEmpty_iff, List.map_eq_nil_iff] at empty
    subst empty
    exact binds_tokens _
  · exact binds_separated h

theorem expressionsBindings_eq_flatMap (s : Seat) (items : List Expression) :
    expressionsBindings s items = items.flatMap (expressionBindings s) := by
  induction items with
  | nil => rfl
  | cons e rest ih => rw [expressionsBindings, ih, List.flatMap_cons]

theorem binds_expression (d : Dialect) (p : Plan) (s : Seat) (e : Expression) :
    Binds (expression d p s e) (expressionBindings s e) := by
  induction e with
  | inList property values positive => exact binds_membership s property values positive
  | within property shape positive => exact binds_containmentIn d s property shape positive
  | compare property relation v positive =>
    exact binds_compareLiteral s property relation v positive
  | compareProperty property relation aliasName other positive =>
    exact binds_require fun o _ => binds_compareColumns s property relation positive o other
  | isNull property positive =>
    exact binds_append (binds_column s property) (binds_tokens _)
  | group connective items ih =>
    rw [expression, expressionBindings, expressions_eq_map, expressionsBindings_eq_flatMap]
    exact binds_parenthesized (binds_combined ih)

theorem binds_criteria (d : Dialect) (p : Plan) (s : Seat) (c : Criteria) :
    Binds (criteria d p s c) (expressionsBindings s c.items) := by
  unfold criteria
  rw [expressions_eq_map, expressionsBindings_eq_flatMap]
  exact binds_combined fun e _ => binds_expression d p s e

theorem binds_joinExpression (p : Plan) (s : Seat) (e : JoinExpression) :
    Binds (joinExpression p s e) (joinBindings p e) := by
  apply binds_require
  intro other resolved
  apply binds_parenthesized
  cases e with
  | properties left right relation aliasName otherIsLeft positive =>
    cases otherIsLeft <;> exact binds_compareColumns _ _ _ _ _ _
  | value property literal relation aliasName positive =>
    have owner : (p.resolve aliasName).toOption = some other := by
      rw [show p.resolve aliasName = .ok other from resolved]
      rfl
    rw [joinBindings, owner]
    exact binds_compareLiteral other property relation literal positive

theorem Binds.after {a b : Emission} {bs : List Binding} (hb : Binds b bs) (ha : Binds a []) :
    Binds (a ++ b) bs := by
  have both := binds_append ha hb
  rwa [List.nil_append] at both

theorem binds_joinKeywords (d : Dialect) (aliasName : String) (type : JoinType) :
    Binds (joinKeywords d aliasName type) [] := by
  cases type with
  | inner => exact binds_tokens _
  | leftOuter => exact binds_tokens _
  | rightOuter => exact binds_tokens _
  | fullOuter =>
    unfold joinKeywords
    cases d.fullOuterJoin? with
    | none => exact binds_fail _ _
    | some _ => exact binds_tokens _

theorem binds_joinClause (d : Dialect) (p : Plan) (s : Seat) :
    Binds (joinClause d p s) (s.member.on.flatMap (joinBindings p)) := by
  unfold joinClause
  cases s.member.joinType with
  | none => exact binds_fail _ _
  | some type =>
    have words : Binds (tokens [Token.space] ++ joinKeywords d s.member.aliasName type
        ++ tokens ([Token.space] ++ table s ++ [Token.space, Token.on, Token.space])) [] :=
      (binds_tokens _).after ((binds_joinKeywords d _ type).after (binds_tokens _))
    refine Binds.after (binds_separated ?_) words
    intro e _
    exact binds_foundAt (binds_joinExpression p s e)

theorem binds_fromClause (d : Dialect) (p : Plan) :
    Binds (fromClause d p)
      (p.seats.tail.flatMap fun s => s.member.on.flatMap (joinBindings p)) := by
  unfold fromClause
  cases p.seats with
  | nil => exact binds_tokens _
  | cons first rest =>
    refine Binds.after (binds_concat ?_) (binds_tokens _)
    intro s _
    exact binds_joinClause d p s

theorem filtered_bindings (seats : List Seat) :
    ((seats.filterMap fun s =>
        match s.member.criteria with
        | some c => if c.filters then some (s, c) else none
        | none => none).flatMap
      fun part => expressionsBindings part.1 part.2.items) = seats.flatMap filterBindings := by
  induction seats with
  | nil => rfl
  | cons s rest ih =>
    rw [List.flatMap_cons, ← ih, List.filterMap_cons, filterBindings]
    cases s.member.criteria with
    | none => rfl
    | some c =>
      by_cases filters : c.filters = true
      · simp [filters]
      · have nothing := c.eq_of_not_filters filters
        subst nothing
        simp [filters, expressionsBindings]

theorem binds_filterClause (d : Dialect) (p : Plan) (lead : Token) (part : Seat × Criteria) :
    Binds (filterClause d p lead part) (expressionsBindings part.1 part.2.items) :=
  (binds_parenthesized (binds_foundAt (binds_criteria d p part.1 part.2))).after (binds_tokens _)

theorem binds_whereClause (d : Dialect) (p : Plan) :
    Binds (whereClause d p) (p.seats.flatMap filterBindings) := by
  have walk := filtered_bindings p.seats
  rw [← walk]
  unfold whereClause
  change Binds _ ((filtered p).flatMap _)
  cases filtered p with
  | nil => exact binds_tokens _
  | cons first rest =>
    apply binds_append (binds_filterClause d p _ first)
    apply binds_concat
    intro part _
    exact binds_filterClause d p _ part

theorem binds_body (d : Dialect) (p : Plan) : Binds (body d p) (planBindings p) :=
  binds_append (binds_fromClause d p) (binds_whereClause d p)

theorem binds_orderItem (p : Plan) (o : SortOrder) : Binds (orderItem p o) [] := by
  unfold orderItem
  cases o.direction with
  | computed => exact binds_tokens _
  | ascending =>
    exact binds_require fun s _ => (binds_tokens _).after (binds_column s o.property)
  | descending =>
    exact binds_require fun s _ => (binds_tokens _).after (binds_column s o.property)

theorem binds_orderClause (p : Plan) (orders : List SortOrder) :
    Binds (orderClause p orders) [] := by
  unfold orderClause
  split
  · exact binds_tokens _
  · refine Binds.after ?_ (binds_tokens _)
    have nothingBound : orders.flatMap (fun _ => ([] : List Binding)) = [] := by simp
    rw [← nothingBound]
    exact binds_separated fun o _ => binds_orderItem p o

theorem binds_selectStatement (d : Dialect) (p : Plan) (orders : List SortOrder) :
    Binds (selectStatement d p orders) (planBindings p) := by
  have lead := (binds_body d p).after
    (binds_tokens ([Token.select, Token.space] ++ columnList d p ++ [Token.space]))
  have whole := binds_append lead (binds_orderClause p orders)
  rw [List.append_nil] at whole
  exact whole

theorem binds_countStatement (d : Dialect) (p : Plan) :
    Binds (countStatement d p) (planBindings p) :=
  (binds_body d p).after (binds_tokens _)

/-- Placeholders are numbered from one in the order they are written, also when the statement
    breaks off, and the parameters of a whole statement are the bindings of its plan in order. -/
theorem placeholders_aligned {members : List Member} {p : Plan}
    (accepted : Plan.ofMembers members = .ok p) (d : Dialect) (request : Request) (q : Query) :
    placeholders (compile d members request q).query.tokens =
        List.range' 1 (compile d members request q).query.params.length ∧
      ((compile d members request q).failure = none →
        (planBindings p).mapM Binding.value =
          some (compile d members request q).query.params) := by
  obtain ⟨sameTokens, sameParams, sameFailure⟩ := compile_accepted accepted d request q
  have numbered : Numbered (statement d p request) := by
    cases request with
    | select orders => exact numbered_selectStatement d p orders
    | count => exact numbered_countStatement d p
  have binds : Binds (statement d p request) (planBindings p) := by
    cases request with
    | select orders => exact binds_selectStatement d p orders
    | count => exact binds_countStatement d p
  rw [sameTokens, sameParams, sameFailure]
  exact ⟨numbered 0, fun complete => binds _ _ _ (emits_of_complete complete)⟩

theorem placeholders_aligned_sample :
    placeholders (compile .tsql [Sample.authors, Sample.books] .count default).query.tokens =
        [1, 2, 3, 4] ∧
      (planBindings Sample.plan).mapM Binding.value =
        some [.integer 7, .integer 1, .integer 2, .text "POINT(1 2)"] := by
  have aligned := placeholders_aligned Sample.accepted .tsql .count default
  have params : (compile .tsql [Sample.authors, Sample.books] .count default).query.params =
      [.integer 7, .integer 1, .integer 2, .text "POINT(1 2)"] := by decide
  have complete : (compile .tsql [Sample.authors, Sample.books] .count default).failure = none := by
    rfl
  have bound := aligned.2 complete
  rw [params] at bound
  exact ⟨aligned.1.trans (by rw [params]; rfl), bound⟩

end Joinery.Sql
