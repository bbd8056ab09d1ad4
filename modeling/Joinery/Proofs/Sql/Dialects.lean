import Joinery.Proofs.Sql.Neutral
import Joinery.Proofs.Sql.Requests

/-!
One join in two dialects. Wherever both can express it, the two statements say the same
and bind the same values, and what is wrong with the stores is wrong in both. A dialect
gives up only on a full outer join that it has no keyword for or on a containment that it
has no template for.
-/
namespace Joinery.Sql
open Emission

inductive Wanting (d : Dialect) (members : List Member) : Feature → Prop where
  | fullOuterJoin {m : Member} (joined : m ∈ members.tail) (type : m.joinType = some .fullOuter)
      (wordless : d.fullOuterJoin? = none) : Wanting d members (.fullOuterJoin m.aliasName)
  | containment {m : Member} {c : Criteria} {e : Expression} {property : String} {shape : Shape}
      {positive : Bool} (member : m ∈ members) (filter : m.criteria = some c) (item : e ∈ c.items)
      (node : Expression.Node (.within property shape positive) e)
      (wordless : ∀ column k srid, within? d column k srid = none) :
      Wanting d members (.containment property)

/-- The fragment ends where the dialect lacks something that it may lack. -/
def Lacks (lacking : Dialect → Feature → Prop) (d : Dialect) (f : Fragment) : Prop :=
  ∃ feature, lacking d feature ∧ f.failure = some (.unsupported d feature)

structure Agree (d d' : Dialect) (f g : Fragment) : Prop where
  failure : ∃ fault : Option Fault,
    f.failure = fault.map .configuration ∧ g.failure = fault.map .configuration
  params : f.params = g.params
  words : ∃ ps, Spelt d f.tokens ps ∧ Spelt d' g.tokens ps

inductive Paired (lacking : Dialect → Feature → Prop) (d d' : Dialect) (f g : Fragment) : Prop where
  | ownLack (lacks : Lacks lacking d f)
  | otherLack (lacks : Lacks lacking d' g)
  | agree (same : Agree d d' f g)

/-- Two parts that agree wherever they stand, unless one of the dialects lacks something. -/
def Akin (lacking : Dialect → Feature → Prop) (d d' : Dialect) (a b : Emission) : Prop :=
  ∀ n, Paired lacking d d' (a n) (b n)

section Akin
variable {lacking : Dialect → Feature → Prop} {d d' : Dialect}

section Fragments
variable {f g : Fragment}

theorem same_fault (paired : Paired lacking d d' f g) (fault : Option Fault)
    (told : f.failure = fault.map .configuration) :
    g.failure = fault.map .configuration ∨ ∃ feature, g.failure = some (.unsupported d' feature) := by
  cases paired with
  | ownLack lacks =>
    obtain ⟨feature, -, failure⟩ := lacks
    cases fault <;> cases told.symm.trans failure
  | otherLack lacks =>
    obtain ⟨feature, -, failure⟩ := lacks
    exact .inr ⟨feature, failure⟩
  | agree same =>
    obtain ⟨fault', own, other⟩ := same.failure
    exact .inl (other.trans (own.symm.trans told))

theorem agree_of_complete (paired : Paired lacking d d' f g) (complete : f.failure = none)
    (complete' : g.failure = none) : Agree d d' f g := by
  cases paired with
  | ownLack lacks =>
    obtain ⟨feature, -, failure⟩ := lacks
    cases complete.symm.trans failure
  | otherLack lacks =>
    obtain ⟨feature, -, failure⟩ := lacks
    cases complete'.symm.trans failure
  | agree same => exact same

theorem lacking_of_unsupported (paired : Paired lacking d d f f) {e : Dialect} {feature : Feature}
    (told : f.failure = some (.unsupported e feature)) : e = d ∧ lacking d feature := by
  have named (lacks : Lacks lacking d f) : e = d ∧ lacking d feature := by
    obtain ⟨feature', may, failure⟩ := lacks
    cases told.symm.trans failure
    exact ⟨rfl, may⟩
  cases paired with
  | ownLack lacks => exact named lacks
  | otherLack lacks => exact named lacks
  | agree same =>
    obtain ⟨fault, own, -⟩ := same.failure
    rw [told] at own
    cases fault <;> cases own

end Fragments

theorem akin_tokens {ts : List Token} (verbatim : Verbatim ts) :
    Akin lacking d d' (tokens ts) (tokens ts) := by
  intro n
  exact .agree ⟨⟨none, rfl, rfl⟩, rfl, ts.map .token, verbatim d, verbatim d'⟩

theorem akin_nothing : Akin lacking d d' nothing nothing :=
  akin_tokens fun d => spelt_nil d

theorem akin_param (v : Value) : Akin lacking d d' (param v) (param v) := by
  intro n
  have placeholder : Verbatim [.param (n + 1)] := verbatim_inert rfl
  exact .agree ⟨⟨none, rfl, rfl⟩, rfl, _, placeholder d, placeholder d'⟩

theorem akin_fault (fault : Fault) :
    Akin lacking d d' (fail (.configuration fault)) (fail (.configuration fault)) := by
  intro n
  exact .agree ⟨⟨some fault, rfl, rfl⟩, rfl, [], spelt_nil d, spelt_nil d'⟩

theorem lacks_append {a b : Emission} {n : Nat} (lacks : Lacks lacking d (a n)) :
    Lacks lacking d ((a ++ b) n) := by
  obtain ⟨feature, may, failure⟩ := lacks
  refine ⟨feature, may, ?_⟩
  rw [append_apply, failure]
  exact failure

theorem akin_append {a a' b b' : Emission} (first : Akin lacking d d' a a')
    (second : Akin lacking d d' b b') : Akin lacking d d' (a ++ b) (a' ++ b') := by
  intro n
  cases first n with
  | ownLack lacks => exact .ownLack (lacks_append lacks)
  | otherLack lacks => exact .otherLack (lacks_append lacks)
  | agree same =>
    obtain ⟨⟨fault, own, other⟩, params, ps, spelt, spelt'⟩ := same
    rw [append_apply, append_apply, own, other]
    cases fault with
    | some fault => exact .agree ⟨⟨some fault, own, other⟩, params, ps, spelt, spelt'⟩
    | none =>
      -- both second parts count their placeholders from the same number
      rw [← params]
      cases second (n + (a n).params.length) with
      | ownLack lacks => exact .ownLack lacks
      | otherLack lacks => exact .otherLack lacks
      | agree same' =>
        obtain ⟨⟨fault, own', other'⟩, params', qs, more, more'⟩ := same'
        apply Paired.agree
        constructor
        · exact ⟨fault, own', other'⟩
        · exact congrArg ((a n).params ++ ·) params'
        · exact ⟨ps ++ qs, spelt_append spelt more, spelt_append spelt' more'⟩

theorem akin_require {α : Type} {check : Except Fault α} {k k' : α → Emission}
    (kept : ∀ a, check = .ok a → Akin lacking d d' (k a) (k' a)) :
    Akin lacking d d' (require check k) (require check k') := by
  cases check with
  | error fault => exact akin_fault fault
  | ok a => exact kept a rfl

theorem failure_foundAt (place : Place) (e : Emission) (n : Nat) :
    (foundAt place e n).failure = (e n).failure.map (Error.foundAt place) := rfl

theorem lacks_foundAt {place : Place} {e : Emission} {n : Nat} (lacks : Lacks lacking d (e n)) :
    Lacks lacking d (foundAt place e n) := by
  obtain ⟨feature, may, failure⟩ := lacks
  refine ⟨feature, may, ?_⟩
  rw [failure_foundAt, failure]
  rfl

theorem akin_foundAt {a b : Emission} (place : Place) (inside : Akin lacking d d' a b) :
    Akin lacking d d' (foundAt place a) (foundAt place b) := by
  intro n
  cases inside n with
  | ownLack lacks => exact .ownLack (lacks_foundAt lacks)
  | otherLack lacks => exact .otherLack (lacks_foundAt lacks)
  | agree same =>
    obtain ⟨⟨fault, own, other⟩, params, words⟩ := same
    refine .agree ⟨⟨fault.map (.found place), ?_, ?_⟩, params, words⟩
    · rw [failure_foundAt, own]
      cases fault <;> rfl
    · rw [failure_foundAt, other]
      cases fault <;> rfl

theorem akin_concat {α : Type} {f g : α → Emission} {xs : List α}
    (kept : ∀ x ∈ xs, Akin lacking d d' (f x) (g x)) :
    Akin lacking d d' (concat (xs.map f)) (concat (xs.map g)) :=
  related_concat akin_append akin_nothing kept

theorem akin_separated {α : Type} {f g : α → Emission} {xs : List α} {sep : List Token}
    (verbatim : Verbatim sep) (kept : ∀ x ∈ xs, Akin lacking d d' (f x) (g x)) :
    Akin lacking d d' (separated sep (xs.map f)) (separated sep (xs.map g)) :=
  related_separated akin_append akin_nothing (akin_tokens verbatim) kept

theorem verbatim_between (connective : Connective) : Verbatim (between connective) := by
  cases connective <;> exact verbatim_inert rfl

theorem akin_constant (holds : Bool) : Akin lacking d d' (constant holds) (constant holds) := by
  cases holds <;> exact akin_tokens (verbatim_inert rfl)

theorem akin_combined {α : Type} {f g : α → Emission} {xs : List α} (connective : Connective)
    (kept : ∀ x ∈ xs, Akin lacking d d' (f x) (g x)) :
    Akin lacking d d' (combined connective (xs.map f)) (combined connective (xs.map g)) := by
  cases xs with
  | nil => exact akin_constant _
  | cons x xs => exact akin_separated (verbatim_between connective) kept

theorem akin_parenthesized {a b : Emission} (inside : Akin lacking d d' a b) :
    Akin lacking d d' (parenthesized a) (parenthesized b) := by
  have opening : Verbatim [Token.lparen] := verbatim_inert rfl
  have closing : Verbatim [Token.rparen] := verbatim_inert rfl
  exact akin_append (akin_append (akin_tokens opening) inside) (akin_tokens closing)

theorem akin_column (s : Seat) (property : String) :
    Akin lacking d d' (column s property) (column s property) :=
  akin_require fun c _ => akin_tokens (verbatim_qualified s.letter c.name)

theorem akin_isNull (s : Seat) (property : String) (positive : Bool) :
    Akin lacking d d' (column s property ++ tokens [Token.space, nullTest positive])
      (column s property ++ tokens [Token.space, nullTest positive]) := by
  apply akin_append (akin_column s property)
  cases positive <;> exact akin_tokens (verbatim_inert rfl)

theorem akin_compareLiteral (s : Seat) (property : String) (relation : Relation) (v : Value)
    (positive : Bool) :
    Akin lacking d d' (compareLiteral s property relation v positive)
      (compareLiteral s property relation v positive) := by
  apply akin_require
  intro c _
  have lead : Verbatim (s.qualified c ++ [Token.space]) :=
    verbatim_append (verbatim_qualified s.letter c.name) (verbatim_inert rfl)
  apply akin_append (akin_tokens lead)
  split
  · cases positive <;> exact akin_tokens (verbatim_inert rfl)
  · apply akin_require
    intro w _
    have symbol : Verbatim [.symbol (comparison relation positive), Token.space] := by
      cases relation <;> cases positive <;> exact verbatim_inert rfl
    exact akin_append (akin_tokens symbol) (akin_param w)

theorem akin_compareColumns (left : Seat) (property : String) (relation : Relation)
    (positive : Bool) (right : Seat) (other : String) :
    Akin lacking d d' (compareColumns left property relation positive right other)
      (compareColumns left property relation positive right other) := by
  have symbol : Verbatim [Token.space, .symbol (comparison relation positive), Token.space] := by
    cases relation <;> cases positive <;> exact verbatim_inert rfl
  exact akin_append (akin_append (akin_column left property) (akin_tokens symbol))
    (akin_column right other)

theorem akin_membership (s : Seat) (property : String) (values : List Value) (positive : Bool) :
    Akin lacking d d' (membership s property values positive)
      (membership s property values positive) := by
  unfold membership
  split
  · exact akin_constant _
  · apply akin_require
    intro c _
    apply akin_require
    intro ws _
    have name := verbatim_qualified s.letter c.name
    have lead : Verbatim (s.qualified c ++ [Token.space]
        ++ (if positive then [] else [Token.not, Token.space])
        ++ [Token.among, Token.space, Token.lparen]) := by
      cases positive with
      | true =>
        have inside : Verbatim [Token.space, Token.among, Token.space, Token.lparen] :=
          verbatim_inert rfl
        have whole := verbatim_append name inside
        exact whole
      | false =>
        have space : Verbatim [Token.space] := verbatim_inert rfl
        have opening : Verbatim [Token.space, Token.lparen] :=
          verbatim_inert rfl
        have whole := verbatim_append name
          (verbatim_append space (verbatim_append verbatim_outside opening))
        exact whole
    have comma : Verbatim [Token.comma, Token.space] := verbatim_inert rfl
    have closing : Verbatim [Token.rparen] := verbatim_inert rfl
    have items : Akin lacking d d' (separated [Token.comma, Token.space] (ws.map param))
        (separated [Token.comma, Token.space] (ws.map param)) :=
      akin_separated comma fun v _ => akin_param v
    exact akin_append (akin_append (akin_tokens lead) items) (akin_tokens closing)

theorem wordless_of_template? {column : List Token} {srid : Option Int64}
    (none : template? d column srid = none) (column' : List Token) (k : Nat)
    (srid' : Option Int64) : within? d column' k srid' = .none := by
  cases d <;> first | rfl | cases none

theorem akin_containmentIn (s : Seat) (property : String) (shape : Shape) (positive : Bool)
    (wanting : ∀ e, (∀ column k srid, within? e column k srid = none) →
      lacking e (.containment property)) :
    Akin lacking d d' (containmentIn d s property shape positive)
      (containmentIn d' s property shape positive) := by
  rw [containmentIn_eq, containmentIn_eq]
  apply akin_require
  intro c _ n
  cases own : template? d (s.qualified c) shape.srid with
  | none => exact .ownLack ⟨_, wanting d (wordless_of_template? own), rfl⟩
  | some t =>
    cases other : template? d' (s.qualified c) shape.srid with
    | none => exact .otherLack ⟨_, wanting d' (wordless_of_template? other), rfl⟩
    | some t' =>
      have spelt := spelt_template own positive (n + 1)
      have spelt' := spelt_template other positive (n + 1)
      refine .agree ⟨⟨none, rfl, rfl⟩, rfl, [.within ⟨s.letter, c.name, n + 1⟩ positive], ?_, ?_⟩
      · simpa [append_apply, tokens, param] using spelt
      · simpa [append_apply, tokens, param] using spelt'

def Allows (lacking : Dialect → Feature → Prop) (e : Expression) : Prop :=
  ∀ d property shape positive, Expression.Node (.within property shape positive) e →
    (∀ column k srid, within? d column k srid = none) → lacking d (.containment property)

theorem akin_expression (p : Plan) (s : Seat) (e : Expression) (allows : Allows lacking e) :
    Akin lacking d d' (expression d p s e) (expression d' p s e) := by
  -- only containments are spelt by dialect; every other leaf is the same emission in both
  induction e with
  | inList property values positive => exact akin_membership s property values positive
  | within property shape positive =>
    apply akin_containmentIn
    intro e wordless
    exact allows e property shape positive (.self _) wordless
  | compare property relation v positive => exact akin_compareLiteral s property relation v positive
  | compareProperty property relation aliasName other positive =>
    exact akin_require fun o _ => akin_compareColumns s property relation positive o other
  | isNull property positive => exact akin_isNull s property positive
  | group connective items ih =>
    rw [expression, expression, expressions_eq_map, expressions_eq_map]
    apply akin_parenthesized
    apply akin_combined
    intro e member
    apply ih e member
    intro d property shape positive node
    exact allows d property shape positive (.item member node)

theorem akin_criteria (p : Plan) (s : Seat) (c : Criteria) (allows : ∀ e ∈ c.items, Allows lacking e) :
    Akin lacking d d' (criteria d p s c) (criteria d' p s c) := by
  unfold criteria
  rw [expressions_eq_map, expressions_eq_map]
  exact akin_combined _ fun e member => akin_expression p s e (allows e member)

theorem akin_joinExpression (p : Plan) (s : Seat) (e : JoinExpression) :
    Akin lacking d d' (joinExpression p s e) (joinExpression p s e) := by
  apply akin_require
  intro other _
  apply akin_parenthesized
  cases e with
  | properties left right relation aliasName otherIsLeft positive =>
    cases otherIsLeft <;> exact akin_compareColumns _ _ _ _ _ _
  | value property literal relation aliasName positive => exact akin_compareLiteral _ _ _ _ _

theorem akin_joinKeywords (aliasName : String) (type : JoinType)
    (wanting : type = .fullOuter → ∀ e, Dialect.fullOuterJoin? e = none →
      lacking e (.fullOuterJoin aliasName)) :
    Akin lacking d d' (joinKeywords d aliasName type) (joinKeywords d' aliasName type) := by
  cases type with
  | inner => exact akin_tokens (verbatim_inert rfl)
  | leftOuter => exact akin_tokens (verbatim_inert rfl)
  | rightOuter => exact akin_tokens (verbatim_inert rfl)
  | fullOuter =>
    intro n
    unfold joinKeywords
    cases own : d.fullOuterJoin? with
    | none => exact .ownLack ⟨_, wanting rfl d own, rfl⟩
    | some keyword =>
      cases other : d'.fullOuterJoin? with
      | none => exact .otherLack ⟨_, wanting rfl d' other, rfl⟩
      | some keyword' =>
        exact .agree ⟨⟨none, rfl, rfl⟩, rfl, _, spelt_fullOuterJoin own, spelt_fullOuterJoin other⟩

theorem verbatim_table (s : Seat) : Verbatim (table s) := by
  have space : Verbatim [Token.space] := verbatim_inert rfl
  exact verbatim_append (verbatim_ident s.member.mapping.table)
    (verbatim_append space (verbatim_ident s.letter))

theorem akin_joinClause (p : Plan) (s : Seat)
    (wanting : s.member.joinType = some .fullOuter → ∀ e, Dialect.fullOuterJoin? e = none →
      lacking e (.fullOuterJoin s.member.aliasName)) :
    Akin lacking d d' (joinClause d p s) (joinClause d' p s) := by
  unfold joinClause
  cases type : s.member.joinType with
  | none => exact akin_fault _
  | some type' =>
    have space : Verbatim [Token.space] := verbatim_inert rfl
    have on : Verbatim [Token.space, Token.on, Token.space] :=
      verbatim_inert rfl
    have middle : Verbatim ([Token.space] ++ table s ++ [Token.space, Token.on, Token.space]) :=
      verbatim_append (verbatim_append space (verbatim_table s)) on
    have keywords : Akin lacking d d' (joinKeywords d s.member.aliasName type')
        (joinKeywords d' s.member.aliasName type') := by
      apply akin_joinKeywords
      rintro rfl
      exact wanting type
    apply akin_append
    · exact akin_append (akin_append (akin_tokens space) keywords) (akin_tokens middle)
    · apply akin_separated (verbatim_between s.member.connective)
      intro e _
      exact akin_foundAt (.joinExpression e) (akin_joinExpression p s e)

/-- What the stores ask of a dialect that has no words for it, the dialect may lack. -/
structure Permits (lacking : Dialect → Feature → Prop) (p : Plan) : Prop where
  joins : ∀ s ∈ p.seats.tail, s.member.joinType = some .fullOuter →
    ∀ e, Dialect.fullOuterJoin? e = none → lacking e (.fullOuterJoin s.member.aliasName)
  filters : ∀ s ∈ p.seats, ∀ c, s.member.criteria = some c → ∀ e ∈ c.items, Allows lacking e

theorem akin_fromClause {p : Plan} (permits : Permits lacking p) :
    Akin lacking d d' (fromClause d p) (fromClause d' p) := by
  have joins := permits.joins
  unfold fromClause
  cases seats : p.seats with
  | nil => exact akin_nothing
  | cons first rest =>
    rw [seats] at joins
    have lead : Verbatim ([Token.source, Token.space] ++ table first) :=
      verbatim_append (verbatim_inert rfl) (verbatim_table first)
    apply akin_append (akin_tokens lead)
    apply akin_concat
    intro s member
    exact akin_joinClause p s (joins s member)

theorem akin_filterClause (p : Plan) {lead : Token} (verbatim : Verbatim [Token.space, lead, Token.space])
    (part : Seat × Criteria) (allows : ∀ e ∈ part.2.items, Allows lacking e) :
    Akin lacking d d' (filterClause d p lead part) (filterClause d' p lead part) := by
  apply akin_append (akin_tokens verbatim)
  apply akin_parenthesized
  exact akin_foundAt _ (akin_criteria p part.1 part.2 allows)

theorem mem_filtered {p : Plan} {part : Seat × Criteria} (member : part ∈ filtered p) :
    part.1 ∈ p.seats ∧ part.1.member.criteria = some part.2 := by
  obtain ⟨s, inside, kept⟩ := List.mem_filterMap.mp member
  split at kept
  · rename_i c own
    split at kept
    · cases kept
      exact ⟨inside, own⟩
    · cases kept
  · cases kept

theorem akin_whereClause {p : Plan} (permits : Permits lacking p) :
    Akin lacking d d' (whereClause d p) (whereClause d' p) := by
  have allows : ∀ part ∈ filtered p, ∀ e ∈ part.2.items, Allows lacking e := by
    intro part member
    obtain ⟨inside, own⟩ := mem_filtered member
    exact permits.filters part.1 inside part.2 own
  unfold whereClause
  cases parts : filtered p with
  | nil => exact akin_nothing
  | cons first rest =>
    rw [parts] at allows
    apply akin_append
    · exact akin_filterClause p (verbatim_inert rfl) first (allows first List.mem_cons_self)
    · apply akin_concat
      intro part member
      have later := List.mem_cons_of_mem first member
      exact akin_filterClause p (verbatim_inert rfl) part (allows part later)

theorem akin_orderItem (p : Plan) (o : SortOrder) :
    Akin lacking d d' (orderItem p o) (orderItem p o) := by
  unfold orderItem
  cases o.direction with
  | computed => exact akin_tokens (verbatim_inert rfl)
  | ascending =>
    apply akin_require
    intro s _
    exact akin_append (akin_column s o.property) (akin_tokens (verbatim_inert rfl))
  | descending =>
    apply akin_require
    intro s _
    exact akin_append (akin_column s o.property) (akin_tokens (verbatim_inert rfl))

theorem akin_orderClause (p : Plan) (orders : List SortOrder) :
    Akin lacking d d' (orderClause p orders) (orderClause p orders) := by
  unfold orderClause
  split
  · exact akin_nothing
  · apply akin_append (akin_tokens (verbatim_inert rfl))
    apply akin_separated (verbatim_inert rfl)
    intro o _
    exact akin_orderItem p o

theorem akin_rest {p : Plan} (permits : Permits lacking p) (request : Request) :
    Akin lacking d d' (request.rest d p) (request.rest d' p) := by
  have shared : Akin lacking d d' (body d p) (body d' p) :=
    akin_append (akin_fromClause permits) (akin_whereClause permits)
  cases request with
  | select orders => exact akin_append shared (akin_orderClause p orders)
  | count => exact shared

end Akin

theorem unaliased_lead (d : Dialect) (p : Plan) (request : Request) :
    unaliased (request.lead d p) = request.lead .ansi p := by
  cases request with
  | select orders =>
    have columns := unaliased_columnList d p
    calc unaliased ((Request.select orders).lead d p)
        = [Token.select, Token.space] ++ unaliased (columnList d p ++ [Token.space]) := rfl
      _ = (Request.select orders).lead .ansi p := by
        rw [columns]
        rfl
  | count => rfl

theorem permits_wanting {members : List Member} {p : Plan}
    (accepted : Plan.ofMembers members = .ok p) : Permits (Wanting · members) p := by
  obtain ⟨rfl, -⟩ := Plan.ofMembers_ok accepted
  constructor
  · intro s member type d wordless
    have inside : s.member ∈ members.tail := by
      have mapped := List.mem_map_of_mem (f := Seat.member) member
      rwa [List.map_tail, Plan.map_member_seats] at mapped
    exact .fullOuterJoin inside type wordless
  · intro s member c filter e item d property shape positive node wordless
    have inside : s.member ∈ members := by
      have mapped := List.mem_map_of_mem (f := Seat.member) member
      rwa [Plan.map_member_seats] at mapped
    exact .containment inside filter item node wordless

theorem neutralForm_rest {d : Dialect} {p : Plan} (some_seat : p.seats ≠ []) {request : Request}
    {ps : List Piece} (spelt : Spelt d (request.rest d p 0).tokens ps) :
    neutralForm d (request.lead d p ++ (request.rest d p 0).tokens) =
      (request.lead .ansi p).map .token ++ ps := by
  obtain ⟨us, front⟩ := rest_tokens some_seat d request 0
  have read := spelt.read [] (by simp)
  rw [List.append_nil, pieces, List.append_nil] at read
  rw [front] at read ⊢
  rw [neutralForm_append (not_mem_lead rfl d p request), read, unaliased_lead]

/-- What becomes of one join in two dialects, and what a dialect may lack for it. -/
structure Translated (d d' : Dialect) (members : List Member) (one other : Compiled) : Prop where
  complete : one.failure = none →
    other.failure = none ∨ ∃ feature, other.failure = some (.unsupported d' feature)
  refused : ∀ fault, one.failure = some (.configuration fault) →
    other.failure = some (.configuration fault) ∨
      ∃ feature, other.failure = some (.unsupported d' feature)
  agreed : one.failure = none → other.failure = none → one.query.params = other.query.params ∧
    neutralForm d one.query.tokens = neutralForm d' other.query.tokens
  unsupported : ∀ e feature, one.failure = some (.unsupported e feature) →
    e = d ∧ Wanting d members feature
  joins : one.failure = none → d.fullOuterJoin? = none → Token.fullOuterJoin ∉ one.query.tokens

/-- Dialects differ in spelling and in what they lack: the same request compiled for two of them
    has the same neutral tokens and parameters unless one refuses a feature it asks for. -/
theorem compile_across_dialects (d d' : Dialect) (members : List Member) (request : Request)
    (q q' : Query) :
    Translated d d' members (compile d members request q) (compile d' members request q') := by
  cases accepted : Plan.ofMembers members with
  | error fault =>
    have refused (d : Dialect) (q : Query) :
        compile d members request q = ⟨q, some (.configuration fault)⟩ := by
      rw [compile, accepted]
    rw [refused, refused]
    constructor <;> simp
  | ok p =>
    have some_seat := Plan.seats_ne_nil accepted
    have akin (d' : Dialect) : Akin (Wanting · members) d d' (request.rest d p) (request.rest d' p) :=
      akin_rest (permits_wanting accepted) request
    obtain ⟨tokens, params, failure⟩ := compile_rest accepted d request q
    obtain ⟨tokens', params', failure'⟩ := compile_rest accepted d' request q'
    constructor
    · rw [failure, failure']
      exact same_fault (akin d' 0) none
    · rw [failure, failure']
      exact fun fault => same_fault (akin d' 0) (some fault)
    · rw [failure, failure', tokens, tokens', params, params']
      intro complete complete'
      obtain ⟨-, values, ps, spelt, spelt'⟩ := agree_of_complete (akin d' 0) complete complete'
      refine ⟨values, ?_⟩
      rw [neutralForm_rest some_seat spelt, neutralForm_rest some_seat spelt']
    · rw [failure]
      -- a dialect is compared with itself to learn what it can lack
      intro e feature told
      exact lacking_of_unsupported (akin d 0) told
    · rw [failure, tokens]
      intro complete wordless inside
      obtain ⟨-, -, ps, spelt, -⟩ := agree_of_complete (akin d 0) complete complete
      rcases List.mem_append.mp inside with lead | rest
      · exact not_mem_lead rfl d p request lead
      · exact spelt.joins wordless rest

theorem compile_across_dialects_sample :
    let members := [Sample.authors, Sample.books]
    let request := Request.select [⟨"books", "id", .descending⟩]
    let one := compile .postgres members request default
    let other := compile .oracle members request default
    let third := compile .sqlite members request default
    one.failure = none ∧ other.failure = none ∧
      one.query.tokens.length ≠ other.query.tokens.length ∧
      one.query.params = other.query.params ∧
      neutralForm .postgres one.query.tokens = neutralForm .oracle other.query.tokens ∧
      third.failure = some (.unsupported .sqlite (.containment "place")) ∧
      Wanting .sqlite members (.containment "place") := by
  intro members request one other third
  have complete : one.failure = none := by rfl
  have complete' : other.failure = none := by rfl
  have lacks : third.failure = some (.unsupported .sqlite (.containment "place")) := by rfl
  have both := compile_across_dialects .postgres .oracle members request default default
  have wanting := compile_across_dialects .sqlite .oracle members request default default
  obtain ⟨params, words⟩ := both.agreed complete complete'
  obtain ⟨-, feature⟩ := wanting.unsupported _ _ lacks
  exact ⟨complete, complete', by decide +kernel, params, words, lacks, feature⟩

end Joinery.Sql
