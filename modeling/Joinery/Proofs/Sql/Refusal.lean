import Joinery.Proofs.Sql.Needs

/-!
When a join is refused. Once the stores have the right shape, both statements are written
if everything is met that their parts need, and otherwise the first need that is not met is
what is reported: that of joining, store by store, then of filtering and then of ordering.
-/
namespace Joinery.Sql
open Emission

structure Demand where
  need : Need
  place : Option Place

namespace Demand

def placed (x : Demand) (e : Error) : Error :=
  match x.place with
  | none => e
  | some place => e.foundAt place

def refusal (d : Dialect) (p : Plan) (x : Demand) : Option Error :=
  (x.need.refusal d p).map x.placed

end Demand

def joinDemands (m : Member) : List Demand :=
  (if m.joinType = some .fullOuter then [⟨.fullOuterJoin m.aliasName, none⟩] else []) ++
    m.on.flatMap fun e => (joinNeeds m.aliasName e).map (⟨·, some (.joinExpression e)⟩)

def filterDemands (m : Member) : List Demand :=
  match m.criteria with
  | none => []
  | some c => (needsAll m.aliasName c.items).map (⟨·, some (.criteriaOf m.aliasName)⟩)

def orderDemands (o : SortOrder) : List Demand :=
  if o.direction = .computed then []
  else [⟨.store o.aliasName, none⟩, ⟨.mapped o.aliasName o.property, none⟩]

def Request.demands : Request → List Demand
  | .select orders => orders.flatMap orderDemands
  | .count => []

/-- What a statement needs, in the order in which it is written. -/
def demands (members : List Member) (request : Request) : List Demand :=
  members.tail.flatMap joinDemands ++ members.flatMap filterDemands ++ request.demands

section Clauses
variable {d : Dialect} {p : Plan} {s : Seat}

theorem findSome?_placed (needs : List Need) (place : Place) :
    (needs.map (Demand.mk · (some place))).findSome? (Demand.refusal d p) =
      (needs.findSome? (Need.refusal d p)).map (Error.foundAt place) := by
  rw [List.findSome?_map, List.map_findSome?]
  rfl

theorem refusal_unplaced (need : Need) : Demand.refusal d p ⟨need, none⟩ = need.refusal d p :=
  Option.map_id_apply

theorem fails_joinKeywords (aliasName : String) (type : JoinType) :
    Fails (joinKeywords d aliasName type)
      ((if type = .fullOuter then [⟨.fullOuterJoin aliasName, none⟩] else []).findSome?
        (Demand.refusal d p)) := by
  cases type with
  | fullOuter =>
    rw [if_pos rfl, List.findSome?_singleton]
    unfold joinKeywords Demand.refusal Need.refusal
    cases d.fullOuterJoin? <;> exact fun n => rfl
  | _ => exact fails_tokens _

theorem fails_joinClause (found : p.resolve s.member.aliasName = .ok s)
    (typed : s.member.joinType ≠ none) :
    Fails (joinClause d p s) ((joinDemands s.member).findSome? (Demand.refusal d p)) := by
  obtain ⟨type, own⟩ := Option.ne_none_iff_exists'.mp typed
  have expressions : Fails (separated (between s.member.connective)
      (s.member.on.map fun e => foundAt (.joinExpression e) (joinExpression p s e)))
      ((s.member.on.flatMap fun e =>
        (joinNeeds s.member.aliasName e).map (Demand.mk · (some (.joinExpression e)))).findSome?
          (Demand.refusal d p)) := by
    rw [findSome?_flatMap]
    refine fails_separated fun e _ => ?_
    rw [findSome?_placed]
    exact fails_foundAt _ (fails_joinExpression found e)
  unfold joinClause joinDemands
  rw [own, List.findSome?_append]
  simp only [Option.some.injEq]
  have keywords := fails_joinKeywords (d := d) (p := p) s.member.aliasName type
  exact fails_append (fails_tail (fails_lead keywords _) _) expressions

theorem fails_fromClause {members : List Member} (accepted : Plan.ofMembers members = .ok p) :
    Fails (fromClause d p) ((members.tail.flatMap joinDemands).findSome? (Demand.refusal d p)) := by
  have own := Plan.resolve_own accepted
  have joined := Plan.seats_joined accepted
  obtain ⟨rfl, -, -, -⟩ := Plan.ofMembers_ok accepted
  have rest : members.tail = (Plan.seats ⟨members⟩).tail.map Seat.member := by
    rw [List.map_tail, Plan.map_member_seats]
  rw [rest, findSome?_flatMap, List.findSome?_map]
  unfold fromClause
  cases seats : Plan.seats ⟨members⟩ with
  | nil => exact fails_tokens _
  | cons first others =>
    -- the first store is not joined, and its own join is never looked at
    rw [seats] at own joined
    exact fails_lead (fails_concat fun s member =>
      fails_joinClause (own s (List.mem_cons_of_mem _ member)) (joined s member).1) _

theorem filtered_refusal (seats : List Seat) :
    (seats.filterMap fun s =>
        match s.member.criteria with
        | some c => if c.filters then some (s, c) else none
        | none => none).findSome?
      (fun part => ((needsAll part.1.member.aliasName part.2.items).findSome? (Need.refusal d p)).map
        (Error.foundAt (.criteriaOf part.1.member.aliasName))) =
      seats.findSome? fun s => (filterDemands s.member).findSome? (Demand.refusal d p) := by
  -- criteria that do not filter demand nothing, so skipping them loses no refusal
  induction seats with
  | nil => rfl
  | cons s rest ih =>
    rw [List.filterMap_cons, findSome?_cons_or, ← ih]
    unfold filterDemands
    cases s.member.criteria with
    | none => rfl
    | some c =>
      dsimp only
      rw [findSome?_placed]
      by_cases filters : c.filters = true
      · rw [if_pos filters]
        dsimp only
        rw [findSome?_cons_or]
      · rw [if_neg filters, c.eq_of_not_filters filters]
        rfl

theorem fails_whereClause {members : List Member} (accepted : Plan.ofMembers members = .ok p) :
    Fails (whereClause d p) ((members.flatMap filterDemands).findSome? (Demand.refusal d p)) := by
  have own := Plan.resolve_own accepted
  obtain ⟨rfl, -, -, -⟩ := Plan.ofMembers_ok accepted
  have parts : (members.flatMap filterDemands).findSome? (Demand.refusal d ⟨members⟩) =
      (filtered ⟨members⟩).findSome? fun part =>
        ((needsAll part.1.member.aliasName part.2.items).findSome? (Need.refusal d ⟨members⟩)).map
          (Error.foundAt (.criteriaOf part.1.member.aliasName)) := by
    have list : members.flatMap filterDemands =
        ((Plan.seats ⟨members⟩).map Seat.member).flatMap filterDemands := by
      rw [Plan.map_member_seats]
    rw [list, findSome?_flatMap, List.findSome?_map]
    exact (filtered_refusal _).symm
  have each (lead : Token) : ∀ part ∈ filtered ⟨members⟩, Fails (filterClause d ⟨members⟩ lead part)
      (((needsAll part.1.member.aliasName part.2.items).findSome? (Need.refusal d ⟨members⟩)).map
        (Error.foundAt (.criteriaOf part.1.member.aliasName))) := fun part member =>
    fails_lead (fails_parenthesized
      (fails_foundAt _ (fails_criteria (own part.1 (mem_filtered member).1) part.2))) _
  rw [parts]
  unfold whereClause
  cases list : filtered ⟨members⟩ with
  | nil => exact fails_tokens _
  | cons first rest =>
    rw [list] at each
    rw [findSome?_cons_or]
    exact fails_append (each Token.filter first List.mem_cons_self) (fails_concat fun part member =>
      each Token.and part (List.mem_cons_of_mem first member))

theorem fails_orderItem (o : SortOrder) :
    Fails (orderItem p o) ((orderDemands o).findSome? (Demand.refusal d p)) := by
  have sorted (direction : Keyword) :
      Fails (require (p.resolve o.aliasName) fun s =>
          column s o.property ++ tokens [Token.space, .keyword direction])
        ([⟨.store o.aliasName, none⟩, ⟨.mapped o.aliasName o.property, none⟩].findSome?
          (Demand.refusal d p)) := by
    rw [findSome?_pair, refusal_unplaced, refusal_unplaced]
    refine fails_require fun s resolved => ?_
    rw [mapped_refusal resolved]
    exact fails_tail (fails_column s o.property) _
  unfold orderItem orderDemands
  cases o.direction with
  | computed => exact fails_tokens _
  | ascending => exact sorted .asc
  | descending => exact sorted .desc

theorem fails_rest {members : List Member} (accepted : Plan.ofMembers members = .ok p)
    (request : Request) :
    Fails (request.rest d p) ((demands members request).findSome? (Demand.refusal d p)) := by
  have shared :=
    fails_append (fails_fromClause (d := d) accepted) (fails_whereClause (d := d) accepted)
  rw [demands, List.findSome?_append, List.findSome?_append]
  cases request with
  | select orders =>
    refine fails_append shared ?_
    rw [Request.demands, findSome?_flatMap]
    unfold orderClause
    split
    · rename_i empty
      rw [List.isEmpty_iff.mp empty]
      exact fails_tokens _
    · exact fails_lead (fails_separated fun o _ => fails_orderItem o) _
  | count =>
    rw [Request.demands, List.findSome?_nil, Option.or_none]
    exact shared

end Clauses

def FirstUnmet (d : Dialect) (members : List Member) (xs : List Demand) (e : Error) : Prop :=
  ∃ before x after cause, xs = before ++ x :: after ∧ (∀ b ∈ before, b.need.Met d members) ∧
    x.need.Refused d members cause ∧ e = x.placed cause

section Demands
variable {members : List Member} {p : Plan} (accepted : Plan.ofMembers members = .ok p)
  (d : Dialect)
include accepted

theorem demand_refusal_eq_none {x : Demand} : x.refusal d p = none ↔ x.need.Met d members := by
  rw [Demand.refusal, Option.map_eq_none_iff, Need.refusal_eq_none accepted]

theorem demand_refusal_eq_some {x : Demand} {e : Error} :
    x.refusal d p = some e ↔ ∃ cause, x.need.Refused d members cause ∧ e = x.placed cause := by
  rw [Demand.refusal, Option.map_eq_some_iff]
  constructor
  · rintro ⟨cause, refused, rfl⟩
    exact ⟨cause, (Need.refusal_eq_some accepted d).mp refused, rfl⟩
  · rintro ⟨cause, refused, rfl⟩
    exact ⟨cause, (Need.refusal_eq_some accepted d).mpr refused, rfl⟩

theorem refused_iff {xs : List Demand} {e : Error} :
    xs.findSome? (Demand.refusal d p) = some e ↔ FirstUnmet d members xs e := by
  rw [List.findSome?_eq_some_iff]
  constructor
  · rintro ⟨before, x, after, split, refused, met⟩
    obtain ⟨cause, own, same⟩ := (demand_refusal_eq_some accepted d).mp refused
    exact ⟨before, x, after, cause, split,
      fun b member => (demand_refusal_eq_none accepted d).mp (met b member), own, same⟩
  · rintro ⟨before, x, after, cause, split, met, own, same⟩
    exact ⟨before, x, after, split, (demand_refusal_eq_some accepted d).mpr ⟨cause, own, same⟩,
      fun b member => (demand_refusal_eq_none accepted d).mpr (met b member)⟩

theorem compile_failure (request : Request) (q : Query) :
    (compile d members request q).failure =
      (demands members request).findSome? (Demand.refusal d p) := by
  rw [(compile_accepted accepted d request q).2.2, statement_eq]
  exact fails_lead (fails_rest accepted request) _ 0

theorem complete_iff (request : Request) (q : Query) :
    (compile d members request q).failure = none ↔
      ∀ x ∈ demands members request, x.need.Met d members := by
  rw [compile_failure accepted, List.findSome?_eq_none_iff]
  exact forall₂_congr fun x _ => demand_refusal_eq_none accepted d

/-- Joins are refused for a need that is not met, and for nothing else. -/
theorem compile_refusal :
    (∀ (orders : List SortOrder) (q q' : Query),
      (∀ x ∈ demands members (.select orders), x.need.Met d members) →
        (compile d members (.select orders) q).failure = none ∧
          (compile d members .count q').failure = none) ∧
    ∀ (request : Request) (q : Query),
      ((compile d members request q).failure = none ↔
        ∀ x ∈ demands members request, x.need.Met d members) ∧
      ∀ e, (compile d members request q).failure = some e ↔
        FirstUnmet d members (demands members request) e := by
  constructor
  · intro orders q q' met
    refine ⟨(complete_iff accepted d _ q).mpr met, (complete_iff accepted d _ q').mpr ?_⟩
    intro x member
    have shared : x ∈ members.tail.flatMap joinDemands ++ members.flatMap filterDemands := by
      simpa [demands, Request.demands] using member
    exact met x (List.mem_append_left _ shared)
  · intro request q
    refine ⟨complete_iff accepted d request q, fun e => ?_⟩
    rw [compile_failure accepted, refused_iff accepted]

end Demands

theorem compile_refusal_sample :
    let members := [Sample.authors, Sample.books]
    let orders : List SortOrder := [⟨"books", "id", .descending⟩]
    (∀ x ∈ demands members (.select orders), x.need.Met .tsql members) ∧
      (compile .tsql members .count default).failure = none ∧
      FirstUnmet .sqlite members (demands members .count) (.unsupported .sqlite (.containment "place")) := by
  intro members orders
  obtain ⟨both, each⟩ := compile_refusal Sample.accepted .tsql
  have met := (each (.select orders) default).1.mp rfl
  refine ⟨met, (both orders default default met).2, ?_⟩
  exact (((compile_refusal Sample.accepted .sqlite).2 .count default).2 _).mp rfl

end Joinery.Sql
