import Joinery.Proofs.Sql.Failing
import Mathlib.Tactic.Push

/-!
What the parts of a join need: stores of a certain alias, mapped properties, literals of a
column's type, and dialects that can express them. A condition fails with the first need of
its own that is not met, in the order in which it is written, and with nothing else.
-/
namespace Joinery.Sql
open Emission

theorem findSome?_flatMap {α β γ : Type} (xs : List α) (f : α → List β) (g : β → Option γ) :
    (xs.flatMap f).findSome? g = xs.findSome? fun x => (f x).findSome? g := by
  induction xs with
  | nil => rfl
  | cons x rest ih =>
    rw [List.flatMap_cons, List.findSome?_append, List.findSome?_cons, ih]
    cases (f x).findSome? g <;> rfl

inductive Need where
  | store (aliasName : String)
  | mapped (aliasName property : String)
  | literal (aliasName property : String) (v : Value)
  | fullOuterJoin (aliasName : String)
  | containment (property : String)

namespace Need

def Met (d : Dialect) (members : List Member) : Need → Prop
  | .store aliasName => ∃ m ∈ members, m.aliasName = aliasName
  | .mapped aliasName property => ∀ m ∈ members, m.aliasName = aliasName →
      ∃ c ∈ m.mapping.columns, c.property = property
  | .literal aliasName property v => ∀ m ∈ members, m.aliasName = aliasName →
      ∀ c ∈ m.mapping.columns, c.property = property → ∃ w, v.coerce c.type = .ok w
  | .fullOuterJoin _ => d.fullOuterJoin? ≠ none
  | .containment _ => ∀ column n srid, within? d column n srid ≠ none

inductive Refused (d : Dialect) (members : List Member) : Need → Error → Prop where
  | store {aliasName : String} (unknown : ∀ m ∈ members, m.aliasName ≠ aliasName) :
      Refused d members (.store aliasName) (.configuration (.unknownAlias aliasName))
  | mapped {m : Member} (member : m ∈ members) {property : String}
      (unmapped : ∀ c ∈ m.mapping.columns, c.property ≠ property) :
      Refused d members (.mapped m.aliasName property)
        (.configuration (.storePropertyNotMapped m.aliasName m.mapping.table property))
  | literal {m : Member} (member : m ∈ members) {c : Column} (mapped : c ∈ m.mapping.columns)
      {v : Value} {cause : ValueError} (failed : v.coerce c.type = .error cause) :
      Refused d members (.literal m.aliasName c.property v)
        (.configuration (.valueNotBindable m.aliasName c.property c.type cause))
  | fullOuterJoin {aliasName : String} (lacking : d.fullOuterJoin? = none) :
      Refused d members (.fullOuterJoin aliasName) (.unsupported d (.fullOuterJoin aliasName))
  | containment {property : String} (lacking : ∀ column n srid, within? d column n srid = none) :
      Refused d members (.containment property) (.unsupported d (.containment property))

/-- The error of a need as it is found out; what is not known of a store that does not exist
    is not asked. -/
def refusal (d : Dialect) (p : Plan) : Need → Option Error
  | .store aliasName => fault? (p.resolve aliasName)
  | .mapped aliasName property =>
    match p.resolve aliasName with
    | .error _ => none
    | .ok s => s.unmapped property
  | .literal aliasName property v =>
    match p.resolve aliasName with
    | .error _ => none
    | .ok s => s.unbindable property v
  | .fullOuterJoin aliasName =>
    if d.fullOuterJoin?.isNone then some (.unsupported d (.fullOuterJoin aliasName)) else none
  | .containment property => wordless d property

theorem coerce_error {s : Seat} {c : Column} {v : Value} {fault : Fault} :
    s.coerce c v = .error fault ↔ ∃ cause, v.coerce c.type = .error cause ∧
      fault = .valueNotBindable s.member.aliasName c.property c.type cause := by
  unfold Seat.coerce
  cases v.coerce c.type <;> simp [eq_comm]

theorem coerce_ok {s : Seat} {c : Column} {v w : Value} :
    s.coerce c v = .ok w ↔ v.coerce c.type = .ok w := by
  unfold Seat.coerce
  cases v.coerce c.type <;> simp

variable {members : List Member} {p : Plan} (accepted : Plan.ofMembers members = .ok p)
  (d : Dialect)

section Accepted
include accepted

theorem refusal_of_refused {need : Need} {e : Error} (refused : need.Refused d members e) :
    need.refusal d p = some e := by
  cases refused with
  | store unknown =>
    obtain ⟨rfl, -, -, -⟩ := Plan.ofMembers_ok accepted
    rw [refusal, Plan.resolve_error.mpr ⟨unknown, rfl⟩, fault?]
  | mapped member unmapped =>
    obtain ⟨s, found, rfl⟩ := Plan.resolve_member accepted member
    simp only [refusal, found]
    rw [Seat.unmapped, Seat.column_error.mpr ⟨unmapped, rfl⟩, fault?]
  | literal member mapped failed =>
    obtain ⟨s, found, rfl⟩ := Plan.resolve_member accepted member
    simp only [refusal, found]
    have column := Seat.column_ok.mpr ⟨mapped, rfl⟩
    rw [Seat.unbindable_eq column, coerce_error.mpr ⟨_, failed, rfl⟩, fault?]
  | fullOuterJoin lacking => rw [refusal, lacking, if_pos Option.isNone_none]
  | containment lacking => rw [refusal, wordless, lacking, if_pos Option.isNone_none]

theorem refusal_of_met {need : Need} (met : need.Met d members) : need.refusal d p = none := by
  obtain ⟨rfl, -, -, -⟩ := Plan.ofMembers_ok accepted
  cases need with
  | store aliasName =>
    obtain ⟨m, member, rfl⟩ := met
    obtain ⟨s, found, -⟩ := Plan.resolve_member accepted member
    rw [refusal, found, fault?]
  | mapped aliasName property =>
    cases found : Plan.resolve ⟨members⟩ aliasName with
    | error fault => simp only [refusal, found]
    | ok s =>
      obtain ⟨inside, named⟩ := Plan.resolve_ok found
      obtain ⟨c, mapped, same⟩ := met s.member (List.mem_of_getElem? inside) named
      simp only [refusal, found]
      rw [Seat.unmapped, Seat.column_ok.mpr ⟨mapped, same⟩, fault?]
  | literal aliasName property v =>
    cases found : Plan.resolve ⟨members⟩ aliasName with
    | error fault => simp only [refusal, found]
    | ok s =>
      cases column : s.column property with
      | error fault => simp only [refusal, found, Seat.unbindable, column]
      | ok c =>
        obtain ⟨inside, named⟩ := Plan.resolve_ok found
        obtain ⟨mapped, same⟩ := Seat.column_ok.mp column
        obtain ⟨w, coerced⟩ := met s.member (List.mem_of_getElem? inside) named c mapped same
        simp only [refusal, found]
        rw [Seat.unbindable_eq column, coerce_ok.mpr coerced, fault?]
  | fullOuterJoin aliasName =>
    rw [refusal, if_neg fun lacking => met (Option.isNone_iff_eq_none.mp lacking)]
  | containment property =>
    rw [refusal, wordless,
      if_neg fun lacking => met [] 0 none (Option.isNone_iff_eq_none.mp lacking)]

end Accepted

theorem met_or_refused (members : List Member) (need : Need) :
    need.Met d members ∨ ∃ e, need.Refused d members e := by
  -- each refusal is the negation of what its need asks for
  rcases Classical.em (need.Met d members) with met | unmet
  · exact .inl met
  right
  cases need with
  | store aliasName =>
    exact ⟨_, .store fun m member named => unmet ⟨m, member, named⟩⟩
  | mapped aliasName property =>
    unfold Met at unmet
    push Not at unmet
    obtain ⟨m, member, rfl, unmapped⟩ := unmet
    exact ⟨_, .mapped member unmapped⟩
  | literal aliasName property v =>
    unfold Met at unmet
    push Not at unmet
    obtain ⟨m, member, rfl, c, mapped, rfl, failed⟩ := unmet
    cases coerced : v.coerce c.type with
    | ok w => exact absurd coerced (failed w)
    | error cause => exact ⟨_, .literal member mapped coerced⟩
  | fullOuterJoin aliasName =>
    exact ⟨_, .fullOuterJoin (not_not.mp unmet)⟩
  | containment property =>
    unfold Met at unmet
    push Not at unmet
    obtain ⟨column, n, srid, lacking⟩ := unmet
    have wordless := (within?_eq_none column n srid).mp lacking
    exact ⟨_, .containment fun column' n' srid' => (within?_eq_none column' n' srid').mpr wordless⟩

include accepted

theorem refusal_eq_none {need : Need} : need.refusal d p = none ↔ need.Met d members := by
  constructor
  · intro unrefused
    rcases met_or_refused d members need with met | ⟨e, refused⟩
    · exact met
    · rw [refusal_of_refused accepted d refused] at unrefused
      cases unrefused
  · exact refusal_of_met accepted d

theorem refusal_eq_some {need : Need} {e : Error} :
    need.refusal d p = some e ↔ need.Refused d members e := by
  constructor
  · intro found
    rcases met_or_refused d members need with met | ⟨e', refused⟩
    · rw [refusal_of_met accepted d met] at found
      cases found
    · rw [refusal_of_refused accepted d refused] at found
      cases found
      exact refused
  · exact refusal_of_refused accepted d

end Need

mutual

/-- What a filter on the store of this alias needs, in the order in which it is written. A
    membership in no values needs nothing. -/
def needs (own : String) : Expression → List Need
  | .inList property values _ =>
    if values.isEmpty then [] else .mapped own property :: values.map (.literal own property)
  | .within property _ _ => [.mapped own property, .containment property]
  | .compare property _ v _ => [.mapped own property, .literal own property v]
  | .compareProperty property _ none other _ => [.mapped own property, .mapped own other]
  | .compareProperty property _ (some aliasName) other _ =>
    [.store aliasName, .mapped own property, .mapped aliasName other]
  | .isNull property _ => [.mapped own property]
  | .group _ items => needsAll own items

def needsAll (own : String) : List Expression → List Need
  | [] => []
  | e :: rest => needs own e ++ needsAll own rest

end

theorem needsAll_eq_flatMap (own : String) (items : List Expression) :
    needsAll own items = items.flatMap (needs own) := by
  induction items with
  | nil => rfl
  | cons e rest ih => rw [needsAll, ih, List.flatMap_cons]

def joinNeeds (own : String) : JoinExpression → List Need
  | .properties left right _ other true _ => [.store other, .mapped other left, .mapped own right]
  | .properties left right _ other false _ => [.store other, .mapped own left, .mapped other right]
  | .value property v _ other _ => [.store other, .mapped other property, .literal other property v]

theorem findSome?_cons_or {α β : Type} (x : α) (xs : List α) (f : α → Option β) :
    (x :: xs).findSome? f = (f x).or (xs.findSome? f) := by
  rw [List.findSome?_cons]
  cases f x <;> rfl

theorem findSome?_pair {α β : Type} (x y : α) (f : α → Option β) :
    [x, y].findSome? f = (f x).or (f y) := by
  rw [findSome?_cons_or, List.findSome?_singleton]

section Conditions
variable {d : Dialect} {p : Plan} {s : Seat} {own : String} (found : p.resolve own = .ok s)
include found

theorem mapped_refusal (property : String) :
    (Need.mapped own property).refusal d p = s.unmapped property := by
  simp only [Need.refusal, found]

theorem literal_refusal (property : String) (v : Value) :
    (Need.literal own property v).refusal d p = s.unbindable property v := by
  simp only [Need.refusal, found]

theorem compared_refusal (property : String) (v : Value) :
    [Need.mapped own property, .literal own property v].findSome? (Need.refusal d p) =
      (s.unmapped property).or (s.unbindable property v) := by
  rw [findSome?_pair, mapped_refusal found, literal_refusal found]

theorem columns_refusal {o : Seat} {other : String} (found' : p.resolve other = .ok o)
    (property property' : String) :
    [Need.mapped own property, .mapped other property'].findSome? (Need.refusal d p) =
      (s.unmapped property).or (o.unmapped property') := by
  rw [findSome?_pair, mapped_refusal found, mapped_refusal found']

theorem fails_expression (e : Expression) :
    Fails (expression d p s e) ((needs own e).findSome? (Need.refusal d p)) := by
  -- needs are listed in the order of the checks, so the first one refused is the failure
  induction e with
  | inList property values positive =>
    have literals : (values.map (Need.literal own property)).findSome? (Need.refusal d p) =
        values.findSome? (s.unbindable property) := by
      rw [List.findSome?_map]
      exact congrArg values.findSome? (funext (literal_refusal found property))
    have all := fails_membership s property values positive
    unfold needs
    split
    · rename_i empty
      rwa [if_pos empty] at all
    · rename_i some_value
      rw [if_neg some_value] at all
      rwa [findSome?_cons_or, mapped_refusal found, literals]
  | within property shape positive =>
    rw [needs, findSome?_pair, mapped_refusal found]
    exact fails_containmentIn s property d shape positive
  | compare property relation v positive =>
    rw [needs, compared_refusal found]
    exact fails_compareLiteral s property relation v positive
  | compareProperty property relation aliasName other positive =>
    cases aliasName with
    | none =>
      rw [needs, columns_refusal found found]
      exact fails_compareColumns s property relation positive s other
    | some aliasName =>
      rw [needs, findSome?_cons_or]
      refine fails_require fun o resolved => ?_
      rw [columns_refusal found resolved]
      exact fails_compareColumns s property relation positive o other
  | isNull property positive =>
    rw [expression, needs, List.findSome?_singleton, mapped_refusal found]
    exact fails_tail (fails_column s property) _
  | group connective items ih =>
    rw [expression, expressions_eq_map, needs, needsAll_eq_flatMap, findSome?_flatMap]
    exact fails_parenthesized (fails_combined ih)

theorem fails_criteria (c : Criteria) :
    Fails (criteria d p s c) ((needsAll own c.items).findSome? (Need.refusal d p)) := by
  rw [criteria, expressions_eq_map, needsAll_eq_flatMap, findSome?_flatMap]
  exact fails_combined fun e _ => fails_expression found e

theorem fails_joinExpression (e : JoinExpression) :
    Fails (joinExpression p s e) ((joinNeeds own e).findSome? (Need.refusal d p)) := by
  cases e with
  | properties left right relation aliasName otherIsLeft positive =>
    cases otherIsLeft with
    | true =>
      rw [joinNeeds, findSome?_cons_or]
      refine fails_require fun o (resolved : p.resolve aliasName = .ok o) => fails_parenthesized ?_
      rw [columns_refusal resolved found]
      exact fails_compareColumns o left relation positive s right
    | false =>
      rw [joinNeeds, findSome?_cons_or]
      refine fails_require fun o (resolved : p.resolve aliasName = .ok o) => fails_parenthesized ?_
      rw [columns_refusal found resolved]
      exact fails_compareColumns s left relation positive o right
  | value property v relation aliasName positive =>
    rw [joinNeeds, findSome?_cons_or]
    refine fails_require fun o (resolved : p.resolve aliasName = .ok o) => fails_parenthesized ?_
    rw [compared_refusal resolved]
    exact fails_compareLiteral o property relation v positive

end Conditions
end Joinery.Sql
