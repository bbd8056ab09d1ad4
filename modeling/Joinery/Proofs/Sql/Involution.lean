import Joinery.Proofs.Sql.Inversion

/-!
What inversion leaves alone. Node by node, an inverted filter has the form, the properties
and the literals of the filter, every leaf with the other polarity and every group with the
other connective; no other filter does, and inverting twice gives the filter back. Both are
written with the same values or refused with the same error.
-/
namespace Joinery

theorem Connective.flipped_flipped (c : Connective) : c.flipped.flipped = c := by
  cases c <;> rfl

namespace Expression

/-- What a node says apart from its polarity or its connective. -/
inductive Content where
  | inList (property : String) (values : List Value)
  | within (property : String) (shape : Shape)
  | compare (property : String) (relation : Relation) (v : Value)
  | compareProperty (property : String) (relation : Relation) (otherAlias : Option String)
      (otherProperty : String)
  | isNull (property : String)
  | group (size : Nat)

def content : Expression → Content
  | .inList property values _ => .inList property values
  | .within property shape _ => .within property shape
  | .compare property relation v _ => .compare property relation v
  | .compareProperty property relation aliasName other _ =>
    .compareProperty property relation aliasName other
  | .isNull property _ => .isNull property
  | .group _ items => .group items.length

inductive Sense where
  | leaf (positive : Bool)
  | group (connective : Connective)

def Sense.opposite : Sense → Sense
  | .leaf positive => .leaf (!positive)
  | .group connective => .group connective.flipped

def sense : Expression → Sense
  | .group connective _ => .group connective
  | e => .leaf e.positive

def node? : Expression → List Nat → Option Expression
  | e, [] => some e
  | .group _ items, i :: path => items[i]?.bind fun item => item.node? path
  | _, _ :: _ => none

structure Complementary (e e' : Expression) : Prop where
  content : ∀ path, (e'.node? path).map content = (e.node? path).map content
  sense : ∀ path, (e'.node? path).map sense = (e.node? path).map fun node => node.sense.opposite

theorem content_invert (e : Expression) : e.invert.content = e.content := by
  cases e <;> simp [invert, content, invertAll_eq_map]

theorem sense_invert (e : Expression) : e.invert.sense = e.sense.opposite := by
  cases e <;> rfl

theorem node?_invert (e : Expression) (path : List Nat) :
    e.invert.node? path = (e.node? path).map invert := by
  induction path generalizing e with
  | nil => simp [node?]
  | cons i path ih =>
    cases e with
    | group connective items =>
      simp only [invert, node?, invertAll_eq_map, List.getElem?_map]
      cases items[i]? with
      | none => rfl
      | some item => exact ih item
    | _ => rfl

theorem invert_invert (e : Expression) : e.invert.invert = e := by
  induction e with
  | group connective items ih =>
    have members : items.map (invert ∘ invert) = items :=
      (List.map_congr_left ih).trans (List.map_id' items)
    simp only [invert, invertAll_eq_map, List.map_map, members, Connective.flipped_flipped]
  | _ => simp [invert]

theorem complementary_invert (e : Expression) : Complementary e e.invert := by
  constructor
  · intro path
    rw [node?_invert, Option.map_map]
    exact congrArg (Option.map · _) (funext content_invert)
  · intro path
    rw [node?_invert, Option.map_map]
    exact congrArg (Option.map · _) (funext sense_invert)

theorem Complementary.root {e e' : Expression} (h : Complementary e e') :
    e'.content = e.content ∧ e'.sense = e.sense.opposite := by
  have content := h.content []
  have sense := h.sense []
  simp only [node?, Option.map_some, Option.some.injEq] at content sense
  exact ⟨content, sense⟩

theorem Complementary.item {c c' : Connective} {items items' : List Expression}
    (h : Complementary (.group c items) (.group c' items')) {i : Nat} {e e' : Expression}
    (found : items[i]? = some e) (found' : items'[i]? = some e') : Complementary e e' := by
  constructor
  · intro path
    simpa only [node?, found, found', Option.bind_some] using h.content (i :: path)
  · intro path
    simpa only [node?, found, found', Option.bind_some] using h.sense (i :: path)

theorem eq_invert_of_complementary {e e' : Expression} (h : Complementary e e') :
    e' = e.invert := by
  obtain ⟨same, opposite⟩ := h.root
  induction e generalizing e' with
  | group connective items ih =>
    cases e' with
    | group connective' items' =>
      have length : items'.length = items.length := Content.group.inj same
      have flipped : connective' = connective.flipped := Sense.group.inj opposite
      -- paths through a member of the group are paths of that member
      have members : items' = items.map invert := by
        apply List.ext_getElem
        · rw [length, List.length_map]
        · intro i inside inside'
          have within : i < items.length := by omega
          have own := h.item (List.getElem?_eq_getElem within) (List.getElem?_eq_getElem inside)
          rw [List.getElem_map]
          exact ih items[i] (List.getElem_mem within) own own.root.1 own.root.2
      rw [invert, invertAll_eq_map, flipped, members]
    | _ => cases same
  | _ =>
    cases e' <;> cases same
    cases opposite
    rfl

theorem complementary_iff {e e' : Expression} : Complementary e e' ↔ e' = e.invert :=
  ⟨eq_invert_of_complementary, fun same => same ▸ complementary_invert e⟩

end Expression

namespace Criteria

def toGroup (c : Criteria) : Expression := .group c.connective c.items

theorem toGroup_injective {c c' : Criteria} (same : c.toGroup = c'.toGroup) : c = c' := by
  obtain ⟨connective, items⟩ := c
  cases same
  rfl

theorem toGroup_invert (c : Criteria) : c.invert.toGroup = c.toGroup.invert := rfl

theorem invert_invert (c : Criteria) : c.invert.invert = c :=
  toGroup_injective (by rw [toGroup_invert, toGroup_invert, Expression.invert_invert])

end Criteria

namespace Sql

/-- The same values are bound, and either both fragments are complete or both end with the
    same error. -/
def SameOutcome (f f' : Fragment) : Prop :=
  f'.params = f.params ∧
    ((f.failure = none ∧ f'.failure = none) ∨
      ∃ e, f.failure = some e ∧ f'.failure = some e)

theorem sameOutcome_of_alike {a b : Emission} (alike : Alike a b) (n : Nat) :
    SameOutcome (a n) (b n) := by
  obtain ⟨failure, params⟩ := alike n
  refine ⟨params.symm, ?_⟩
  rw [← failure]
  cases (a n).failure with
  | none => exact .inl ⟨rfl, rfl⟩
  | some e => exact .inr ⟨e, rfl, rfl⟩

/-- Inversion is the involution that turns the sense of every node and nothing else, and it
    binds nothing new. -/
theorem invert_involution :
    (∀ e : Expression, e.invert.invert = e ∧
      (∀ e', Expression.Complementary e e' ↔ e' = e.invert) ∧
      ∀ d p s n, SameOutcome (expression d p s e n) (expression d p s e.invert n)) ∧
    ∀ c : Criteria, c.invert.invert = c ∧
      (∀ c' : Criteria, Expression.Complementary c.toGroup c'.toGroup ↔ c' = c.invert) ∧
      ∀ d p s n, SameOutcome (criteria d p s c n) (criteria d p s c.invert n) := by
  constructor
  · intro e
    refine ⟨e.invert_invert, fun e' => Expression.complementary_iff, ?_⟩
    intro d p s n
    exact sameOutcome_of_alike (alike_invert e) n
  · intro c
    refine ⟨c.invert_invert, fun c' => ?_, ?_⟩
    · rw [Expression.complementary_iff, ← Criteria.toGroup_invert]
      exact ⟨Criteria.toGroup_injective, congrArg Criteria.toGroup⟩
    · intro d p s n
      exact sameOutcome_of_alike (alike_criteria_invert c) n

end Sql
end Joinery
