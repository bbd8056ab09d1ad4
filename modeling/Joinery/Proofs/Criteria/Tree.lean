import Joinery.Criteria.Basic

/-!
Induction on filter trees: what holds of every kind of leaf, and of a group whenever it
holds of all its members, holds of every tree. The functions on lists of members map the
function on one.
-/
namespace Joinery.Expression

@[induction_eliminator]
theorem induction {motive : Expression → Prop}
    (inList : ∀ property values positive, motive (.inList property values positive))
    (within : ∀ property shape positive, motive (.within property shape positive))
    (compare : ∀ property relation v positive, motive (.compare property relation v positive))
    (compareProperty : ∀ property relation aliasName other positive,
      motive (.compareProperty property relation aliasName other positive))
    (isNull : ∀ property positive, motive (.isNull property positive))
    (group : ∀ connective items, (∀ e ∈ items, motive e) → motive (.group connective items))
    (e : Expression) : motive e := by
  refine @Expression.rec motive (fun items => ∀ e ∈ items, motive e)
    inList within compare compareProperty isNull group ?_ ?_ e
  · intro e member
    cases member
  · intro first rest holds all e member
    rcases List.mem_cons.mp member with same | later
    · exact same ▸ holds
    · exact all e later

theorem invertAll_eq_map (items : List Expression) : invertAll items = items.map invert := by
  induction items with
  | nil => rfl
  | cons e rest ih => rw [invertAll, ih, List.map_cons]

/-- The nodes of a tree at any depth, the tree itself among them. -/
inductive Node : Expression → Expression → Prop where
  | self (e : Expression) : Node e e
  | item {node item : Expression} {connective : Connective} {items : List Expression}
      (member : item ∈ items) (inside : Node node item) : Node node (.group connective items)

end Joinery.Expression

namespace Joinery.Criteria

theorem eq_of_not_filters (c : Criteria) (h : ¬ c.filters = true) : c = ⟨.and, []⟩ := by
  obtain ⟨connective, items⟩ := c
  simp only [filters, isEmpty] at h
  simp_all

end Joinery.Criteria
