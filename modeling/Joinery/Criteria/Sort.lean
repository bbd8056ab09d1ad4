/-!
Sort orders over the stores of a join.
-/
namespace Joinery

/-- A computed order is SQL text that is taken over as it stands. -/
inductive SortDirection where
  | ascending | descending | computed
deriving DecidableEq, Repr

structure SortOrder where
  aliasName : String
  property : String
  direction : SortDirection
deriving DecidableEq, Repr

end Joinery
