/-!
Character properties as sorted tables of inclusive code point ranges.
-/
namespace Joinery.Text

def inRanges (table : List (Nat × Nat)) (c : Char) : Bool :=
  table.any fun r => r.1 ≤ c.toNat && c.toNat ≤ r.2

end Joinery.Text
