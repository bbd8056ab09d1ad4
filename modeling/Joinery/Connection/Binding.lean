import Joinery.Value.Basic

/-!
How a database with five storage classes holds a bound value: truth values as the
integers 0 and 1, and a NaN as null. All else is stored as it is.
-/
namespace Joinery

def Value.stored : Value → Value
  | .boolean b => .integer (if b then 1 else 0)
  | .real x => if x.isNan then .null else .real x
  | v => v

def Value.storageClass : Value → String
  | .null => "Null"
  | .integer _ => "Integer"
  | .real _ => "Real"
  | .text _ => "Text"
  | .boolean _ => "Integer"
  | .blob _ => "Blob"

end Joinery
