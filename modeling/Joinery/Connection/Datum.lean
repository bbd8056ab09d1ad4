import Joinery.Connection.Binding

/-!
What a database with five storage classes holds in one place. A value is bound as one of them, a
truth value as an integer and a text as its bytes. What is read back depends on the class alone,
so the kind of the value that was bound is not known any more.
-/
namespace Joinery

inductive Datum where
  | null
  | integer (n : Int64)
  | real (x : Double)
  | text (bytes : List UInt8)
  | blob (bytes : List UInt8)
deriving DecidableEq, Repr

def Value.bound : Value → Datum
  | .null => .null
  | .integer n => .integer n
  | .real x => .real x
  | .text s => .text s.toUTF8.data.toList
  | .boolean b => .integer (if b then 1 else 0)
  | .blob bytes => .blob bytes

namespace Datum

def isNan : Datum → Bool
  | .real x => x.isNan
  | _ => false

/-- What is held once the database has taken it: there is no NaN. -/
def kept (d : Datum) : Datum := if d.isNan then .null else d

def value? : Datum → Option Value
  | .null => some .null
  | .integer n => some (.integer n)
  | .real x => some (.real x)
  | .text bytes => (String.fromUTF8? ⟨bytes.toArray⟩).map .text
  | .blob bytes => some (.blob bytes)

end Datum
end Joinery
