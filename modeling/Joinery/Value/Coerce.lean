import Joinery.Decimal.Numeral
import Joinery.Text.Blank
import Joinery.Text.LetterCase
import Joinery.Value.Basic

/-!
Conversion of a value to the type its column is declared with. A conversion keeps
the number or the text exactly, apart from integers beyond the precision of reals,
or it is refused. Null belongs to every type.
-/
namespace Joinery

inductive Width where
  | int64 | int32 | uint32
deriving DecidableEq, Repr

inductive ValueError where
  | mismatch (expected : ColumnType) (found : Value)
  | parse (text : String) (expected : ColumnType)
  | outOfRange (value : Value) (width : Width)
  | unexpectedNull (expected : ColumnType)
deriving DecidableEq, Repr

def Width.name : Width → String
  | .int64 => "integer"
  | .int32 => "i32"
  | .uint32 => "u32"

/-- The field type that is meant where a null arrives in a field that cannot hold one. -/
def ColumnType.fieldName : ColumnType → String
  | .integer => "i64"
  | .real => "f64"
  | .text => "String"
  | .boolean => "bool"
  | .blob => "Vec<u8>"

def ValueError.message : ValueError → String
  | .mismatch expected found =>
    "expected " ++ expected.name ++ ", found " ++ found.kind ++ " " ++ found.display
  | .parse text expected => "cannot parse '" ++ text ++ "' as " ++ expected.name
  | .outOfRange value width =>
    "value " ++ value.display ++ " is out of range for " ++ width.name
  | .unexpectedNull expected => "unexpected null for non-optional " ++ expected.fieldName

namespace Value

/-- A parsed value, or the refusal of the whole text, blanks included. -/
def parsed (s : String) (expected : ColumnType) : Option Value → Except ValueError Value
  | some v => .ok v
  | none => .error (.parse s expected)

def readBoolean? (s : String) : Option Bool :=
  let word := Text.lower (String.ofList (Text.trim s.toList))
  if word = "true" ∨ word = "1" then some true
  else if word = "false" ∨ word = "0" then some false
  else none

def toInteger : Value → Except ValueError Value
  | .null => .ok .null
  | .integer n => .ok (.integer n)
  | .real x =>
    match x.toInt? with
    | some n =>
      if Decimal.inInt64 n then .ok (.integer (Int64.ofInt n))
      else .error (.outOfRange (.real x) .int64)
    | none => .error (.mismatch .integer (.real x))
  | .boolean b => .ok (.integer (if b then 1 else 0))
  | .text s => parsed s .integer ((Decimal.readInt64? (Text.trim s.toList)).map .integer)
  | .blob bytes => .error (.mismatch .integer (.blob bytes))

def toReal : Value → Except ValueError Value
  | .null => .ok .null
  | .real x => .ok (.real x)
  | .integer n => .ok (.real (Double.ofInt n.toInt))
  | .text s => parsed s .real ((Decimal.readDouble? (Text.trim s.toList)).map .real)
  | v => .error (.mismatch .real v)

def toText : Value → Except ValueError Value
  | .null => .ok .null
  | .text s => .ok (.text s)
  | .integer n => .ok (.text (Value.integer n).display)
  | .real x => .ok (.text (Value.real x).display)
  | .boolean b => .ok (.text (Value.boolean b).display)
  | .blob bytes => .error (.mismatch .text (.blob bytes))

def toBoolean : Value → Except ValueError Value
  | .null => .ok .null
  | .boolean b => .ok (.boolean b)
  | .integer n =>
    if n = 0 then .ok (.boolean false)
    else if n = 1 then .ok (.boolean true)
    else .error (.mismatch .boolean (.integer n))
  | .text s => parsed s .boolean ((readBoolean? s).map .boolean)
  | v => .error (.mismatch .boolean v)

def toBlob : Value → Except ValueError Value
  | .null => .ok .null
  | .blob bytes => .ok (.blob bytes)
  | .text s => .ok (.blob s.toUTF8.data.toList)
  | v => .error (.mismatch .blob v)

def coerce (v : Value) : ColumnType → Except ValueError Value
  | .integer => v.toInteger
  | .real => v.toReal
  | .text => v.toText
  | .boolean => v.toBoolean
  | .blob => v.toBlob

end Value
end Joinery
