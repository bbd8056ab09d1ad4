import Joinery.Value.Coerce

/-!
Fields of records: the types a field may have, what it holds, and how a column
value is read into it. Reading converts to the column type of the field first.
Only an optional field, or one that holds any value, accepts null.
-/
namespace Joinery

@[reducible] def ColumnType.Content : ColumnType → Type
  | .integer => Int64
  | .real => Double
  | .text => String
  | .boolean => Bool
  | .blob => List UInt8

def Value.content? : (type : ColumnType) → Value → Option type.Content
  | .integer, .integer n => some n
  | .real, .real x => some x
  | .text, .text s => some s
  | .boolean, .boolean b => some b
  | .blob, .blob bytes => some bytes
  | _, _ => none

inductive FieldType where
  | int64 | int32 | uint32 | double | boolean | text | bytes | value
  | optional (inner : FieldType)
deriving DecidableEq, Repr

namespace FieldType

@[reducible] def Carrier : FieldType → Type
  | .int64 => Int64
  | .int32 => Int32
  | .uint32 => UInt32
  | .double => Double
  | .boolean => Bool
  | .text => String
  | .bytes => List UInt8
  | .value => Value
  | .optional inner => Option inner.Carrier

/-- Reads a value into a field that holds what a column of the type does. -/
def readAs (type : ColumnType) (v : Value) : Except ValueError type.Content :=
  match v.coerce type with
  | .error cause => .error cause
  | .ok w =>
    match w.content? type with
    | some content => .ok content
    | none => .error (if w.isNull then .unexpectedNull type else .mismatch type w)

def readInt64 (v : Value) : Except ValueError Int64 := readAs .integer v

def readInt32 (v : Value) : Except ValueError Int32 :=
  match readInt64 v with
  | .ok n =>
    if -0x80000000 ≤ n.toInt ∧ n.toInt < 0x80000000 then .ok (Int32.ofInt n.toInt)
    else .error (.outOfRange (.integer n) .int32)
  | .error e => .error e

def readUInt32 (v : Value) : Except ValueError UInt32 :=
  match readInt64 v with
  | .ok n =>
    if 0 ≤ n.toInt ∧ n.toInt < 0x100000000 then .ok (UInt32.ofNat n.toInt.toNat)
    else .error (.outOfRange (.integer n) .uint32)
  | .error e => .error e

def readDouble (v : Value) : Except ValueError Double := readAs .real v

def readBoolean (v : Value) : Except ValueError Bool := readAs .boolean v

def readText (v : Value) : Except ValueError String := readAs .text v

def readBytes (v : Value) : Except ValueError (List UInt8) := readAs .blob v

def read : (t : FieldType) → Value → Except ValueError t.Carrier
  | .int64, v => readInt64 v
  | .int32, v => readInt32 v
  | .uint32, v => readUInt32 v
  | .double, v => readDouble v
  | .boolean, v => readBoolean v
  | .text, v => readText v
  | .bytes, v => readBytes v
  | .value, v => .ok v
  | .optional inner, v => if v.isNull then .ok none else (inner.read v).map some

def toValue : (t : FieldType) → t.Carrier → Value
  | .int64, n => .integer n
  | .int32, n => .integer (Int64.ofInt n.toInt)
  | .uint32, n => .integer (Int64.ofInt n.toNat)
  | .double, x => .real x
  | .boolean, b => .boolean b
  | .text, s => .text s
  | .bytes, payload => .blob payload
  | .value, v => v
  | .optional _, none => .null
  | .optional inner, some content => inner.toValue content

def initial : (t : FieldType) → t.Carrier
  | .int64 => (0 : Int64)
  | .int32 => (0 : Int32)
  | .uint32 => (0 : UInt32)
  | .double => Double.zero false
  | .boolean => false
  | .text => ""
  | .bytes => ([] : List UInt8)
  | .value => Value.null
  | .optional inner => (none : Option inner.Carrier)

end FieldType
end Joinery
