import Joinery.Decimal.Style
import Joinery.Text.Quoted

/-!
Column values and the types a column may be declared with.
-/
namespace Joinery

inductive ColumnType where
  | integer | real | text | boolean | blob
deriving DecidableEq, Repr

def ColumnType.name : ColumnType → String
  | .integer => "integer"
  | .real => "real"
  | .text => "text"
  | .boolean => "boolean"
  | .blob => "blob"

/-- The names a type may be written with; the first of each is the one written back. -/
def ColumnType.names : List (ColumnType × List String) := [
  (.integer, ["integer", "int", "bigint", "long"]),
  (.real, ["real", "double", "float", "decimal"]),
  (.text, ["text", "string", "varchar"]),
  (.boolean, ["boolean", "bool"]),
  (.blob, ["blob", "binary", "bytes"])]

def ColumnType.ofName? (s : String) : Option ColumnType :=
  (ColumnType.names.find? fun entry => entry.2.contains s).map (·.1)

inductive Value where
  | null
  | integer (n : Int64)
  | real (x : Double)
  | text (s : String)
  | boolean (b : Bool)
  | blob (bytes : List UInt8)
deriving DecidableEq, Repr

namespace Value

def isNull : Value → Bool
  | .null => true
  | _ => false

def kind : Value → String
  | .null => "null"
  | .integer _ => "integer"
  | .real _ => "real"
  | .text _ => "text"
  | .boolean _ => "boolean"
  | .blob _ => "blob"

def agrees : Value → Value → Bool
  | .real x, .real y => x.agrees y
  | v, w => v == w

def agreeAll : List Value → List Value → Bool
  | [], [] => true
  | v :: vs, w :: ws => v.agrees w && agreeAll vs ws
  | _, _ => false

def booleanText (b : Bool) : String := if b then "true" else "false"

def integerText (n : Int64) : String := toString n.toInt

def display : Value → String
  | .null => "NULL"
  | .integer n => integerText n
  | .real x => Decimal.Style.plain.write x
  | .text s => s
  | .boolean b => booleanText b
  | .blob bytes => "<" ++ toString bytes.length ++ " bytes>"

def bracketed (items : List String) : String := "[" ++ ", ".intercalate items ++ "]"

def describe : Value → String
  | .null => "Null"
  | .integer n => "Integer(" ++ integerText n ++ ")"
  | .real x => "Real(" ++ Decimal.Style.exact.write x ++ ")"
  | .text s => "Text(" ++ Text.quoted s ++ ")"
  | .boolean b => "Boolean(" ++ booleanText b ++ ")"
  | .blob bytes => "Blob(" ++ bracketed (bytes.map fun b => toString b.toNat) ++ ")"

end Value

/-- A parameter list for a reader. Null has a mark of its own, so that it cannot be
    taken for the text `NULL`. -/
def renderParams (params : List Value) : String :=
  if params.isEmpty then "[empty list]"
  else
    ", ".intercalate (params.map fun v =>
      if v.isNull then "[db null]" else "\"" ++ v.display ++ "\"")

end Joinery
