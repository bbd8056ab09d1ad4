import Joinery.Decimal.Double

/-!
Reading numbers. An integer is an optional sign and one or more ASCII digits. A
real has a sign, digits with at most one point and at least one digit, and perhaps
an exponent that is itself an integer; infinities and NaN are spelled out, in
either case of letter.
-/
namespace Joinery.Decimal

def digitsValue (digits : List Char) : Nat :=
  digits.foldl (fun n c => 10 * n + (c.toNat - 48)) 0

def splitSign : List Char → Bool × List Char
  | '-' :: rest => (true, rest)
  | '+' :: rest => (false, rest)
  | rest => (false, rest)

def readInt? (s : List Char) : Option Int :=
  let (negative, digits) := splitSign s
  if digits.isEmpty || !digits.all Char.isDigit then none
  else if negative then some (-(digitsValue digits : Int))
  else some (digitsValue digits)

def inInt64 (n : Int) : Bool := -0x8000000000000000 ≤ n && n < 0x8000000000000000

def readInt64? (s : List Char) : Option Int64 :=
  match readInt? s with
  | some n => if inInt64 n then some (Int64.ofInt n) else none
  | none => none

def splitMantissa (s : List Char) : List Char × List Char × List Char :=
  let whole := s.takeWhile Char.isDigit
  match s.dropWhile Char.isDigit with
  | '.' :: rest => (whole, rest.takeWhile Char.isDigit, rest.dropWhile Char.isDigit)
  | rest => (whole, [], rest)

def readExponent? : List Char → Option Int
  | [] => some 0
  | c :: rest => if c = 'e' ∨ c = 'E' then readInt? rest else none

def readFinite? (negative : Bool) (s : List Char) : Option Double :=
  let (whole, fraction, rest) := splitMantissa s
  if whole.isEmpty && fraction.isEmpty then none
  else
    (readExponent? rest).map fun e =>
      Double.ofDecimal negative (digitsValue (whole ++ fraction)) (e - fraction.length)

def readDouble? (s : List Char) : Option Double :=
  let (negative, rest) := splitSign s
  let word := String.ofList (rest.map Char.toLower)
  if word = "inf" ∨ word = "infinity" then some (Double.infinity negative)
  else if word = "nan" then some Double.nan
  else readFinite? negative rest

end Joinery.Decimal
