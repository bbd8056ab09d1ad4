import Joinery.Config.Document.Table
import Joinery.Config.Document.Text
import Joinery.Decimal.Numeral

/-!
Numbers, truth values, dates and times, each read from the whole of its text.
-/
namespace Joinery.Document

def joinDigits? (digit : Char → Bool) : List Char → Option (List Char)
  | [] => some []
  | '_' :: _ => none
  | c :: '_' :: rest =>
    if digit c && rest.head?.any digit then (joinDigits? digit rest).map (c :: ·) else none
  | c :: rest => (joinDigits? digit rest).map (c :: ·)

def isHexDigit (c : Char) : Bool := (hexDigit? c).isSome

def isDigitOf (base : Nat) (c : Char) : Bool := (hexDigit? c).any (· < base)

def valueIn (base : Nat) (digits : List Char) : Nat :=
  digits.foldl (fun n c => n * base + (hexDigit? c).getD 0) 0

def inBase? (base : Nat) (s : List Char) : Option Node :=
  (joinDigits? (isDigitOf base) s).bind fun digits =>
    if !digits.all (isDigitOf base) then none
    else if digits.isEmpty then some (.integer none)
    else some (.integer (some (valueIn base digits)))

def isPadded : List Char → Bool
  | '0' :: c :: _ => c.isDigit || c == '_'
  | _ => false

/-- Digits after a sign. Each underscore lies between digits of some base. Other characters
    than decimal digits do not refuse the number, they leave it without a value. -/
def whole? (negative : Bool) (s : List Char) : Option Node :=
  if isPadded s then none
  else
    (joinDigits? isHexDigit s).map fun digits =>
      let n : Int := Decimal.digitsValue digits
      .integer (if digits.all Char.isDigit then some (if negative then -n else n) else none)

def isExponentMark (c : Char) : Bool := c == 'e' || c == 'E'

def isDigits (s : List Char) : Bool := !s.isEmpty && s.all Char.isDigit

def isExponent : List Char → Bool
  | [] => true
  | c :: '+' :: digits => isExponentMark c && isDigits digits
  | c :: '-' :: digits => isExponentMark c && isDigits digits
  | c :: digits => isExponentMark c && isDigits digits

def isReal (s : List Char) : Bool :=
  !(s.takeWhile Char.isDigit).isEmpty &&
    match s.dropWhile Char.isDigit with
    | '.' :: rest =>
      !(rest.takeWhile Char.isDigit).isEmpty && isExponent (rest.dropWhile Char.isDigit)
    | rest => isExponent rest

def fitsDouble (s : List Char) : Bool :=
  match Decimal.readFinite? false s with
  | some x => x != Double.infinity false
  | none => false

def real? (s : List Char) : Option Node :=
  if isPadded s then none
  else
    (joinDigits? Char.isDigit s).bind fun text =>
      if isReal text then some (.real (fitsDouble text)) else none

def twoDigits? (a b : Char) : Option Nat :=
  if a.isDigit && b.isDigit then some (10 * (a.toNat - 48) + (b.toNat - 48)) else none

def isLeapYear (y : Nat) : Bool := y % 4 == 0 && (y % 100 != 0 || y % 400 == 0)

def daysIn (year month : Nat) : Nat :=
  if month = 2 then (if isLeapYear year then 29 else 28)
  else if month = 4 ∨ month = 6 ∨ month = 9 ∨ month = 11 then 30
  else 31

def afterDate? : List Char → Option (List Char)
  | a :: b :: c :: d :: '-' :: e :: f :: '-' :: g :: h :: rest =>
    match twoDigits? a b, twoDigits? c d, twoDigits? e f, twoDigits? g h with
    | some century, some year, some month, some day =>
      if 1 ≤ month ∧ month ≤ 12 ∧ 1 ≤ day ∧ day ≤ daysIn (100 * century + year) month then
        some rest
      else none
    | _, _, _, _ => none
  | _ => none

def afterFraction? : List Char → Option (List Char)
  | '.' :: rest =>
    if (rest.takeWhile Char.isDigit).isEmpty then none else some (rest.dropWhile Char.isDigit)
  | rest => some rest

/-- What follows the seconds of a time, which may be left out. A minute may have a leap
    second, and seconds may have a fraction. -/
def afterSeconds? : List Char → Option (List Char)
  | ':' :: a :: b :: rest =>
    match twoDigits? a b with
    | some second => if second ≤ 60 then afterFraction? rest else none
    | none => none
  | rest => some rest

def afterTime? : List Char → Option (List Char)
  | a :: b :: ':' :: c :: d :: rest =>
    match twoDigits? a b, twoDigits? c d with
    | some hour, some minute => if hour ≤ 23 ∧ minute ≤ 59 then afterSeconds? rest else none
    | _, _ => none
  | _ => none

def isOffset : List Char → Bool
  | [] => true
  | ['Z'] => true
  | ['z'] => true
  | [sign, a, b, ':', c, d] =>
    match twoDigits? a b, twoDigits? c d with
    | some hours, some minutes => (sign == '+' || sign == '-') && hours ≤ 23 && minutes ≤ 59
    | _, _ => false
  | _ => false

def isMoment (s : List Char) : Bool :=
  match afterDate? s with
  | some [] => true
  | some (c :: rest) =>
    (c == 'T' || c == 't' || c == ' ') &&
      match afterTime? rest with
      | some offset => isOffset offset
      | none => false
  | none => afterTime? s == some []

/-- A number, a date or a time. The first character after the leading digits tells which. -/
def numberNode? (s : List Char) : Option Node :=
  let (negative, body) := Decimal.splitSign s
  let rest := body.dropWhile Char.isDigit
  if body = "inf".toList ∨ body = "nan".toList then some (.real true)
  else if rest.head? = some '-' ∨ rest.head? = some ':' then
    if isMoment s then some .moment else none
  else if rest.any fun c => c == '.' || isExponentMark c then real? body
  else if (rest.isEmpty ∧ !body.isEmpty) ∨ rest.head? = some '_' then whole? negative body
  else none

def scalarNode? (s : List Char) : Option Node :=
  if s = "true".toList then some (.boolean true)
  else if s = "false".toList then some (.boolean false)
  else
    match s with
    | '0' :: 'x' :: rest => inBase? 16 rest
    | '0' :: 'o' :: rest => inBase? 8 rest
    | '0' :: 'b' :: rest => inBase? 2 rest
    | _ => numberNode? s

def endsScalar (c : Char) : Bool :=
  c == ' ' || c == '\t' || c == '\r' || c == '\n' || c == ',' || c == '=' || c == '['
    || c == ']' || c == '\x7b' || c == '\x7d' || c == '#'

def scalar (s : List Char) : Step Node :=
  let run := s.takeWhile fun c => !endsScalar c
  let rest := s.dropWhile fun c => !endsScalar c
  match afterDate? run == some [], rest with
  | true, ' ' :: c :: more =>
    if c.isDigit then
      let time := (c :: more).takeWhile fun c => !endsScalar c
      let rest := (c :: more).dropWhile fun c => !endsScalar c
      (scalarNode? (run ++ ' ' :: time)).map fun n => (n, rest)
    else some (.moment, rest)
  | _, _ => (scalarNode? run).map fun n => (n, rest)

end Joinery.Document
