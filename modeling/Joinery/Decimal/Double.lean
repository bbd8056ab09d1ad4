/-!
Binary64 numbers by their bits, with all arithmetic exact on natural numbers:
what a word denotes, the nearest number to a quotient, and the integer that an
integral number is.
-/
namespace Joinery

structure Double where
  bits : UInt64
deriving DecidableEq, Repr

namespace Double

/-- What a word denotes; a finite one is `mantissa * 2 ^ exponent` with a sign. -/
inductive View where
  | nan
  | infinite (negative : Bool)
  | finite (negative : Bool) (mantissa : Nat) (exponent : Int)
deriving DecidableEq, Repr

def signBit : Nat := 0x8000000000000000

def hiddenBit : Nat := 0x10000000000000

def negative (x : Double) : Bool := signBit ≤ x.bits.toNat

def exponentField (x : Double) : Nat := x.bits.toNat / hiddenBit % 2048

def fractionField (x : Double) : Nat := x.bits.toNat % hiddenBit

def view (x : Double) : View :=
  if x.exponentField = 2047 then
    if x.fractionField = 0 then .infinite x.negative else .nan
  else if x.exponentField = 0 then
    .finite x.negative x.fractionField (-1074)
  else
    .finite x.negative (hiddenBit + x.fractionField) (x.exponentField - 1075)

def isNan (x : Double) : Bool := x.exponentField = 2047 ∧ x.fractionField ≠ 0

def isZero (x : Double) : Bool := x.exponentField = 0 ∧ x.fractionField = 0

/-- Equality as numbers: both zeros are one number and a NaN equals nothing. -/
def agrees (x y : Double) : Bool :=
  !x.isNan && !y.isNan && (x == y || (x.isZero && y.isZero))

def ofWord (negative : Bool) (word : Nat) : Double :=
  ⟨UInt64.ofNat (if negative then signBit + word else word)⟩

def zero (negative : Bool) : Double := ofWord negative 0

def infinity (negative : Bool) : Double := ofWord negative (2047 * hiddenBit)

def nan : Double := ofWord false (2047 * hiddenBit + hiddenBit / 2)

def roundHalfEven (num den : Nat) : Nat :=
  let q := num / den
  let r := num % den
  if 2 * r < den then q else if den < 2 * r then q + 1 else q + q % 2

def unitExponent (num den : Nat) : Int :=
  let k : Int := num.log2 - den.log2
  let k := if num <<< (-k).toNat < den <<< k.toNat then k - 1 else k
  max (k - 52) (-1074)

/-- The double nearest to `num / den`, ties going to the even mantissa. A mantissa
    that rounds up to `2 ^ 53` carries into the exponent by plain addition. -/
def ofRatio (negative : Bool) (num den : Nat) : Double :=
  if num = 0 then zero negative
  else
    let e := unitExponent num den
    let m := roundHalfEven (num <<< (-e).toNat) (den <<< e.toNat)
    let word := (e + 1074).toNat * hiddenBit + m
    if 2047 * hiddenBit ≤ word then infinity negative else ofWord negative word

def ofInt (n : Int) : Double := ofRatio (n < 0) n.natAbs 1

/-- The double nearest to `coefficient * 10 ^ exponent`. Exponents far outside the
    range of doubles are settled without computing the power. -/
def ofDecimal (negative : Bool) (coefficient : Nat) (exponent : Int) : Double :=
  let magnitude := (Nat.toDigits 10 coefficient).length + exponent
  if coefficient = 0 ∨ magnitude < -330 then zero negative
  else if 310 < magnitude then infinity negative
  else ofRatio negative (coefficient * Nat.pow 10 exponent.toNat) (Nat.pow 10 (-exponent).toNat)

def toInt? (x : Double) : Option Int :=
  match x.view with
  | .finite negative m e =>
    let size :=
      if 0 ≤ e then some (m <<< e.toNat)
      else if m % 1 <<< (-e).toNat = 0 then some (m >>> (-e).toNat)
      else none
    size.map fun n => if negative then -(n : Int) else n
  | _ => none

end Double
end Joinery
