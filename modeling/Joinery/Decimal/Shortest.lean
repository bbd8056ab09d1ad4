import Joinery.Decimal.Double

/-!
The shortest decimal that reads back as a given double. The reals that round to
`m * 2 ^ e` form an interval, closed when `m` is even. On the grids of 1, 2, ...
significant digits in turn, the two neighbours of the value are tried; the first
grid with one inside the interval decides, the nearer of two is taken, and of two
equally near the upper one.
-/
namespace Joinery

structure Decimal where
  coefficient : Nat
  exponent : Int
deriving DecidableEq, Repr

namespace Decimal

def digitCount (n : Nat) : Nat := (Nat.toDigits 10 n).length

/-- Positive numbers over one denominator: a value and the ends of the interval
    that rounds to it. -/
structure Target where
  lowest : Nat
  value : Nat
  highest : Nat
  den : Nat
  closed : Bool

/-- Below a power of two the neighbours lie twice as close, unless the number is
    among the smallest. -/
def Target.ofView (m : Nat) (e : Int) : Target :=
  let below := if m = Double.hiddenBit ∧ -1074 < e then 1 else 2
  let f := e - 2
  { lowest := (4 * m - below) <<< f.toNat
    value := (4 * m) <<< f.toNat
    highest := (4 * m + 2) <<< f.toNat
    den := 1 <<< (-f).toNat
    closed := m % 2 = 0 }

def Target.leading (t : Target) : Int :=
  if t.den ≤ t.value then digitCount (t.value / t.den) - 1
  else -(digitCount ((t.den - 1) / t.value) : Int)

def Target.admits (t : Target) (c : Nat) (p : Int) : Bool :=
  let x := c * Nat.pow 10 p.toNat * t.den
  let scale := Nat.pow 10 (-p).toNat
  if t.closed then t.lowest * scale ≤ x && x ≤ t.highest * scale
  else t.lowest * scale < x && x < t.highest * scale

def Target.onGrid (t : Target) (p : Int) : Option Nat :=
  let unit := Nat.pow 10 p.toNat * t.den
  let scaled := t.value * Nat.pow 10 (-p).toNat
  let c := scaled / unit
  let rest := scaled % unit
  match t.admits c p, t.admits (c + 1) p with
  | true, true => some (if 2 * rest < unit then c else c + 1)
  | true, false => some c
  | false, true => some (c + 1)
  | false, false => none

def Target.search (t : Target) : Nat → Int → Decimal
  | 0, p => ⟨t.value * Nat.pow 10 (-p).toNat / (Nat.pow 10 p.toNat * t.den), p⟩
  | more + 1, p =>
    match t.onGrid p with
    | some c => ⟨c, p⟩
    | none => t.search more (p - 1)

/-- Seventeen digits always suffice, so the search ends on one of that many grids. -/
def shortest (m : Nat) (e : Int) : Decimal :=
  let t := Target.ofView m e
  t.search 17 t.leading

end Decimal
end Joinery
