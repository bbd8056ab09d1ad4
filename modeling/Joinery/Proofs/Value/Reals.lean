import Joinery.Proofs.Decimal.Rounding
import Joinery.Proofs.Value.Integers
import Joinery.Sql.Condition

/-!
Whole numbers where reals are asked for: as literals compared with a real column and in fields
that hold a real. The nearest real is taken without complaint, so that a number of more than 53
bits becomes another one, although a real is never read as a whole number that it is not.
-/
namespace Joinery.Value
open Sql

theorem natAbs_toInt (n : Int64) : n.toInt.natAbs < 2 ^ 64 := by
  have least := n.le_toInt
  have most := n.toInt_lt
  omega

theorem coerce_integer_real (n : Int64) :
    (integer n).coerce .real = .ok (.real (Double.ofInt n.toInt)) := rfl

theorem ofInt_injective {n k : Int64} (short : Double.Short n.toInt) (short' : Double.Short k.toInt)
    (same : Double.ofInt k.toInt = Double.ofInt n.toInt) : k = n := by
  have number := (Double.number_ofInt_iff (natAbs_toInt n)).mpr short
  have number' := (Double.number_ofInt_iff (natAbs_toInt k)).mpr short'
  rw [same, number, Option.some.injEq] at number'
  exact Int64.toInt_inj.mp (by exact_mod_cast number'.symm)

theorem params_compareLiteral {s : Seat} {property : String} {c : Column} {v w : Value}
    (mapped : s.column property = .ok c) (value : v.isNull = false)
    (converted : v.coerce c.type = .ok w) (relation : Relation) (positive : Bool) (bound : Nat) :
    (compareLiteral s property relation v positive bound).params = [w] := by
  have coerced : s.coerce c v = .ok w := by simp [Seat.coerce, converted]
  simp only [compareLiteral, mapped, value, coerced, Emission.require]
  rfl

/-- An integer becomes the nearest double, with no error. It comes back unchanged only when it
    is short enough for the significand; others are bound as a different number. -/
theorem real_of_integer (n : Int64) :
    ∃ x : Double, (integer n).coerce .real = .ok (.real x) ∧
      FieldType.readDouble (integer n) = .ok x ∧
      x.NearestTo n.toInt ∧
      (x.number? = some (n.toInt : ℚ) ↔ Double.Short n.toInt) ∧
      ((real x).coerce .integer = .ok (.integer n) ↔ Double.Short n.toInt) ∧
      (∀ (s : Seat) (property : String) (c : Column), s.column property = .ok c → c.type = .real →
        ∀ relation positive bound,
          (compareLiteral s property relation (integer n) positive bound).params = [.real x]) ∧
      ∀ k : Int64, Double.Short n.toInt → Double.Short k.toInt →
        ((integer k).coerce .real = .ok (.real x) ↔ k = n) := by
  have small := natAbs_toInt n
  refine ⟨Double.ofInt n.toInt, rfl, rfl, Double.nearestTo_ofInt small,
    Double.number_ofInt_iff small, ?_, ?_, ?_⟩
  · rw [coerce_real_eq_ok_iff, Double.number_ofInt_iff small]
  · intro s property c mapped type relation positive bound
    refine params_compareLiteral mapped rfl ?_ relation positive bound
    rw [type, coerce_integer_real]
  · intro k short short'
    constructor
    · intro same
      rw [coerce_integer_real, Except.ok.injEq, Value.real.injEq] at same
      exact ofInt_injective short short' same
    · rintro rfl
      exact coerce_integer_real k

def Sample.goods : Seat :=
  ⟨0, Member.root
    ⟨"goods", [⟨"price", "price", .real, false⟩], by decide, by decide, by decide, by decide⟩
    none none⟩

theorem real_of_integer_sample :
    let x : Double := ⟨0x4340000000000001⟩
    (integer 9007199254740994).coerce .real = .ok (.real x) ∧
      (real x).coerce .integer = .ok (.integer 9007199254740994) ∧
      (compareLiteral Sample.goods "price" .equal (integer 9007199254740994) true 0).params =
        [.real x] ∧
      (integer 9007199254740992).coerce .real ≠ .ok (.real x) := by
  intro x
  obtain ⟨y, converted, -, -, -, back, bound, apart⟩ := real_of_integer 9007199254740994
  have same : y = x := by
    have known : (integer 9007199254740994).coerce .real = .ok (.real x) := by decide +kernel
    rw [converted, Except.ok.injEq, Value.real.injEq] at known
    exact known
  subst same
  have short : Double.Short 9007199254740994 := ⟨4503599627370497, 1, by decide, by decide⟩
  have power : Double.Short 9007199254740992 := ⟨1, 53, by decide, by decide⟩
  refine ⟨converted, back.mpr short, bound Sample.goods "price" _ rfl rfl .equal true 0, ?_⟩
  intro other
  have equal := (apart 9007199254740992 short power).mp other
  revert equal
  decide

/-- The first number of 54 bits becomes the one before it. -/
theorem integers_become_one_real :
    let x : Double := ⟨0x4340000000000000⟩
    (integer 9007199254740993).coerce .real = .ok (.real x) ∧
      x.number? = some 9007199254740992 ∧
      (real x).coerce .integer = .ok (.integer 9007199254740992) ∧
      FieldType.readDouble (integer 9007199254740993) = .ok x ∧
      ∀ literal ∈ [integer 9007199254740992, integer 9007199254740993],
        (compareLiteral Sample.goods "price" .equal literal true 0).params = [.real x] := by
  intro x
  have number : x.number? = some ((9007199254740992 : Int) : ℚ) := by
    rw [← Double.toInt_eq_some_iff]
    decide +kernel
  refine ⟨by decide +kernel, by exact_mod_cast number, by decide +kernel, by decide +kernel, ?_⟩
  decide +kernel

end Joinery.Value
