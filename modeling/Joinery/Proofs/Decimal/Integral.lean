import Joinery.Decimal.Double
import Mathlib.Data.Rat.Cast.Defs
import Mathlib.Tactic.NormNum
import Mathlib.Tactic.Positivity
import Mathlib.Tactic.Ring

/-!
The number that a double denotes, told from the fields of its word, and which doubles denote
whole numbers.
-/
namespace Joinery.Double

/-- A fraction of 52 bits, with one added to it unless the exponent is the smallest, times a
    power of two. The largest exponent is kept for what is no number. -/
def number? (x : Double) : Option ℚ :=
  let sign : ℚ := if x.negative then -1 else 1
  let fraction : ℚ := x.fractionField / 2 ^ 52
  if x.exponentField = 2047 then none
  else if x.exponentField = 0 then some (sign * fraction * 2 ^ (-1022 : Int))
  else some (sign * (1 + fraction) * 2 ^ ((x.exponentField : Int) - 1023))

def View.number? : View → Option ℚ
  | .nan | .infinite _ => none
  | .finite negative m e => some ((if negative then -1 else 1) * m * 2 ^ e)

theorem two_zpow_add (e : Int) : (2 : ℚ) ^ (e + 52) = 2 ^ 52 * 2 ^ e := by
  rw [zpow_add₀ two_ne_zero, mul_comm]
  norm_num

theorem number_view (x : Double) : x.view.number? = x.number? := by
  unfold view number?
  by_cases last : x.exponentField = 2047
  · by_cases whole : x.fractionField = 0 <;> simp only [last, whole, if_true, if_false, View.number?]
  by_cases first : x.exponentField = 0
  · have scaled := two_zpow_add (-1074)
    simp only [if_neg last, if_pos first, View.number?, Option.some.injEq]
    norm_num only at scaled ⊢
    rw [scaled]
    ring
  · have scaled := two_zpow_add ((x.exponentField : Int) - 1075)
    rw [sub_add, show (1075 - 52 : Int) = 1023 from rfl] at scaled
    simp only [if_neg last, if_neg first, View.number?, Option.some.injEq]
    rw [scaled, hiddenBit]
    push_cast
    ring

def scaled? (m : Nat) (e : Int) : Option Nat :=
  if 0 ≤ e then some (m <<< e.toNat)
  else if m % 1 <<< (-e).toNat = 0 then some (m >>> (-e).toNat)
  else none

theorem scaled_eq_some_iff (m : Nat) (e : Int) (k : Nat) :
    scaled? m e = some k ↔ (m : ℚ) * 2 ^ e = k := by
  unfold scaled?
  by_cases up : 0 ≤ e
  · obtain ⟨n, rfl⟩ := Int.eq_ofNat_of_zero_le up
    rw [if_pos up, Int.toNat_natCast, zpow_natCast, Nat.shiftLeft_eq, Option.some.injEq]
    exact_mod_cast Iff.rfl
  · obtain ⟨n, rfl⟩ : ∃ n : Nat, e = -(n : Int) := ⟨(-e).toNat, by omega⟩
    have whole : (m : ℚ) * 2 ^ (-(n : Int)) = k ↔ m = k * 2 ^ n := by
      rw [zpow_neg, zpow_natCast, ← div_eq_mul_inv, div_eq_iff (by positivity)]
      exact_mod_cast Iff.rfl
    rw [if_neg up, Int.neg_neg, Int.toNat_natCast, Nat.one_shiftLeft, Nat.shiftRight_eq_div_pow,
      whole]
    constructor
    · intro read
      split at read
      · rename_i divides
        rw [← Option.some.inj read, Nat.div_mul_cancel (Nat.dvd_of_mod_eq_zero divides)]
      · cases read
    · rintro rfl
      rw [if_pos (Nat.mul_mod_left k _), Nat.mul_div_cancel k (Nat.two_pow_pos n)]

theorem signed_eq_iff {q : ℚ} (positive : 0 ≤ q) (negative : Bool) (n : Int) :
    (if negative then -1 else 1) * q = n ↔
      ∃ k : Nat, q = k ∧ (if negative then -(k : Int) else k) = n := by
  constructor
  · intro same
    have size : q = ((if negative then -n else n : Int) : ℚ) := by
      cases negative <;> simp [← same]
    have above : (0 : Int) ≤ if negative then -n else n := by
      rw [size] at positive
      exact_mod_cast positive
    obtain ⟨k, natural⟩ := Int.eq_ofNat_of_zero_le above
    refine ⟨k, by rw [size, natural, Int.cast_natCast], ?_⟩
    cases negative <;> simp only [if_true, if_false, Bool.false_eq_true] at natural ⊢ <;> omega
  · rintro ⟨k, rfl, rfl⟩
    cases negative <;> simp

theorem toInt_finite (negative : Bool) (size : Option Nat) :
    Option.map (fun n : Int => if negative then -n else n) (do let a ← size; pure (a : Int)) =
      size.map fun k : Nat => if negative then -(k : Int) else k := by
  cases size <;> rfl

theorem toInt_eq_some_iff (x : Double) (n : Int) :
    x.toInt? = some n ↔ x.number? = some (n : ℚ) := by
  rw [← number_view, toInt?]
  cases x.view with
  | nan => simp [View.number?]
  | infinite negative => simp [View.number?]
  | finite negative m e =>
    have positive : (0 : ℚ) ≤ m * 2 ^ e := mul_nonneg m.cast_nonneg (zpow_nonneg zero_le_two e)
    change Option.map _ (do let a ← scaled? m e; pure (a : Int)) = some n ↔ _
    rw [toInt_finite, View.number?, Option.some.injEq, mul_assoc, signed_eq_iff positive,
      Option.map_eq_some_iff]
    simp only [scaled_eq_some_iff]

theorem number_eq_zero_iff (x : Double) : x.number? = some 0 ↔ x.isZero = true := by
  have signed : ∀ negative : Bool, (if negative then (-1 : ℚ) else 1) ≠ 0 := by
    intro negative
    cases negative <;> norm_num
  unfold number? isZero
  by_cases last : x.exponentField = 2047
  · simp [last]
  by_cases first : x.exponentField = 0
  · cases x.negative <;> simp [first]
  · have positive : (1 : ℚ) + x.fractionField / 2 ^ 52 ≠ 0 := by positivity
    have scale : (2 : ℚ) ^ ((x.exponentField : Int) - 1023) ≠ 0 := zpow_ne_zero _ two_ne_zero
    simp only [if_neg last, if_neg first, Option.some.injEq, mul_eq_zero, signed, positive, scale,
      or_self, false_iff]
    simp [first]

end Joinery.Double
