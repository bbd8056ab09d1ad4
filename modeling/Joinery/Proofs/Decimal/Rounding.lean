import Joinery.Proofs.Decimal.Integral
import Mathlib.Algebra.Order.Field.Power
import Mathlib.Tactic.Linarith
import Mathlib.Tactic.LinearCombination

/-!
The double that a whole number becomes. It is the nearest one, and so the number itself exactly
if some double is: if it has no more than 53 significant bits.
-/
namespace Joinery.Double

/-- No double is nearer to `q`. Where one that is another number is as near, the last bit of this
    one is zero. -/
def NearestTo (q : ℚ) (x : Double) : Prop :=
  ∃ p, x.number? = some p ∧ ∀ (y : Double) (r : ℚ), y.number? = some r →
    |p - q| ≤ |r - q| ∧ (|r - q| = |p - q| → r ≠ p → x.fractionField % 2 = 0)

/-- Whole numbers of at most 53 significant bits, the zeros at their end apart. -/
def Short (n : Int) : Prop := ∃ m k : Nat, m < 2 ^ 53 ∧ n.natAbs = m * 2 ^ k

theorem roundHalfEven_close (num : Nat) {den : Nat} (positive : 0 < den) :
    2 * num ≤ 2 * (roundHalfEven num den * den) + den ∧
      2 * (roundHalfEven num den * den) ≤ 2 * num + den ∧
      (2 * num = 2 * (roundHalfEven num den * den) + den ∨
        2 * (roundHalfEven num den * den) = 2 * num + den → roundHalfEven num den % 2 = 0) := by
  have parts := Nat.div_add_mod' num den
  have rest := Nat.mod_lt num positive
  have next : (num / den + 1) * den = num / den * den + den := Nat.succ_mul _ _
  simp only [roundHalfEven]
  split
  · omega
  · split
    · rw [next]
      omega
    · rcases Nat.mod_two_eq_zero_or_one (num / den) with even | odd
      · rw [even, Nat.add_zero]
        omega
      · rw [odd, next]
        omega

/-- A number of units within half a unit of `q`. Where `q` lies halfway, it is an even one. -/
structure Meets (unit q : ℚ) (m : Nat) : Prop where
  above : 2 * q ≤ 2 * (m * unit) + unit
  below : 2 * (m * unit) ≤ 2 * q + unit
  even : 2 * q = 2 * (m * unit) + unit ∨ 2 * (m * unit) = 2 * q + unit → m % 2 = 0

theorem meets_roundHalfEven {unit q : ℚ} {num den : Nat} (positive : 0 < unit) (parts : 0 < den)
    (quotient : q * den = num * unit) : Meets unit q (roundHalfEven num den) := by
  obtain ⟨above, below, even⟩ := roundHalfEven_close num parts
  generalize roundHalfEven num den = m at above below even
  have above : (2 * num : ℚ) ≤ 2 * (m * den) + den := by exact_mod_cast above
  have below : (2 * (m * den) : ℚ) ≤ 2 * num + den := by exact_mod_cast below
  have parts : (0 : ℚ) < den := by exact_mod_cast parts
  refine ⟨?_, ?_, ?_⟩
  · refine le_of_mul_le_mul_right ?_ parts
    linarith [mul_le_mul_of_nonneg_right above positive.le]
  · refine le_of_mul_le_mul_right ?_ parts
    linarith [mul_le_mul_of_nonneg_right below positive.le]
  · intro halfway
    apply even
    rcases halfway with upper | lower
    · left
      have scaled : (2 * num : ℚ) = 2 * (m * den) + den := by
        apply mul_right_cancel₀ positive.ne'
        linear_combination (den : ℚ) * upper - 2 * quotient
      exact_mod_cast scaled
    · right
      have scaled : (2 * (m * den) : ℚ) = 2 * num + den := by
        apply mul_right_cancel₀ positive.ne'
        linear_combination (den : ℚ) * lower + 2 * quotient
      exact_mod_cast scaled

theorem Meets.nearest {unit q : ℚ} {m : Nat} (positive : 0 < unit) (meets : Meets unit q m)
    (c : Int) :
    |m * unit - q| ≤ |c * unit - q| ∧
      (|c * unit - q| = |m * unit - q| → c * unit ≠ m * unit → m % 2 = 0) := by
  have above := meets.above
  have below := meets.below
  have close : |m * unit - q| ≤ unit / 2 := abs_le.mpr ⟨by linarith, by linarith⟩
  by_cases same : c = m
  · simp [same]
  have far : unit / 2 ≤ |c * unit - q| := by
    rcases lt_or_gt_of_ne same with less | more
    · have step : (c : ℚ) + 1 ≤ m := by exact_mod_cast less
      have below := mul_le_mul_of_nonneg_right step positive.le
      exact le_abs.mpr (.inr (by linarith))
    · have step : (m : ℚ) + 1 ≤ c := by exact_mod_cast more
      have above := mul_le_mul_of_nonneg_right step positive.le
      exact le_abs.mpr (.inl (by linarith))
  refine ⟨close.trans far, ?_⟩
  intro tie _
  have half : |m * unit - q| = unit / 2 := le_antisymm close (tie ▸ far)
  apply meets.even
  rcases abs_choice (m * unit - q) with sign | sign
  · right
    linarith
  · left
    linarith

theorem Meets.mantissa {unit q : ℚ} {m : Nat} (positive : 0 < unit) (meets : Meets unit q m)
    (least : 2 ^ 52 * unit ≤ q) (most : q < 2 ^ 53 * unit) :
    hiddenBit ≤ m ∧ m ≤ 2 * hiddenBit := by
  have above := meets.above
  have below := meets.below
  have hidden : hiddenBit = 2 ^ 52 := rfl
  have lower : (2 ^ 53 : ℚ) ≤ 2 * m + 1 := by
    refine le_of_mul_le_mul_right ?_ positive
    linarith
  have upper : (2 * m : ℚ) < 2 ^ 54 + 1 := by
    refine lt_of_mul_lt_mul_right ?_ positive.le
    linarith
  have lower : 2 ^ 53 ≤ 2 * m + 1 := by exact_mod_cast lower
  have upper : 2 * m < 2 ^ 54 + 1 := by exact_mod_cast upper
  omega

theorem Meets.nearest_scaled {q : ℚ} {m : Nat} {e : Int} (meets : Meets ((2 : ℚ) ^ e) q m)
    (least : (2 : ℚ) ^ (e + 52) ≤ q) {c : Int} (bits : |c| < 2 ^ 53) (k : Int) :
    |m * (2 : ℚ) ^ e - q| ≤ |c * (2 : ℚ) ^ k - q| ∧
      (|c * (2 : ℚ) ^ k - q| = |m * (2 : ℚ) ^ e - q| →
        c * (2 : ℚ) ^ k ≠ m * (2 : ℚ) ^ e → m % 2 = 0) := by
  have positive : (0 : ℚ) < 2 ^ e := zpow_pos two_pos e
  -- doubles of a coarser scale are among those of this one; finer ones stay below its least
  rcases le_or_gt e k with coarse | fine
  · have multiple : (c : ℚ) * 2 ^ k = (c * 2 ^ (k - e).toNat : Int) * 2 ^ e := by
      push_cast
      rw [mul_assoc, ← zpow_natCast, ← zpow_add₀ two_ne_zero]
      congr 2
      omega
    rw [multiple]
    exact meets.nearest positive _
  · have bits : (c : ℚ) < 2 ^ 53 := by exact_mod_cast (abs_lt.mp bits).2
    have smaller : (c : ℚ) * 2 ^ k < 2 ^ 52 * 2 ^ e := by
      calc (c : ℚ) * 2 ^ k < 2 ^ 53 * 2 ^ k := mul_lt_mul_of_pos_right bits (zpow_pos two_pos k)
        _ ≤ 2 ^ 53 * 2 ^ (e - 1) := by
          gcongr
          · norm_num
          · omega
        _ = 2 ^ 52 * 2 ^ e := by
          rw [zpow_sub_one₀ two_ne_zero]
          ring
    have start := (meets.nearest positive (2 ^ 52)).1
    rw [two_zpow_add] at least
    rw [show ((2 ^ 52 : Int) : ℚ) = 2 ^ 52 by norm_cast,
      abs_of_nonpos (by linarith : (2 : ℚ) ^ 52 * 2 ^ e - q ≤ 0)] at start
    have further : |m * (2 : ℚ) ^ e - q| < |c * (2 : ℚ) ^ k - q| := by
      rw [abs_of_neg (by linarith : (c : ℚ) * 2 ^ k - q < 0)]
      linarith
    exact ⟨further.le, fun tie => absurd tie further.ne'⟩

theorem view_mantissa {x : Double} {negative : Bool} {m : Nat} {e : Int}
    (seen : x.view = .finite negative m e) : m < 2 ^ 53 := by
  have fraction : x.fractionField < hiddenBit := Nat.mod_lt _ (by decide)
  have hidden : hiddenBit = 2 ^ 52 := rfl
  unfold view at seen
  split at seen
  · split at seen <;> cases seen
  · split at seen <;> cases seen <;> omega

theorem exists_scaled {x : Double} {r : ℚ} (number : x.number? = some r) :
    ∃ m e : Int, |m| < 2 ^ 53 ∧ r = m * 2 ^ e := by
  rw [← number_view] at number
  cases seen : x.view with
  | nan => simp [seen, View.number?] at number
  | infinite negative => simp [seen, View.number?] at number
  | finite negative m e =>
    have small : (m : Int) < 2 ^ 53 := by exact_mod_cast view_mantissa seen
    simp only [seen, View.number?, Option.some.injEq] at number
    refine ⟨if negative then -m else m, e, ?_, ?_⟩
    · cases negative <;> simpa using small
    · cases negative <;> simp [← number]

theorem fields_ofWord (negative : Bool) (e f : Nat) (inside : e < 2048) (rest : f < hiddenBit) :
    (ofWord negative (e * hiddenBit + f)).negative = negative ∧
      (ofWord negative (e * hiddenBit + f)).exponentField = e ∧
      (ofWord negative (e * hiddenBit + f)).fractionField = f := by
  unfold hiddenBit at *
  have bits : (ofWord negative (e * 0x10000000000000 + f)).bits.toNat =
      (if negative then 0x8000000000000000 else 0) + e * 0x10000000000000 + f := by
    unfold ofWord signBit
    cases negative <;> simp <;> omega
  simp only [Double.negative, exponentField, fractionField, bits, signBit, hiddenBit]
  cases negative <;> simp <;> omega

/-- The hidden bit of a normal mantissa counts as one in the exponent. A mantissa that has become
    `2 ^ 53` is one of `2 ^ 52` under the next exponent. -/
theorem number_ofWord (negative : Bool) (e : Nat) {m : Nat} (normal : hiddenBit ≤ m)
    (most : m ≤ 2 * hiddenBit) (finite : e < 2045) :
    (ofWord negative (e * hiddenBit + m)).number? =
        some ((if negative then -1 else 1) * (m * (2 : ℚ) ^ ((e : Int) - 1074))) ∧
      (ofWord negative (e * hiddenBit + m)).fractionField % 2 = m % 2 := by
  have hidden : hiddenBit = 2 ^ 52 := rfl
  have scaled := two_zpow_add ((e : Int) - 1074)
  rcases Nat.lt_or_eq_of_le most with below | carried
  · have word : e * hiddenBit + m = (e + 1) * hiddenBit + (m - hiddenBit) := by
      rw [Nat.succ_mul]
      omega
    obtain ⟨sign, exponent, fraction⟩ :=
      fields_ofWord negative (e + 1) (m - hiddenBit) (by omega) (by omega)
    rw [← word] at sign exponent fraction
    rw [show (e : Int) - 1074 + 52 = ((e + 1 : Nat) : Int) - 1023 by omega] at scaled
    refine ⟨?_, by omega⟩
    rw [number?, sign, exponent, fraction, if_neg (by omega), if_neg (by omega), scaled,
      Nat.cast_sub normal, hidden]
    push_cast
    congr 1
    ring
  · have word : e * hiddenBit + m = (e + 2) * hiddenBit + 0 := by
      -- the carry has gone into the exponent and left no fraction
      rw [carried, Nat.add_mul, Nat.add_zero]
    obtain ⟨sign, exponent, fraction⟩ :=
      fields_ofWord negative (e + 2) 0 (by omega) (by omega)
    rw [← word] at sign exponent fraction
    have next : (2 : ℚ) ^ (((e + 2 : Nat) : Int) - 1023) = 2 ^ ((e : Int) - 1074 + 52) * 2 := by
      rw [← zpow_add_one₀ two_ne_zero]
      congr 1
      omega
    refine ⟨?_, by omega⟩
    rw [number?, sign, exponent, fraction, if_neg (by omega), if_neg (by omega), next, scaled,
      carried, hidden]
    push_cast
    congr 1
    ring

theorem unitExponent_one {a : Nat} (positive : a ≠ 0) : unitExponent a 1 = (a.log2 : Int) - 52 := by
  have least := Nat.log2_self_le positive
  have one : Nat.log2 1 = 0 := by decide
  simp only [unitExponent, one, Nat.cast_zero, sub_zero, Int.toNat_natCast, Int.toNat_neg_natCast,
    Nat.shiftLeft_zero, Nat.one_shiftLeft, if_neg (Nat.not_lt.mpr least)]
  omega

theorem unitExponent_binade {a : Nat} (positive : a ≠ 0) :
    (2 : ℚ) ^ (unitExponent a 1 + 52) ≤ a ∧ (a : ℚ) < 2 ^ 53 * 2 ^ unitExponent a 1 := by
  have least : ((2 ^ a.log2 : Nat) : ℚ) ≤ a := by exact_mod_cast Nat.log2_self_le positive
  have most : (a : ℚ) < (2 ^ (a.log2 + 1) : Nat) := by exact_mod_cast Nat.lt_log2_self
  have next : (2 : ℚ) ^ 53 * 2 ^ ((a.log2 : Int) - 52) = 2 ^ (a.log2 + 1) := by
    rw [← zpow_natCast, ← zpow_natCast, ← zpow_add₀ two_ne_zero]
    congr 1
    push_cast
    omega
  push_cast at least most
  rw [unitExponent_one positive, sub_add_cancel, zpow_natCast, next]
  exact ⟨least, most⟩

theorem meets_shifted (a : Nat) (e : Int) :
    Meets ((2 : ℚ) ^ e) a (roundHalfEven (a <<< (-e).toNat) (1 <<< e.toNat)) := by
  apply meets_roundHalfEven (zpow_pos two_pos e)
  · simp [Nat.shiftLeft_eq]
  · simp only [Nat.shiftLeft_eq, Nat.cast_mul, Nat.cast_pow, Nat.cast_ofNat, one_mul, mul_assoc]
    congr 1
    simp only [← zpow_natCast]
    rw [← zpow_add₀ two_ne_zero]
    congr 1
    omega

theorem ofRatio_one (negative : Bool) {a : Nat} (positive : a ≠ 0) (small : a < 2 ^ 64) :
    ∃ m : Nat, ∃ e : Int, Meets ((2 : ℚ) ^ e) a m ∧ (2 : ℚ) ^ (e + 52) ≤ a ∧
      (ofRatio negative a 1).number? =
        some ((if negative then -1 else 1) * (m * (2 : ℚ) ^ e)) ∧
      (ofRatio negative a 1).fractionField % 2 = m % 2 := by
  have limit : a.log2 < 64 := (Nat.log2_lt positive).mpr small
  have exponent := unitExponent_one positive
  have meets := meets_shifted a (unitExponent a 1)
  obtain ⟨least, most⟩ := unitExponent_binade positive
  obtain ⟨normal, within⟩ := meets.mantissa (zpow_pos two_pos _) (by rwa [← two_zpow_add]) most
  have told := number_ofWord negative (unitExponent a 1 + 1074).toNat normal within (by omega)
  rw [show (((unitExponent a 1 + 1074).toNat : Nat) : Int) - 1074 = unitExponent a 1 by omega]
    at told
  have finite : ¬2047 * hiddenBit ≤ (unitExponent a 1 + 1074).toNat * hiddenBit +
      roundHalfEven (a <<< (-unitExponent a 1).toNat) (1 <<< (unitExponent a 1).toNat) := by
    unfold hiddenBit at *
    omega
  refine ⟨_, _, meets, least, ?_⟩
  simpa only [ofRatio, if_neg positive, if_neg finite] using told

theorem abs_signed_sub (negative : Bool) (p q : ℚ) :
    |(if negative then -1 else 1) * p - (if negative then -1 else 1) * q| = |p - q| := by
  cases negative with
  | false => simp
  | true =>
    rw [abs_sub_comm p q]
    simp [neg_add_eq_sub]

theorem signed_natAbs (n : Int) :
    (n : ℚ) = (if decide (n < 0) then -1 else 1) * (n.natAbs : ℚ) := by
  rw [Nat.cast_natAbs]
  by_cases negative : n < 0
  · simp [negative, abs_of_neg]
  · simp [negative, abs_of_nonneg (not_lt.mp negative)]

theorem ofInt_nearest {n : Int} (small : n.natAbs < 2 ^ 64) :
    ∃ p, (ofInt n).number? = some p ∧ ∀ c k : Int, |c| < 2 ^ 53 →
      |p - n| ≤ |c * (2 : ℚ) ^ k - n| ∧
        (|c * (2 : ℚ) ^ k - n| = |p - n| → c * (2 : ℚ) ^ k ≠ p →
          (ofInt n).fractionField % 2 = 0) := by
  by_cases zero : n = 0
  · subst zero
    refine ⟨0, (number_eq_zero_iff _).mpr (by decide +kernel), ?_⟩
    intro c k _
    rw [Int.cast_zero, sub_self, abs_zero, sub_zero]
    refine ⟨abs_nonneg _, ?_⟩
    intro tie apart
    exact absurd (abs_eq_zero.mp tie) apart
  obtain ⟨m, e, meets, least, number, parity⟩ :=
    ofRatio_one (n < 0) (Int.natAbs_ne_zero.mpr zero) small
  refine ⟨_, number, ?_⟩
  intro c k bits
  -- the sign of the number is taken out on both sides
  obtain ⟨d, bits, turned⟩ : ∃ d : Int, |d| < 2 ^ 53 ∧
      (c : ℚ) * 2 ^ k = (if decide (n < 0) then -1 else 1) * (d * 2 ^ k) := by
    cases decide (n < 0)
    · exact ⟨c, bits, by simp⟩
    · exact ⟨-c, by rwa [abs_neg], by simp⟩
  obtain ⟨near, even⟩ := meets.nearest_scaled least bits k
  rw [signed_natAbs n, turned, abs_signed_sub, abs_signed_sub]
  refine ⟨near, ?_⟩
  intro tie apart
  refine parity.trans (even tie ?_)
  intro same
  exact apart (by rw [same])

theorem nearestTo_ofInt {n : Int} (small : n.natAbs < 2 ^ 64) : NearestTo n (ofInt n) := by
  obtain ⟨p, number, nearest⟩ := ofInt_nearest small
  refine ⟨p, number, ?_⟩
  intro y r other
  obtain ⟨c, k, bits, rfl⟩ := exists_scaled other
  exact nearest c k bits

theorem short_of_number {x : Double} {n : Int} (number : x.number? = some (n : ℚ)) : Short n := by
  obtain ⟨c, e, bits, same⟩ := exists_scaled number
  have bits : c.natAbs < 2 ^ 53 := by
    rw [Int.abs_eq_natAbs] at bits
    omega
  -- a whole number of a negative scale is no larger than the mantissa
  rcases le_or_gt 0 e with up | down
  · obtain ⟨k, rfl⟩ := Int.eq_ofNat_of_zero_le up
    rw [zpow_natCast] at same
    have same : n = c * 2 ^ k := by exact_mod_cast same
    exact ⟨c.natAbs, k, bits, by rw [same, Int.natAbs_mul, Int.natAbs_pow]; rfl⟩
  · obtain ⟨k, rfl⟩ : ∃ k : Nat, e = -(k : Int) := ⟨(-e).toNat, by omega⟩
    rw [zpow_neg, zpow_natCast, ← div_eq_mul_inv, eq_div_iff (by positivity)] at same
    have same : n * 2 ^ k = c := by exact_mod_cast same
    have whole : n.natAbs ≤ c.natAbs := by
      rw [← same, Int.natAbs_mul]
      exact Nat.le_mul_of_pos_right _ (by positivity)
    exact ⟨n.natAbs, 0, by omega, by simp⟩

theorem number_ofInt_iff {n : Int} (small : n.natAbs < 2 ^ 64) :
    (ofInt n).number? = some (n : ℚ) ↔ Short n := by
  constructor
  · exact short_of_number
  · rintro ⟨m, k, bits, size⟩
    obtain ⟨p, number, nearest⟩ := ofInt_nearest small
    obtain ⟨c, bits, same⟩ : ∃ c : Int, |c| < 2 ^ 53 ∧ n = c * 2 ^ k := by
      rcases Int.natAbs_eq n with positive | negative
      · exact ⟨m, by simpa using bits, by rw [positive, size]; push_cast; ring⟩
      · exact ⟨-m, by simpa using bits, by rw [negative, size]; push_cast; ring⟩
    have scaled : (c : ℚ) * 2 ^ (k : Int) = n := by
      rw [zpow_natCast, same]
      push_cast
      rfl
    have near := (nearest c k bits).1
    rw [scaled, sub_self, abs_zero] at near
    rw [number, sub_eq_zero.mp (abs_nonpos_iff.mp near)]

end Joinery.Double
