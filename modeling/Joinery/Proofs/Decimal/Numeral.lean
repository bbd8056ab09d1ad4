import Joinery.Decimal.Numeral
import Joinery.Proofs.Text.Blank
import Mathlib.Data.List.Induction
import Mathlib.Data.Nat.Digits.Defs

/-!
Whole numbers as they may be written: a sign or none, then digits, of which any number of the
first may be zeros. Reading accepts just these, and what is written for a number is read as it.
-/
namespace Joinery.Decimal

def Digits (s : List Char) : Prop := s ≠ [] ∧ ∀ c ∈ s, '0' ≤ c ∧ c ≤ '9'

def placeValue (digits : List Char) : Nat :=
  Nat.ofDigits 10 (digits.reverse.map fun c => c.toNat - '0'.toNat)

inductive Numeral : List Char → Int → Prop where
  | plain {digits : List Char} (valid : Digits digits) : Numeral digits (placeValue digits)
  | plus {digits : List Char} (valid : Digits digits) :
    Numeral ('+' :: digits) (placeValue digits)
  | minus {digits : List Char} (valid : Digits digits) :
    Numeral ('-' :: digits) (-placeValue digits)

theorem isDigit_iff {c : Char} : c.isDigit = true ↔ '0' ≤ c ∧ c ≤ '9' := by
  simp [Char.isDigit, Char.le_def]

theorem digits_iff {s : List Char} :
    (s.isEmpty || !s.all Char.isDigit) = false ↔ Digits s := by
  simp [Digits, isDigit_iff]

theorem digitsValue_eq (digits : List Char) : digitsValue digits = placeValue digits := by
  -- by the last digit, which is the first of the reversed list
  induction digits using List.reverseRecOn with
  | nil => rfl
  | append_singleton digits c ih =>
    have added : digitsValue (digits ++ [c]) = 10 * digitsValue digits + (c.toNat - 48) := by
      rw [digitsValue, List.foldl_append]
      rfl
    rw [added, ih, placeValue, placeValue, List.reverse_append, List.reverse_singleton,
      List.singleton_append, List.map_cons, Nat.ofDigits_cons, Nat.add_comm]
    rfl

theorem splitSign_cases (s : List Char) :
    (∃ rest, s = '-' :: rest ∧ splitSign s = (true, rest)) ∨
      (∃ rest, s = '+' :: rest ∧ splitSign s = (false, rest)) ∨ splitSign s = (false, s) := by
  unfold splitSign
  split
  · exact .inl ⟨_, rfl, rfl⟩
  · exact .inr (.inl ⟨_, rfl, rfl⟩)
  · exact .inr (.inr rfl)

theorem splitSign_digits {digits : List Char} (valid : Digits digits) :
    splitSign digits = (false, digits) := by
  rcases splitSign_cases digits with ⟨rest, rfl, -⟩ | ⟨rest, rfl, -⟩ | unsigned
  · exact absurd (valid.2 '-' List.mem_cons_self) (by decide)
  · exact absurd (valid.2 '+' List.mem_cons_self) (by decide)
  · exact unsigned

theorem readInt_signed {s digits : List Char} {negative : Bool}
    (signed : splitSign s = (negative, digits)) (n : Int) :
    readInt? s = some n ↔
      Digits digits ∧ n = if negative then -(placeValue digits : Int) else placeValue digits := by
  rw [readInt?, signed, ← digits_iff]
  simp only [digitsValue_eq]
  cases digits.isEmpty || !digits.all Char.isDigit <;> cases negative <;> simp [eq_comm]

theorem readInt_eq_some_iff {s : List Char} {n : Int} : readInt? s = some n ↔ Numeral s n := by
  constructor
  · intro read
    rcases splitSign_cases s with ⟨rest, rfl, signed⟩ | ⟨rest, rfl, signed⟩ | unsigned
    · obtain ⟨valid, rfl⟩ := (readInt_signed signed n).mp read
      exact .minus valid
    · obtain ⟨valid, rfl⟩ := (readInt_signed signed n).mp read
      exact .plus valid
    · obtain ⟨valid, rfl⟩ := (readInt_signed unsigned n).mp read
      exact .plain valid
  · rintro (valid | valid | valid)
    · exact (readInt_signed (splitSign_digits valid) _).mpr ⟨valid, rfl⟩
    · exact (readInt_signed (s := '+' :: _) rfl _).mpr ⟨valid, rfl⟩
    · exact (readInt_signed (s := '-' :: _) rfl _).mpr ⟨valid, rfl⟩

theorem inInt64_iff {n : Int} : inInt64 n = true ↔ -2 ^ 63 ≤ n ∧ n < 2 ^ 63 := by
  simp [inInt64]

theorem inInt64_toInt (n : Int64) : inInt64 n.toInt = true :=
  inInt64_iff.mpr ⟨n.le_toInt, n.toInt_lt⟩

theorem toInt_ofInt {n : Int} (inside : inInt64 n = true) : (Int64.ofInt n).toInt = n := by
  obtain ⟨least, below⟩ := inInt64_iff.mp inside
  exact Int64.toInt_ofInt_of_le least below

theorem readInt64_eq_some_iff {s : List Char} {n : Int64} :
    readInt64? s = some n ↔ Numeral s n.toInt := by
  rw [← readInt_eq_some_iff, readInt64?]
  cases readInt? s with
  | none => simp
  | some k =>
    cases inside : inInt64 k with
    | true =>
      simp only [inside, if_true, Option.some.injEq]
      constructor
      · rintro rfl
        exact (toInt_ofInt inside).symm
      · rintro rfl
        exact n.ofInt_toInt
    | false =>
      simp only [inside, Bool.false_eq_true, if_false, Option.some.injEq, reduceCtorEq, false_iff]
      rintro rfl
      rw [inInt64_toInt] at inside
      cases inside

theorem not_blank_of_digit {c : Char} (digit : '0' ≤ c ∧ c ≤ '9') : Text.isBlank c = false := by
  have least : 48 ≤ c.toNat := digit.1
  have most : c.toNat ≤ 57 := digit.2
  simp [Text.isBlank, Text.inRanges, Text.blankRanges]
  omega

theorem Numeral.solid {s : List Char} {n : Int} (numeral : Numeral s n) :
    ∀ c ∈ s, Text.isBlank c = false := by
  cases numeral with
  | plain valid => exact fun c member => not_blank_of_digit (valid.2 c member)
  | plus valid | minus valid =>
    intro c member
    rcases List.mem_cons.mp member with rfl | later
    · decide
    · exact not_blank_of_digit (valid.2 c later)

theorem toList_toString (n : Int) :
    (toString n).toList =
      if 0 ≤ n then Nat.toDigits 10 n.toNat else '-' :: Nat.toDigits 10 (-n).toNat := by
  rw [Int.toString_eq_repr, Int.repr_eq_if]
  split <;> simp [Nat.repr_eq_ofList_toDigits]

theorem digits_toDigits (n : Nat) : Digits (Nat.toDigits 10 n) :=
  ⟨Nat.toDigits_ne_nil, fun _ member =>
    isDigit_iff.mp (Nat.isDigit_of_mem_toDigits (by omega) (by omega) member)⟩

theorem placeValue_toDigits (n : Nat) : placeValue (Nat.toDigits 10 n) = n := by
  rw [← digitsValue_eq]
  exact Nat.ofDigitChars_ten_toDigits

theorem numeral_toString (n : Int) : Numeral (toString n).toList n := by
  rw [toList_toString]
  split
  · rename_i positive
    have plain := Numeral.plain (digits_toDigits n.toNat)
    rw [placeValue_toDigits, Int.toNat_of_nonneg positive] at plain
    exact plain
  · rename_i negative
    have minus := Numeral.minus (digits_toDigits (-n).toNat)
    rw [placeValue_toDigits, Int.toNat_of_nonneg (by omega), Int.neg_neg] at minus
    exact minus

end Joinery.Decimal
