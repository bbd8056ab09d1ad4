import Joinery.Proofs.Decimal.Integral
import Joinery.Proofs.Decimal.Numeral
import Joinery.Value.Field

/-!
What is converted to a whole number or read into a field of one. A text is when it is spelt as
one that fits, a real when it is one that fits, and a narrow field takes what it can hold. All
else is refused: no number becomes another one.
-/
namespace Joinery

def Width.Holds : Width → Int → Prop
  | .int64, n => -2 ^ 63 ≤ n ∧ n < 2 ^ 63
  | .int32, n => -2 ^ 31 ≤ n ∧ n < 2 ^ 31
  | .uint32, n => 0 ≤ n ∧ n < 2 ^ 32

theorem Width.holds_int64 (n : Int64) : Width.int64.Holds n.toInt := ⟨n.le_toInt, n.toInt_lt⟩

theorem Width.holds_int32 (n : Int32) : Width.int32.Holds n.toInt := ⟨n.le_toInt, n.toInt_lt⟩

theorem Width.holds_uint32 (n : UInt32) : Width.uint32.Holds n.toNat := by
  have below := n.toNat_lt
  exact ⟨by omega, by omega⟩

theorem Width.Holds.int64 {width : Width} {n : Int} (fits : width.Holds n) :
    Width.int64.Holds n := by
  cases width <;> simp only [Width.Holds] at fits ⊢ <;> omega

theorem Width.inInt64_iff {n : Int} : Decimal.inInt64 n = true ↔ Width.int64.Holds n :=
  Decimal.inInt64_iff

theorem Width.exists_int64_iff {p : Int64 → Prop} {q : Int → Prop} (same : ∀ k, p k ↔ q k.toInt)
    (n : Int) : (∃ k : Int64, p k ∧ k.toInt = n) ↔ q n ∧ Width.int64.Holds n := by
  constructor
  · rintro ⟨k, here, rfl⟩
    exact ⟨(same k).mp here, Width.holds_int64 k⟩
  · rintro ⟨here, fits⟩
    have kept := Int64.toInt_ofInt_of_le fits.1 fits.2
    exact ⟨Int64.ofInt n, (same _).mpr (kept.symm ▸ here), kept⟩

namespace FieldType

/-- A reading into a narrower whole number: the same number, if the field can hold it. -/
structure Narrowed {α : Type} (number : α → Int) (width : Width)
    (wide : Except ValueError Int64) (narrow : Except ValueError α) : Prop where
  read : ∀ a, narrow = .ok a ↔ ∃ n, wide = .ok n ∧ n.toInt = number a
  refused : ∀ e, narrow = .error e ↔
    wide = .error e ∨
      ∃ n, wide = .ok n ∧ ¬width.Holds n.toInt ∧ e = .outOfRange (.integer n) width

variable {α : Type} {number : α → Int} {width : Width}

theorem narrowed_error (cause : ValueError) :
    Narrowed number width (.error cause) (.error cause) where
  read a := by simp
  refused e := by simp

theorem narrowed_fits (injective : Function.Injective number) {n : Int64} {a : α}
    (same : number a = n.toInt) (fits : width.Holds n.toInt) :
    Narrowed number width (.ok n) (.ok a) where
  read b := by
    simp only [Except.ok.injEq, exists_eq_left', ← same]
    exact injective.eq_iff.symm
  refused e := by simp [fits]

theorem narrowed_wide (held : ∀ a, width.Holds (number a)) {n : Int64}
    (wide : ¬width.Holds n.toInt) :
    Narrowed number width (.ok n) (.error (.outOfRange (.integer n) width)) where
  read a := by
    simp only [reduceCtorEq, Except.ok.injEq, exists_eq_left', false_iff]
    intro same
    rw [same] at wide
    exact wide (held a)
  refused e := by simp [wide, eq_comm]

theorem narrowed_int64 (wide : Except ValueError Int64) :
    Narrowed Int64.toInt .int64 wide wide := by
  cases wide with
  | error cause => exact narrowed_error cause
  | ok n => exact narrowed_fits (fun _ _ => Int64.toInt_inj.mp) rfl (Width.holds_int64 n)

theorem narrowed_int32 (v : Value) :
    Narrowed Int32.toInt .int32 (readInt64 v) (readInt32 v) := by
  unfold readInt32
  cases readInt64 v with
  | error cause => exact narrowed_error cause
  | ok n =>
    simp only
    split
    · rename_i fits
      exact narrowed_fits (fun _ _ => Int32.toInt_inj.mp) (Int32.toInt_ofInt_of_le fits.1 fits.2) fits
    · rename_i wide
      exact narrowed_wide Width.holds_int32 wide

theorem narrowed_uint32 (v : Value) :
    Narrowed (fun a : UInt32 => (a.toNat : Int)) .uint32 (readInt64 v) (readUInt32 v) := by
  have injective : Function.Injective fun a : UInt32 => (a.toNat : Int) :=
    fun a b same => UInt32.toNat_inj.mp (Int.ofNat_inj.mp same)
  unfold readUInt32
  cases readInt64 v with
  | error cause => exact narrowed_error cause
  | ok n =>
    simp only
    split
    · rename_i fits
      refine narrowed_fits injective ?_ fits
      have small : n.toInt.toNat < 2 ^ 32 := by omega
      simp only [UInt32.toNat_ofNat', Nat.mod_eq_of_lt small]
      exact Int.toNat_of_nonneg fits.1
    · rename_i wide
      exact narrowed_wide Width.holds_uint32 wide

theorem readInt64_eq_ok_iff {v : Value} {n : Int64} :
    readInt64 v = .ok n ↔ v.coerce .integer = .ok (.integer n) := by
  unfold readInt64 readAs
  cases v.coerce .integer with
  | error cause => simp
  | ok w => cases w <;> simp [Value.content?]

end FieldType

namespace Value

def Spelt (s : String) (n : Int) : Prop :=
  ∃ numeral, Text.Padded numeral s.toList ∧ Decimal.Numeral numeral n

theorem readInt64_trim {s : String} {n : Int64} :
    Decimal.readInt64? (Text.trim s.toList) = some n ↔ Spelt s n.toInt := by
  rw [Decimal.readInt64_eq_some_iff]
  constructor
  · intro numeral
    exact ⟨_, Text.padded_trim s.toList, numeral⟩
  · rintro ⟨core, padded, numeral⟩
    rw [Text.trim_of_padded numeral.solid padded]
    exact numeral

theorem coerce_text (s : String) :
    (text s).coerce .integer =
      parsed s .integer ((Decimal.readInt64? (Text.trim s.toList)).map .integer) := rfl

theorem coerce_text_eq_ok_iff {s : String} {n : Int64} :
    (text s).coerce .integer = .ok (.integer n) ↔ Spelt s n.toInt := by
  rw [coerce_text, ← readInt64_trim]
  cases Decimal.readInt64? (Text.trim s.toList) <;> simp [parsed]

theorem unread_iff {s : String} :
    Decimal.readInt64? (Text.trim s.toList) = none ↔ ¬∃ n, Spelt s n ∧ Width.int64.Holds n := by
  rw [Option.eq_none_iff_forall_ne_some]
  constructor
  · rintro unread ⟨n, spelt, fits⟩
    rw [← Int64.toInt_ofInt_of_le fits.1 fits.2] at spelt
    exact unread _ (readInt64_trim.mpr spelt)
  · intro unspelt n read
    exact unspelt ⟨n.toInt, readInt64_trim.mp read, Width.holds_int64 n⟩

theorem spelt_integerText (n : Int64) {before after : String} (blanks : Text.Blanks before.toList)
    (blanks' : Text.Blanks after.toList) : Spelt (before ++ integerText n ++ after) n.toInt := by
  refine ⟨(integerText n).toList, ⟨_, _, blanks, blanks', ?_⟩, Decimal.numeral_toString n.toInt⟩
  rw [String.toList_append, String.toList_append]

/-- A text is an integer exactly when it spells one that 64 bits hold, and a printed integer is
    read back through any white space. Narrower readers take what fits them. -/
theorem integer_of_text :
    (∀ (s : String) (n : Int),
      (∃ k : Int64, (text s).coerce .integer = .ok (.integer k) ∧ k.toInt = n) ↔
        Spelt s n ∧ Width.int64.Holds n) ∧
    (∀ s, (¬∃ n, Spelt s n ∧ Width.int64.Holds n) →
      (text s).coerce .integer = .error (.parse s .integer)) ∧
    (∀ n, ∃ t, (integer n).coerce .text = .ok (.text t) ∧
      ∀ before after : String, Text.Blanks before.toList → Text.Blanks after.toList →
        (text (before ++ t ++ after)).coerce .integer = .ok (.integer n)) ∧
    ∀ v, FieldType.Narrowed Int32.toInt .int32 (FieldType.readInt64 v) (FieldType.readInt32 v) ∧
      FieldType.Narrowed (fun a : UInt32 => (a.toNat : Int)) .uint32 (FieldType.readInt64 v)
        (FieldType.readUInt32 v) ∧
      ∀ n width, (ValueError.outOfRange (integer n) width).message =
        "value " ++ toString n.toInt ++ " is out of range for " ++ width.name := by
  refine ⟨?_, ?_, ?_, ?_⟩
  · intro s
    exact Width.exists_int64_iff fun _ => coerce_text_eq_ok_iff
  · intro s unspelt
    rw [coerce_text, unread_iff.mpr unspelt]
    rfl
  · intro n
    refine ⟨integerText n, rfl, ?_⟩
    intro before after blanks blanks'
    exact coerce_text_eq_ok_iff.mpr (spelt_integerText n blanks blanks')
  · intro v
    exact ⟨FieldType.narrowed_int32 v, FieldType.narrowed_uint32 v, fun _ _ => rfl⟩

theorem integer_of_text_sample :
    (integer Int64.minValue).coerce .text = .ok (.text "-9223372036854775808") ∧
      (text ("\u3000" ++ "-9223372036854775808" ++ "\t ")).coerce .integer =
        .ok (.integer Int64.minValue) ∧
      (text "9223372036854775808").coerce .integer =
        .error (.parse "9223372036854775808" .integer) ∧
      (text " 4 2 ").coerce .integer = .error (.parse " 4 2 " .integer) := by
  obtain ⟨-, refused, written, -⟩ := integer_of_text
  obtain ⟨t, shown, read⟩ := written Int64.minValue
  have least : t = "-9223372036854775808" := by
    cases shown
    decide +kernel
  subst least
  exact ⟨shown, read "\u3000" "\t " (by decide +kernel) (by decide +kernel),
    refused _ (unread_iff.mp (by decide +kernel)), refused _ (unread_iff.mp (by decide +kernel))⟩

theorem coerce_real (x : Double) :
    (real x).coerce .integer =
      match x.toInt? with
      | some n =>
        if Decimal.inInt64 n then .ok (.integer (Int64.ofInt n))
        else .error (.outOfRange (.real x) .int64)
      | none => .error (.mismatch .integer (.real x)) := rfl

theorem coerce_real_eq_ok_iff {x : Double} {k : Int64} :
    (real x).coerce .integer = .ok (.integer k) ↔ x.number? = some (k.toInt : ℚ) := by
  rw [coerce_real, ← Double.toInt_eq_some_iff]
  cases x.toInt? with
  | none => simp
  | some n =>
    by_cases inside : Decimal.inInt64 n = true
    · have same := Decimal.toInt_ofInt inside
      simp [inside, ← Int64.toInt_inj, same]
    · have apart : n ≠ k.toInt := by
        rintro rfl
        exact inside (Decimal.inInt64_toInt k)
      simp [inside, apart]

theorem coerce_real_eq_outOfRange_iff {x : Double} :
    (real x).coerce .integer = .error (.outOfRange (.real x) .int64) ↔
      ∃ n : Int, x.number? = some (n : ℚ) ∧ ¬Width.int64.Holds n := by
  simp only [coerce_real, ← Double.toInt_eq_some_iff, ← Width.inInt64_iff]
  cases x.toInt? with
  | none => simp
  | some n => by_cases inside : Decimal.inInt64 n = true <;> simp [inside]

theorem coerce_real_eq_mismatch_iff {x : Double} :
    (real x).coerce .integer = .error (.mismatch .integer (.real x)) ↔
      ∀ n : Int, x.number? ≠ some (n : ℚ) := by
  simp only [coerce_real, ne_eq, ← Double.toInt_eq_some_iff]
  cases x.toInt? with
  | none => simp
  | some n => by_cases inside : Decimal.inInt64 n = true <;> simp [inside]

theorem readInt64_real_eq_error_iff {x : Double} {cause : ValueError} :
    FieldType.readInt64 (real x) = .error cause ↔ (real x).coerce .integer = .error cause := by
  rw [FieldType.readInt64, FieldType.readAs, coerce_real]
  cases x.toInt? with
  | none => simp
  | some n => by_cases inside : Decimal.inInt64 n = true <;> simp [inside, content?]

/-- A field takes a real that is a number it can hold. One that no integer column could hold is
    refused as there. -/
structure ReadsReal {α : Type} (number : α → Int) (width : Width) (x : Double)
    (result : Except ValueError α) : Prop where
  read : ∀ a, result = .ok a ↔ x.number? = some (number a : ℚ)
  refused : ∀ e, result = .error e ↔
    (real x).coerce .integer = .error e ∨
      ∃ n : Int64, x.number? = some (n.toInt : ℚ) ∧ ¬width.Holds n.toInt ∧
        e = .outOfRange (.integer n) width

theorem readsReal_of_narrowed {α : Type} {number : α → Int} {width : Width} {x : Double}
    {result : Except ValueError α} (held : ∀ a, Width.int64.Holds (number a))
    (narrowed : FieldType.Narrowed number width (FieldType.readInt64 (real x)) result) :
    ReadsReal number width x result where
  read a := by
    rw [narrowed.read]
    have told := Width.exists_int64_iff (q := fun n => x.number? = some (n : ℚ))
      fun _ => FieldType.readInt64_eq_ok_iff.trans coerce_real_eq_ok_iff
    exact (told (number a)).trans (and_iff_left (held a))
  refused e := by
    rw [narrowed.refused, readInt64_real_eq_error_iff]
    simp only [FieldType.readInt64_eq_ok_iff, coerce_real_eq_ok_iff]

/-- A real is an integer only when it is one exactly; too large a number and a fractional one
    are refused with different errors. -/
theorem integer_of_real (x : Double) :
    (∀ n : Int, (∃ k : Int64, (real x).coerce .integer = .ok (.integer k) ∧ k.toInt = n) ↔
      x.number? = some (n : ℚ) ∧ Width.int64.Holds n) ∧
    ((real x).coerce .integer = .ok (.integer 0) ↔ x.isZero = true) ∧
    ((real x).coerce .integer = .error (.outOfRange (.real x) .int64) ↔
      ∃ n : Int, x.number? = some (n : ℚ) ∧ ¬Width.int64.Holds n) ∧
    ((real x).coerce .integer = .error (.mismatch .integer (.real x)) ↔
      ∀ n : Int, x.number? ≠ some (n : ℚ)) ∧
    ReadsReal Int64.toInt .int64 x (FieldType.readInt64 (real x)) ∧
    ReadsReal Int32.toInt .int32 x (FieldType.readInt32 (real x)) ∧
    ReadsReal (fun a : UInt32 => (a.toNat : Int)) .uint32 x (FieldType.readUInt32 (real x)) := by
  have accepted : ∀ n : Int,
      (∃ k : Int64, (real x).coerce .integer = .ok (.integer k) ∧ k.toInt = n) ↔
        x.number? = some (n : ℚ) ∧ Width.int64.Holds n :=
    Width.exists_int64_iff fun _ => coerce_real_eq_ok_iff
  have zero : (real x).coerce .integer = .ok (.integer 0) ↔ x.isZero = true := by
    rw [coerce_real_eq_ok_iff, ← Double.number_eq_zero_iff, Int64.toInt_zero, Int.cast_zero]
  exact ⟨accepted, zero, coerce_real_eq_outOfRange_iff, coerce_real_eq_mismatch_iff,
    readsReal_of_narrowed Width.holds_int64 (FieldType.narrowed_int64 _),
    readsReal_of_narrowed (fun a => (Width.holds_int32 a).int64) (FieldType.narrowed_int32 _),
    readsReal_of_narrowed (fun a => (Width.holds_uint32 a).int64) (FieldType.narrowed_uint32 _)⟩

example : (real ⟨0x43DFFFFFFFFFFFFF⟩).coerce .integer = .ok (.integer 9223372036854774784) ∧
    (real ⟨0x43E0000000000000⟩).coerce .integer =
      .error (.outOfRange (.real ⟨0x43E0000000000000⟩) .int64) := by
  decide +kernel

end Value
end Joinery
