import Joinery.Value.Coerce

/-!
Null under conversion. Null belongs to every column type, and nothing else becomes null
when it is converted.
-/
namespace Joinery

def ValueError.isUnexpectedNull : ValueError → Bool
  | .unexpectedNull _ => true
  | _ => false

namespace Value

theorem isNull_iff {v : Value} : v.isNull = true ↔ v = null := by
  cases v <;> simp [isNull]

theorem isNull_eq_false_iff {v : Value} : v.isNull = false ↔ v ≠ null := by
  cases v <;> simp [isNull]

/-- What becomes of a value that is not null: another one, or a refusal that is not for
    a null. -/
def Given (result : Except ValueError Value) : Prop :=
  (∀ w, result = .ok w → w.isNull = false) ∧
    ∀ cause, result = .error cause → cause.isUnexpectedNull = false

theorem given_ok {w : Value} (value : w.isNull = false) : Given (.ok w) := by
  constructor
  · rintro x ⟨⟩
    exact value
  · rintro cause ⟨⟩

theorem given_error {cause : ValueError} (other : cause.isUnexpectedNull = false) :
    Given (.error cause) := by
  constructor
  · rintro x ⟨⟩
  · rintro e ⟨⟩
    exact other

theorem given_parsed {α : Type} {make : α → Value} (made : ∀ a, (make a).isNull = false)
    (s : String) (expected : ColumnType) (read : Option α) :
    Given (parsed s expected (read.map make)) := by
  cases read with
  | none => exact given_error rfl
  | some a => exact given_ok (made a)

theorem given_toInteger {v : Value} (value : v.isNull = false) : Given v.toInteger := by
  cases v with
  | null => cases value
  | integer n => exact given_ok rfl
  | real x =>
    simp only [toInteger]
    split
    · split
      · exact given_ok rfl
      · exact given_error rfl
    · exact given_error rfl
  | text s => exact given_parsed (fun _ => rfl) s .integer _
  | boolean b => exact given_ok rfl
  | blob bytes => exact given_error rfl

theorem given_toReal {v : Value} (value : v.isNull = false) : Given v.toReal := by
  cases v with
  | null => cases value
  | integer n => exact given_ok rfl
  | real x => exact given_ok rfl
  | text s => exact given_parsed (fun _ => rfl) s .real _
  | boolean b => exact given_error rfl
  | blob bytes => exact given_error rfl

theorem given_toText {v : Value} (value : v.isNull = false) : Given v.toText := by
  cases v with
  | null => cases value
  | blob bytes => exact given_error rfl
  | _ => exact given_ok rfl

theorem given_toBoolean {v : Value} (value : v.isNull = false) : Given v.toBoolean := by
  cases v with
  | null => cases value
  | integer n =>
    simp only [toBoolean]
    split
    · exact given_ok rfl
    · split
      · exact given_ok rfl
      · exact given_error rfl
  | real x => exact given_error rfl
  | text s =>
    simp only [toBoolean]
    exact given_parsed (fun _ => rfl) s .boolean _
  | boolean b => exact given_ok rfl
  | blob bytes => exact given_error rfl

theorem given_toBlob {v : Value} (value : v.isNull = false) : Given v.toBlob := by
  cases v with
  | null => cases value
  | text s =>
    have bytes : (Value.blob s.toUTF8.data.toList).isNull = false := rfl
    exact given_ok bytes
  | blob bytes => exact given_ok rfl
  | _ => exact given_error rfl

theorem given_coerce {v : Value} (value : v.isNull = false) (type : ColumnType) :
    Given (v.coerce type) := by
  cases type with
  | integer => exact given_toInteger value
  | real => exact given_toReal value
  | text => exact given_toText value
  | boolean => exact given_toBoolean value
  | blob => exact given_toBlob value

theorem coerce_null (type : ColumnType) : null.coerce type = .ok null := by
  cases type <;> rfl

theorem coerce_isNull {v w : Value} {type : ColumnType} (converted : v.coerce type = .ok w) :
    w.isNull = v.isNull := by
  cases value : v.isNull with
  | true =>
    rw [isNull_iff.mp value, coerce_null] at converted
    cases converted
    rfl
  | false => exact (given_coerce value type).1 w converted

end Value

end Joinery
