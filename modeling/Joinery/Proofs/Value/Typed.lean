import Joinery.Value.Coerce

/-!
Values of a column type. Conversion gives only these, and gives them back unchanged.
-/
namespace Joinery.Value

def hasType : Value → ColumnType → Bool
  | .null, _ => true
  | .integer _, .integer => true
  | .real _, .real => true
  | .text _, .text => true
  | .boolean _, .boolean => true
  | .blob _, .blob => true
  | _, _ => false

theorem coerce_of_hasType {v : Value} {type : ColumnType} (typed : v.hasType type = true) :
    v.coerce type = .ok v := by
  cases v <;> cases type <;> cases typed <;> rfl

theorem hasType_parsed {α : Type} {make : α → Value} {type : ColumnType}
    (made : ∀ a, (make a).hasType type = true) {s : String} {expected : ColumnType}
    {read : Option α} {w : Value} (converted : parsed s expected (read.map make) = .ok w) :
    w.hasType type = true := by
  cases read with
  | none => cases converted
  | some a =>
    cases converted
    exact made a

theorem hasType_toInteger {v w : Value} (converted : v.toInteger = .ok w) :
    w.hasType .integer = true := by
  cases v with
  | real x =>
    simp only [toInteger] at converted
    split at converted
    · split at converted <;> cases converted
      rfl
    · cases converted
  | text s => exact hasType_parsed (fun _ => rfl) converted
  | blob bytes => cases converted
  | _ =>
    cases converted
    rfl

theorem hasType_toReal {v w : Value} (converted : v.toReal = .ok w) :
    w.hasType .real = true := by
  cases v with
  | text s => exact hasType_parsed (fun _ => rfl) converted
  | boolean b => cases converted
  | blob bytes => cases converted
  | _ =>
    cases converted
    rfl

theorem hasType_toText {v w : Value} (converted : v.toText = .ok w) :
    w.hasType .text = true := by
  cases v with
  | blob bytes => cases converted
  | _ =>
    cases converted
    rfl

theorem hasType_toBoolean {v w : Value} (converted : v.toBoolean = .ok w) :
    w.hasType .boolean = true := by
  cases v with
  | integer n =>
    simp only [toBoolean] at converted
    split at converted
    · cases converted
      rfl
    · split at converted <;> cases converted
      rfl
  | text s =>
    rw [toBoolean] at converted
    exact hasType_parsed (fun _ => rfl) converted
  | real x => cases converted
  | blob bytes => cases converted
  | _ =>
    cases converted
    rfl

theorem hasType_toBlob {v w : Value} (converted : v.toBlob = .ok w) :
    w.hasType .blob = true := by
  cases v with
  | text s =>
    rw [toBlob, Except.ok.injEq] at converted
    subst converted
    rfl
  | null | blob bytes =>
    cases converted
    rfl
  | _ => cases converted

theorem hasType_of_coerce {v w : Value} {type : ColumnType} (converted : v.coerce type = .ok w) :
    w.hasType type = true := by
  cases type with
  | integer => exact hasType_toInteger converted
  | real => exact hasType_toReal converted
  | text => exact hasType_toText converted
  | boolean => exact hasType_toBoolean converted
  | blob => exact hasType_toBlob converted

end Joinery.Value
