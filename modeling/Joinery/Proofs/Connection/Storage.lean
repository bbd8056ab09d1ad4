import Joinery.Connection.Datum
import Joinery.Proofs.Value.Integers
import Joinery.Proofs.Value.Typed

/-!
Values that are bound and read back. A database does not tell a truth value from an integer, but
who reads it does: under the type of its column, or into a field of the type it came from, the
value is the one that was bound.
-/
namespace Joinery

def Value.isNan : Value → Bool
  | .real x => x.isNan
  | _ => false

namespace Value

theorem bound_isNan (v : Value) : v.bound.isNan = v.isNan := by
  cases v <;> rfl

theorem value_bound {v : Value} (number : v.isNan = false) : v.bound.value? = some v.stored := by
  cases v with
  | real x =>
    have number : x.isNan = false := number
    simp [bound, Datum.value?, stored, number]
  | text s =>
    have read : String.fromUTF8? s.toUTF8 = some s := by
      rw [String.toUTF8_eq_toByteArray, String.fromUTF8?, dif_pos s.isValidUTF8]
      rfl
    simpa [bound, Datum.value?, stored] using read
  | _ => rfl

theorem coerce_stored {v : Value} {type : ColumnType} (typed : v.hasType type = true)
    (number : v.isNan = false) : v.stored.coerce type = .ok v := by
  cases v with
  | boolean b =>
    cases type <;> cases typed
    cases b <;> rfl
  | real x =>
    have number : x.isNan = false := number
    rw [stored, number, if_neg Bool.false_ne_true]
    exact coerce_of_hasType typed
  | _ => exact coerce_of_hasType typed

end Value

namespace FieldType

def isScalar : FieldType → Bool
  | .value | .optional _ => false
  | _ => true

/-- Scalars and what may be one. An option of an option is not among them: whether the inner or
    the outer one is empty, a null is bound. -/
def isHost : FieldType → Bool
  | .optional inner => inner.isScalar
  | type => type.isScalar

theorem read_int32 (n : Int32) : readInt32 (.integer (Int64.ofInt n.toInt)) = .ok n := by
  have fits := (Width.holds_int32 n).int64
  exact ((narrowed_int32 _).read n).mpr ⟨_, rfl, Int64.toInt_ofInt_of_le fits.1 fits.2⟩

theorem read_uint32 (n : UInt32) : readUInt32 (.integer (Int64.ofInt n.toNat)) = .ok n := by
  have fits := (Width.holds_uint32 n).int64
  exact ((narrowed_uint32 _).read n).mpr ⟨_, rfl, Int64.toInt_ofInt_of_le fits.1 fits.2⟩

theorem read_scalar {type : FieldType} (scalar : type.isScalar = true) (x : type.Carrier)
    (number : (type.toValue x).isNan = false) :
    (type.toValue x).stored.isNull = false ∧ type.read (type.toValue x).stored = .ok x := by
  cases type with
  | int64 => exact ⟨rfl, rfl⟩
  | int32 => exact ⟨rfl, read_int32 x⟩
  | uint32 => exact ⟨rfl, read_uint32 x⟩
  | double =>
    have number : Double.isNan x = false := number
    rw [toValue, Value.stored, number, if_neg Bool.false_ne_true]
    exact ⟨rfl, rfl⟩
  | boolean =>
    cases x <;> exact ⟨rfl, rfl⟩
  | text => exact ⟨rfl, rfl⟩
  | bytes => exact ⟨rfl, rfl⟩
  | value => cases scalar
  | optional inner => cases scalar

theorem read_host {type : FieldType} (host : type.isHost = true) (x : type.Carrier)
    (number : (type.toValue x).isNan = false) : type.read (type.toValue x).stored = .ok x := by
  cases type with
  | optional inner =>
    cases x with
    | none => rfl
    | some content =>
      obtain ⟨given, kept⟩ := read_scalar host content number
      rw [toValue, read, given, kept]
      rfl
  | _ => exact (read_scalar (by exact host) x number).2

end FieldType

/-- Any database that gives back what is bound, a NaN apart. -/
theorem bound_read_back (database : Datum → Datum)
    (faithful : ∀ d, d.isNan = false → database d = d) :
    (∀ (v w : Value) (type : ColumnType), v.coerce type = .ok w → w.isNan = false →
      ∃ u, (database w.bound).value? = some u ∧ u.coerce type = .ok w) ∧
    ∀ (type : FieldType) (x : type.Carrier), type.isHost = true →
      (type.toValue x).isNan = false →
      ∃ u, (database (type.toValue x).bound).value? = some u ∧ type.read u = .ok x := by
  have read : ∀ v : Value, v.isNan = false → (database v.bound).value? = some v.stored := by
    intro v number
    rw [faithful v.bound (v.bound_isNan.trans number), Value.value_bound number]
  constructor
  · intro v w type converted number
    exact ⟨w.stored, read w number, Value.coerce_stored (Value.hasType_of_coerce converted) number⟩
  · intro type x host number
    exact ⟨_, read _ number, FieldType.read_host host x number⟩

theorem bound_read_back_sample :
    let text : Value := .text " TRUE"
    let number := FieldType.toValue (.optional .uint32) (some 4294967295)
    (∀ d : Datum, d.isNan = false → d.kept = d) ∧ text.coerce .boolean = .ok (.boolean true) ∧
      (∃ u, (Value.boolean true).bound.kept.value? = some u ∧
        u.coerce .boolean = .ok (.boolean true)) ∧
      ∃ u, number.bound.kept.value? = some u ∧
        FieldType.read (.optional .uint32) u = .ok (some 4294967295) := by
  intro text number
  have faithful : ∀ d : Datum, d.isNan = false → d.kept = d := by
    intro d number
    rw [Datum.kept, number, if_neg Bool.false_ne_true]
  have converted : text.coerce .boolean = .ok (.boolean true) := by decide +kernel
  obtain ⟨values, fields⟩ := bound_read_back Datum.kept faithful
  exact ⟨faithful, converted, values text _ .boolean converted rfl,
    fields (.optional .uint32) (some 4294967295) rfl rfl⟩

end Joinery
