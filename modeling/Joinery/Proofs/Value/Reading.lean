import Joinery.Proofs.Value.Coercion
import Joinery.Proofs.Value.Integers
import Joinery.Proofs.Value.Typed

/-!
Fields are read through columns. A value is converted to the column type of the field first, which
gives a value of that type or null, and converting once more changes nothing. So all that a field
has to refuse by itself is null and a number it cannot hold.
-/
namespace Joinery

namespace Value

def ofContent : (type : ColumnType) → type.Content → Value
  | .integer, n => .integer n
  | .real, x => .real x
  | .text, s => .text s
  | .boolean, b => .boolean b
  | .blob, bytes => .blob bytes

theorem content?_ofContent (type : ColumnType) (a : type.Content) :
    (ofContent type a).content? type = some a := by
  cases type <;> rfl

theorem ofContent_ne_null (type : ColumnType) (a : type.Content) : ofContent type a ≠ null := by
  cases type <;> exact Value.noConfusion

theorem content?_null (type : ColumnType) : null.content? type = none := by
  cases type <;> rfl

theorem exists_ofContent {v : Value} {type : ColumnType} (typed : v.hasType type = true)
    (value : v ≠ null) : ∃ a, v = ofContent type a := by
  cases v <;> cases type <;> first
    | exact ⟨_, rfl⟩
    | exact absurd rfl value
    | cases typed

theorem coerce_eq_null_iff {v w : Value} {type : ColumnType} (converted : v.coerce type = .ok w) :
    w = null ↔ v = null := by
  rw [← isNull_iff, ← isNull_iff, coerce_isNull converted]

end Value

namespace FieldType
open Value

/-- What reading comes to: the refusal of the conversion, that of a null, or the content of what
    is converted. -/
theorem readAs_cases (type : ColumnType) (v : Value) :
    (∃ cause, v.coerce type = .error cause ∧ readAs type v = .error cause) ∨
      v = null ∧ v.coerce type = .ok null ∧ readAs type v = .error (.unexpectedNull type) ∨
      ∃ a, v.coerce type = .ok (ofContent type a) ∧ readAs type v = .ok a := by
  unfold readAs
  cases converted : v.coerce type with
  | error cause => exact .inl ⟨cause, rfl, rfl⟩
  | ok w =>
    by_cases empty : w = null
    · have given : v = null := (coerce_eq_null_iff converted).mp empty
      subst empty
      refine .inr (.inl ⟨given, rfl, ?_⟩)
      simp only [content?_null]
      rfl
    · obtain ⟨a, rfl⟩ := exists_ofContent (hasType_of_coerce converted) empty
      refine .inr (.inr ⟨a, rfl, ?_⟩)
      simp only [content?_ofContent]

/-- Reading goes through the conversion to a column type. It is required that there is a value, or
    a null is read, too. -/
structure ReadsThrough {α : Type} (type : ColumnType) (required : Bool) (toValue : α → Value)
    (read : Value → Except ValueError α) : Prop where
  converted : ∀ v w, v.coerce type = .ok w → read v = read w
  refused : ∀ v cause, v.coerce type = .error cause → read v = .error cause
  content : ∀ v a, read v = .ok a → v.coerce type = .ok (toValue a)
  unexpected : ∀ v expected,
    read v = .error (.unexpectedNull expected) ↔ v = null ∧ required = true ∧ expected = type
  failed : ∀ v cause, read v = .error cause →
    v.coerce type = .error cause ∨ v = null ∧ cause = .unexpectedNull type ∨
      ∃ n width, v.coerce type = .ok (.integer n) ∧ ¬width.Holds n.toInt ∧
        cause = .outOfRange (.integer n) width

theorem readsThrough_readAs (type : ColumnType) :
    ReadsThrough type true (ofContent type) (readAs type) where
  converted v w converted := by
    have again := coerce_of_hasType (hasType_of_coerce converted)
    rw [readAs, readAs, converted, again]
  refused v cause refused := by rw [readAs, refused]
  content v a read := by
    rcases readAs_cases type v with ⟨cause, -, failed⟩ | ⟨-, -, failed⟩ | ⟨b, converted, ok⟩
    · rw [failed] at read
      cases read
    · rw [failed] at read
      cases read
    · rw [ok, Except.ok.injEq] at read
      rw [converted, read]
  unexpected v expected := by
    rcases readAs_cases type v with ⟨cause, refused, failed⟩ | ⟨rfl, -, failed⟩ | ⟨b, converted, ok⟩
    · -- a null is converted to a null and so cannot have been refused
      have value : v ≠ null := by
        rintro rfl
        rw [coerce_null] at refused
        cases refused
      have other := (given_coerce (isNull_eq_false_iff.mpr value) type).2 cause refused
      have apart : cause ≠ .unexpectedNull expected := by
        rintro rfl
        cases other
      simp [failed, value, apart]
    · simp [failed, eq_comm]
    · have value : v ≠ null :=
        fun empty => ofContent_ne_null type b ((coerce_eq_null_iff converted).mpr empty)
      simp [ok, value]
  failed v cause read := by
    rcases readAs_cases type v with ⟨_, refused, failed⟩ | ⟨empty, -, failed⟩ | ⟨b, -, ok⟩
    · rw [failed] at read
      cases read
      exact .inl refused
    · rw [failed] at read
      cases read
      exact .inr (.inl ⟨empty, rfl⟩)
    · rw [ok] at read
      cases read

theorem ReadsThrough.mismatched {α : Type} {type : ColumnType} {required : Bool} {toValue : α → Value}
    {read : Value → Except ValueError α} (reads : ReadsThrough type required toValue read) (v : Value)
    (expected : ColumnType) (found : Value) :
    read v = .error (.mismatch expected found) ↔
      v.coerce type = .error (.mismatch expected found) := by
  constructor
  · intro failed
    rcases reads.failed v _ failed with refused | ⟨-, same⟩ | ⟨_, _, -, -, same⟩
    · exact refused
    · cases same
    · cases same
  · exact reads.refused v _

theorem Narrowed.unique {α : Type} {number : α → Int} {width : Width}
    {wide : Except ValueError Int64} {narrow narrow' : Except ValueError α}
    (narrowed : Narrowed number width wide narrow)
    (narrowed' : Narrowed number width wide narrow') : narrow = narrow' := by
  cases narrow with
  | ok a => exact ((narrowed'.read a).mpr ((narrowed.read a).mp rfl)).symm
  | error e => exact ((narrowed'.refused e).mpr ((narrowed.refused e).mp rfl)).symm

theorem ReadsThrough.narrowed {α : Type} {number : α → Int} {width : Width} {toValue : α → Value}
    {narrow : Value → Except ValueError α}
    (wide : ReadsThrough .integer true Value.integer readInt64)
    (narrowed : ∀ v, Narrowed number width (readInt64 v) (narrow v))
    (same : ∀ a, toValue a = .integer (Int64.ofInt (number a))) :
    ReadsThrough .integer true toValue narrow where
  converted v w converted := by
    have result := narrowed v
    rw [wide.converted v w converted] at result
    exact result.unique (narrowed w)
  refused v cause refused := ((narrowed v).refused cause).mpr (.inl (wide.refused v cause refused))
  content v a read := by
    obtain ⟨n, full, kept⟩ := ((narrowed v).read a).mp read
    rw [wide.content v n full, same, ← kept, Int64.ofInt_toInt]
  unexpected v expected := by
    -- out of range is never said of a null
    rw [(narrowed v).refused, ← wide.unexpected v expected]
    simp
  failed v cause read := by
    rcases ((narrowed v).refused cause).mp read with failed | ⟨n, full, outside, rfl⟩
    · exact wide.failed v cause failed
    · exact .inr (.inr ⟨n, width, wide.content v n full, outside, rfl⟩)

theorem map_some_eq_error_iff {α : Type} {result : Except ValueError α} {cause : ValueError} :
    result.map some = .error cause ↔ result = .error cause := by
  cases result <;> simp [Except.map]

theorem ReadsThrough.optional {α : Type} {type : ColumnType} {required : Bool} {toValue : α → Value}
    {read : Value → Except ValueError α} (inner : ReadsThrough type required toValue read) :
    ReadsThrough type false (fun a => a.elim .null toValue)
      (fun v => if v.isNull then .ok none else (read v).map some) where
  converted v w converted := by rw [coerce_isNull converted, inner.converted v w converted]
  refused v cause refused := by
    have value : v.isNull = false := by
      rw [isNull_eq_false_iff]
      rintro rfl
      rw [coerce_null] at refused
      cases refused
    rw [value, inner.refused v cause refused]
    rfl
  content v a found := by
    cases empty : v.isNull with
    | true =>
      rw [empty] at found
      cases found
      rw [isNull_iff.mp empty]
      exact coerce_null type
    | false =>
      rw [empty] at found
      cases plain : read v with
      | error cause =>
        rw [plain] at found
        cases found
      | ok b =>
        rw [plain] at found
        cases found
        exact inner.content v b plain
  unexpected v expected := by
    cases empty : v.isNull with
    | true => simp
    | false =>
      simp [map_some_eq_error_iff, inner.unexpected, isNull_eq_false_iff.mp empty]
  failed v cause found := by
    cases empty : v.isNull with
    | true =>
      rw [empty] at found
      cases found
    | false =>
      rw [empty] at found
      exact inner.failed v cause (map_some_eq_error_iff.mp found)

def columnType? : FieldType → Option ColumnType
  | .int64 | .int32 | .uint32 => some .integer
  | .double => some .real
  | .boolean => some .boolean
  | .text => some .text
  | .bytes => some .blob
  | .value => none
  | .optional inner => inner.columnType?

def isOptional : FieldType → Bool
  | .optional _ => true
  | _ => false

theorem readsThrough_field {field : FieldType} {type : ColumnType}
    (own : field.columnType? = some type) :
    ReadsThrough type (!field.isOptional) field.toValue field.read := by
  have int64 : ReadsThrough .integer true Value.integer readInt64 := readsThrough_readAs .integer
  -- an option reads like what it may be, so its column type is that of its content
  induction field with
  | int64 =>
    cases own
    exact int64
  | int32 =>
    cases own
    exact int64.narrowed narrowed_int32 fun _ => rfl
  | uint32 =>
    cases own
    exact int64.narrowed narrowed_uint32 fun _ => rfl
  | double =>
    cases own
    exact readsThrough_readAs .real
  | boolean =>
    cases own
    exact readsThrough_readAs .boolean
  | text =>
    cases own
    exact readsThrough_readAs .text
  | bytes =>
    cases own
    exact readsThrough_readAs .blob
  | value => cases own
  | optional inner ih =>
    have all := (ih own).optional
    have content : (optional inner).toValue = fun a => a.elim .null inner.toValue := by
      funext a
      cases a <;> rfl
    rwa [← content] at all

theorem read_untyped {field : FieldType} (own : field.columnType? = none) (v : Value) :
    ∃ a, field.read v = .ok a ∧ field.toValue a = v := by
  induction field with
  | value => exact ⟨v, rfl, rfl⟩
  | optional inner ih =>
    cases empty : v.isNull with
    | true =>
      refine ⟨none, ?_, (isNull_iff.mp empty).symm⟩
      rw [read, empty]
      rfl
    | false =>
      obtain ⟨a, found, same⟩ := ih own
      refine ⟨some a, ?_, same⟩
      rw [read, empty, found]
      rfl
  | _ => cases own

theorem read_given {v : Value} (value : v.isNull = false) {cause : ValueError} (field : FieldType)
    (refused : field.read v = .error cause) : cause.isUnexpectedNull = false := by
  cases cause with
  | unexpectedNull expected =>
    cases own : field.columnType? with
    | some type =>
      obtain ⟨empty, -, -⟩ := ((readsThrough_field own).unexpected v expected).mp refused
      exact absurd empty (isNull_eq_false_iff.mp value)
    | none =>
      obtain ⟨a, found, -⟩ := read_untyped own v
      rw [found] at refused
      cases refused
  | _ => rfl

end FieldType

/-- Conversion gives values of the column type or null, and gives them back. A field reads what its
    column would hold, complains of a null unless it is optional, and refuses nothing else that is
    converted but a number it cannot hold. -/
theorem fields_read_through_columns :
    (∀ (v w : Value) (type : ColumnType), v.coerce type = .ok w →
      (w = .null ↔ v = .null) ∧ (w ≠ .null → ∃ a, w = .ofContent type a) ∧
        w.coerce type = .ok w) ∧
      (∀ type, Value.null.coerce type = .ok .null) ∧
      (∀ (field : FieldType) (type : ColumnType), field.columnType? = some type →
        FieldType.ReadsThrough type (!field.isOptional) field.toValue field.read ∧
          ∀ v expected found, field.read v = .error (.mismatch expected found) ↔
            v.coerce type = .error (.mismatch expected found)) ∧
      (∀ field : FieldType, field.columnType? = none →
        ∀ v, ∃ a, field.read v = .ok a ∧ field.toValue a = v) ∧
      ∀ inner : FieldType, (FieldType.optional inner).read .null = .ok none ∧
        ∀ v, v ≠ .null → (FieldType.optional inner).read v = (inner.read v).map some := by
  refine ⟨?_, Value.coerce_null, ?_, fun _ => FieldType.read_untyped, ?_⟩
  · intro v w type converted
    have typed := Value.hasType_of_coerce converted
    exact ⟨Value.coerce_eq_null_iff converted, Value.exists_ofContent typed,
      Value.coerce_of_hasType typed⟩
  · intro field type own
    have reads := FieldType.readsThrough_field own
    exact ⟨reads, reads.mismatched⟩
  · intro inner
    refine ⟨rfl, ?_⟩
    intro v value
    rw [FieldType.read, Value.isNull_eq_false_iff.mpr value]
    rfl

theorem fields_read_through_columns_sample :
    let flag : FieldType := .optional .boolean
    let yes : Value := .text " TRUE"
    yes.coerce .boolean = .ok (.boolean true) ∧
      (Value.boolean true).coerce .boolean = .ok (.boolean true) ∧
      flag.read yes = flag.read (.boolean true) ∧
      FieldType.read .uint32 .null = .error (.unexpectedNull .integer) ∧
      FieldType.read .int32 (.text "x") = .error (.parse "x" .integer) ∧
      FieldType.read .uint32 (.real (Double.ofInt (-1))) =
        FieldType.read .uint32 (.integer (-1)) := by
  intro flag yes
  obtain ⟨converts, -, reads, -, -⟩ := fields_read_through_columns
  have told : yes.coerce .boolean = .ok (.boolean true) := by decide +kernel
  have whole : (Value.real (Double.ofInt (-1))).coerce .integer = .ok (.integer (-1)) := by
    decide +kernel
  have spelt : (Value.text "x").coerce .integer = .error (.parse "x" .integer) := by decide +kernel
  exact ⟨told, (converts _ _ _ told).2.2, (reads flag .boolean rfl).1.converted _ _ told,
    ((reads .uint32 .integer rfl).1.unexpected .null .integer).mpr ⟨rfl, rfl, rfl⟩,
    (reads .int32 .integer rfl).1.refused _ _ spelt,
    (reads .uint32 .integer rfl).1.converted _ _ whole⟩

end Joinery
