import Joinery.Proofs.Mapping.Construction

/-!
What the check of a record mapping decides. It passes when the properties that are bound are
those that are mapped. Then every column is read into the field of the last binding of its
property, and no column is passed over.
-/
namespace Joinery

namespace FieldBinding
variable {ρ : Type}

def store (b : FieldBinding ρ) (v : Value) : ExceptT ValueError (StateM ρ) Unit := do
  let content ← MonadExcept.ofExcept (b.type.read v)
  modify (b.assign content)

inductive Outcome (b : FieldBinding ρ) (v : Value) (record : ρ) :
    Except ValueError ρ → Except ValueError Unit × ρ → Prop where
  | written {content : b.type.Carrier} (read : b.type.read v = .ok content) :
    Outcome b v record (.ok (b.assign content record)) (.ok (), b.assign content record)
  | refused {cause : ValueError} (read : b.type.read v = .error cause) :
    Outcome b v record (.error cause) (.error cause, record)

theorem outcome (b : FieldBinding ρ) (v : Value) (record : ρ) :
    b.Outcome v record (RecordMapping.setter b.type b.assign v record)
      ((b.store v).run.run record) := by
  unfold RecordMapping.setter store
  cases read : b.type.read v with
  | ok content => exact .written read
  | error cause => exact .refused read

theorem Outcome.frame {b : FieldBinding ρ} {v : Value} {record : ρ} {result : Except ValueError ρ}
    {state : Except ValueError Unit × ρ} (outcome : b.Outcome v record result state) {α : Type}
    (part : ρ → α) (apart : ∀ content r, part (b.assign content r) = part r) :
    part state.2 = part record := by
  cases outcome with
  | written => exact apart _ record
  | refused => rfl

end FieldBinding

def Mapping.Maps (m : Mapping) (property : String) : Prop := property ∈ m.columns.map Column.property

instance (m : Mapping) : DecidablePred m.Maps := fun _ => inferInstanceAs (Decidable (_ ∈ _))

theorem Mapping.position?_eq_none_iff_not_maps {m : Mapping} {property : String} :
    m.position? property = none ↔ ¬ m.Maps property := by
  rw [position?_eq_none_iff]
  simp [Maps]

namespace RecordMapping
variable {ρ : Type} {m : Mapping} {blank : ρ} {bindings : List (FieldBinding ρ)}

def unboundOf (m : Mapping) (bindings : List (FieldBinding ρ)) : List String :=
  (m.columns.map Column.property).filter (· ∉ bindings.map FieldBinding.property)

inductive Defect (m : Mapping) (bindings : List (FieldBinding ρ)) : Fault → Prop where
  | unknown {before after : List (FieldBinding ρ)} {b : FieldBinding ρ}
    (parts : bindings = before ++ b :: after) (known : ∀ o ∈ before, m.Maps o.property)
    (unmapped : ¬ m.Maps b.property) : Defect m bindings (.unknownBinding m.table b.property)
  | unbound (known : ∀ b ∈ bindings, m.Maps b.property) (left : unboundOf m bindings ≠ []) :
    Defect m bindings (.unboundProperties m.table (unboundOf m bindings))

theorem lastBinding?_eq_none_iff {property : String} :
    lastBinding? bindings property = none ↔ property ∉ bindings.map FieldBinding.property := by
  unfold lastBinding?
  simp [List.find?_eq_none]

theorem lastBinding?_eq_some {property : String} {b : FieldBinding ρ}
    (found : lastBinding? bindings property = some b) :
    ∃ before after, bindings = before ++ b :: after ∧ b.property = property ∧
      ∀ later ∈ after, later.property ≠ property := by
  unfold lastBinding? at found
  obtain ⟨same, after, before, parts, skipped⟩ := List.find?_eq_some_iff_append.mp found
  refine ⟨before.reverse, after.reverse, ?_, by simpa using same, ?_⟩
  · have turned := congrArg List.reverse parts
    simpa using turned
  · intro later member
    simpa using skipped later (List.mem_reverse.mp member)

theorem ofBindings_unknown :
    (ofBindings m blank bindings).unknown =
      (bindings.filter fun b => ¬ m.Maps b.property).map FieldBinding.property := by
  induction bindings using List.reverseRecOn with
  | nil => rfl
  | append_singleton bindings b ih =>
    rw [ofBindings_concat]
    unfold bind
    rw [ofBindings_frame.1]
    cases found : m.position? b.property with
    | some i =>
      have mapped : m.Maps b.property := by
        by_contra unmapped
        rw [Mapping.position?_eq_none_iff_not_maps.mpr unmapped] at found
        cases found
      simp [ih, mapped]
    | none =>
      have unmapped := Mapping.position?_eq_none_iff_not_maps.mp found
      simp [ih, unmapped]

theorem ofBindings_unbound : (ofBindings m blank bindings).unbound = unboundOf m bindings := by
  unfold unbound unboundOf
  rw [ofBindings_frame.1, ofBindings_setters, ← List.map_prod_left_eq_zip, List.filter_map,
    List.map_map, List.filter_map]
  congr 1
  apply List.filter_congr
  intro c _
  rw [Bool.eq_iff_iff]
  simp only [Function.comp, Option.isNone_map, Option.isNone_iff_eq_none, lastBinding?_eq_none_iff,
    decide_eq_true_eq]

theorem unboundOf_eq_nil_iff :
    unboundOf m bindings = [] ↔
      ∀ property, m.Maps property → ∃ b ∈ bindings, b.property = property := by
  unfold unboundOf Mapping.Maps
  simp

/-- The check looks for a property that is not mapped before it looks for one that is not
bound. -/
theorem validate_eq :
    (ofBindings m blank bindings).validate =
      match bindings.find? fun b => ¬ m.Maps b.property with
      | some b => .error (.unknownBinding m.table b.property)
      | none =>
        if unboundOf m bindings = [] then .ok ()
        else .error (.unboundProperties m.table (unboundOf m bindings)) := by
  unfold validate
  rw [ofBindings_unknown, ofBindings_unbound, ofBindings_frame.1, ← List.head?_filter]
  cases bindings.filter fun b => ¬ m.Maps b.property with
  | nil => simp
  | cons b rest => rfl

theorem validate_eq_ok_iff :
    (ofBindings m blank bindings).validate = .ok () ↔
      (∀ b ∈ bindings, m.Maps b.property) ∧
        ∀ property, m.Maps property → ∃ b ∈ bindings, b.property = property := by
  rw [validate_eq, ← unboundOf_eq_nil_iff]
  cases first : bindings.find? fun b => ¬ m.Maps b.property with
  | some b =>
    have member := List.mem_of_find?_eq_some first
    have unmapped := List.find?_some first
    simp only [decide_eq_true_eq] at unmapped
    constructor
    · intro passed
      cases passed
    · rintro ⟨known, -⟩
      exact absurd (known b member) unmapped
  | none =>
    have known : ∀ b ∈ bindings, m.Maps b.property := by simpa using first
    by_cases left : unboundOf m bindings = []
    · simpa [left] using known
    · simp [left]

theorem validate_eq_error_iff {fault : Fault} :
    (ofBindings m blank bindings).validate = .error fault ↔ Defect m bindings fault := by
  rw [validate_eq]
  constructor
  · intro refused
    -- an unknown binding is told before a missing one
    cases first : bindings.find? fun b => ¬ m.Maps b.property with
    | some b =>
      rw [first] at refused
      cases refused
      obtain ⟨unmapped, before, after, parts, skipped⟩ := List.find?_eq_some_iff_append.mp first
      exact .unknown parts (by simpa using skipped) (by simpa using unmapped)
    | none =>
      have known : ∀ b ∈ bindings, m.Maps b.property := by simpa using first
      rw [first] at refused
      dsimp only at refused
      split at refused
      · cases refused
      · rename_i left
        cases refused
        exact .unbound known left
  · intro defect
    cases defect with
    | @unknown before after b parts known unmapped =>
      have first : bindings.find? (fun b => ¬ m.Maps b.property) = some b := by
        rw [List.find?_eq_some_iff_append]
        exact ⟨by simpa using unmapped, before, after, parts, by simpa using known⟩
      rw [first]
    | unbound known left =>
      have none_unknown : bindings.find? (fun b => ¬ m.Maps b.property) = none := by
        simpa using known
      rw [none_unknown]
      exact if_neg left

theorem set_of_validate (valid : (ofBindings m blank bindings).validate = .ok ()) {i : Nat}
    {c : Column} (column : m.columns[i]? = some c) :
    ∃ before b after, bindings = before ++ b :: after ∧ b.property = c.property ∧
      (∀ later ∈ after, later.property ≠ c.property) ∧
      (ofBindings m blank bindings).setters[i]? = some (some (setter b.type b.assign)) ∧
      ∀ v record, (ofBindings m blank bindings).set i v record = setter b.type b.assign v record := by
  obtain ⟨b, last⟩ := bound_of_validate valid c (List.mem_of_getElem? column)
  obtain ⟨before, after, parts, same, later⟩ := lastBinding?_eq_some last
  have stands : (ofBindings m blank bindings).setters[i]? =
      some (some (setter b.type b.assign)) := by
    rw [ofBindings_setters, List.getElem?_map, column]
    simp [last]
  refine ⟨before, b, after, parts, same, later, stands, ?_⟩
  intro v record
  unfold set
  rw [stands]

/-- Bindings pass the check when they bind every mapped property and nothing else. Where they
pass, a value is read into a column by the last binding of the property and into its field
alone. -/
theorem complete_bindings (m : Mapping) (blank : ρ) (bindings : List (FieldBinding ρ)) :
    ((ofBindings m blank bindings).validate = .ok () ↔
        (∀ b ∈ bindings, m.Maps b.property) ∧
          ∀ property, m.Maps property → ∃ b ∈ bindings, b.property = property) ∧
      (∀ fault, (ofBindings m blank bindings).validate = .error fault ↔ Defect m bindings fault) ∧
      ((ofBindings m blank bindings).validate = .ok () → ∀ i c, m.columns[i]? = some c →
        ∃ before b after, bindings = before ++ b :: after ∧ b.property = c.property ∧
          (∀ later ∈ after, later.property ≠ c.property) ∧
          (ofBindings m blank bindings).setters[i]? = some (some (setter b.type b.assign)) ∧
          ∀ v record,
            b.Outcome v record ((ofBindings m blank bindings).set i v record)
                ((b.store v).run.run record) ∧
              ∀ (α : Type) (part : ρ → α), (∀ content r, part (b.assign content r) = part r) →
                part ((b.store v).run.run record).2 = part record) := by
  refine ⟨validate_eq_ok_iff, fun _ => validate_eq_error_iff, ?_⟩
  intro valid i c column
  obtain ⟨before, b, after, parts, same, later, stands, reads⟩ := set_of_validate valid column
  refine ⟨before, b, after, parts, same, later, stands, ?_⟩
  intro v record
  rw [reads]
  exact ⟨b.outcome v record, fun _ part apart => (b.outcome v record).frame part apart⟩

namespace Sample

def persons : Mapping where
  table := "person"
  columns := [⟨"ID", "person_id", .integer, true⟩, ⟨"Name", "name", .text, false⟩]
  table_ne := by decide
  columns_ne := by decide
  properties_nodup := by decide
  names_nodup := by decide

def fields : List (FieldBinding (Int64 × Int64 × String)) :=
  [⟨"ID", .int64, fun n r => (r.1, n, r.2.2)⟩, ⟨"Name", .text, fun s r => (r.1, r.2.1, s)⟩,
    ⟨"ID", .int64, fun n r => (n, r.2)⟩]

end Sample

theorem complete_bindings_person :
    let records := ofBindings Sample.persons (0, 0, "") Sample.fields
    records.validate = .ok () ∧ records.set 0 (.integer 7) (1, 2, "Ada") = .ok (7, 2, "Ada") ∧
      ∃ before b after, Sample.fields = before ++ b :: after ∧ b.property = "ID" ∧
        (∀ later ∈ after, later.property ≠ "ID") ∧
        b.Outcome (.text "x") (1, 2, "Ada") (records.set 0 (.text "x") (1, 2, "Ada"))
          ((b.store (.text "x")).run.run (1, 2, "Ada")) := by
  intro records
  have all := complete_bindings Sample.persons (0, 0, "") Sample.fields
  have valid : records.validate = .ok () := by
    refine all.1.mpr ⟨by decide, ?_⟩
    intro property mapped
    have either : property = "ID" ∨ property = "Name" := by
      simpa [Mapping.Maps, Sample.persons] using mapped
    rcases either with rfl | rfl
    · exact ⟨_, List.mem_cons_self, rfl⟩
    · exact ⟨_, List.mem_cons_of_mem _ List.mem_cons_self, rfl⟩
  obtain ⟨before, b, after, parts, same, later, -, reads⟩ := all.2.2 valid 0 _ rfl
  exact ⟨valid, rfl, before, b, after, parts, same, later, (reads _ _).1⟩

end RecordMapping

end Joinery
