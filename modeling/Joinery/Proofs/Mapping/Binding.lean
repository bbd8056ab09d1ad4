import Joinery.Mapping.Record
import Mathlib.Data.List.Induction

/-!
What a record mapping holds after its fields are bound. Every column has the setter of the
last binding of its property, wherever that came in the order of bindings, and a mapping
that passes its check has a setter for every column.
-/
namespace Joinery

theorem findIdx?_of_nodup {α : Type} {key : α → String} {xs : List α} (apart : (xs.map key).Nodup)
    {k : String} {i : Nat} :
    xs.findIdx? (key · == k) = some i ↔ ∃ x, xs[i]? = some x ∧ key x = k := by
  rw [List.findIdx?_eq_some_iff_getElem]
  constructor
  · rintro ⟨inside, same, -⟩
    exact ⟨xs[i], List.getElem?_eq_getElem inside, by simpa using same⟩
  · rintro ⟨x, found, same⟩
    obtain ⟨inside, value⟩ := List.getElem?_eq_some_iff.mp found
    refine ⟨inside, by simpa [value] using same, ?_⟩
    intro j before
    have distinct := List.pairwise_map.mp apart
    have differ := List.pairwise_iff_getElem.mp distinct j i (by omega) inside before
    rw [value, same] at differ
    simpa using differ

theorem Mapping.position?_eq_some_iff {m : Mapping} {property : String} {i : Nat} :
    m.position? property = some i ↔ ∃ c, m.columns[i]? = some c ∧ c.property = property :=
  findIdx?_of_nodup m.properties_nodup

structure FieldBinding (ρ : Type) where
  property : String
  type : FieldType
  assign : type.Carrier → ρ → ρ

namespace RecordMapping
variable {ρ : Type}

def ofBindings (m : Mapping) (blank : ρ) (bindings : List (FieldBinding ρ)) : RecordMapping ρ :=
  bindings.foldl (fun r b => r.bind b.property b.type b.assign) (ofMapping m blank)

def lastBinding? (bindings : List (FieldBinding ρ)) (property : String) :
    Option (FieldBinding ρ) :=
  bindings.reverse.find? (·.property == property)

variable {m : Mapping} {blank : ρ} {bindings : List (FieldBinding ρ)}

theorem ofBindings_concat (b : FieldBinding ρ) :
    ofBindings m blank (bindings ++ [b]) =
      (ofBindings m blank bindings).bind b.property b.type b.assign := by
  unfold ofBindings
  rw [List.foldl_append]
  rfl

theorem lastBinding?_concat (b : FieldBinding ρ) (property : String) :
    lastBinding? (bindings ++ [b]) property =
      if b.property = property then some b else lastBinding? bindings property := by
  unfold lastBinding?
  rw [List.reverse_append, List.reverse_singleton, List.singleton_append, List.find?_cons]
  by_cases same : b.property = property
  · rw [if_pos same, beq_iff_eq.mpr same]
  · rw [if_neg same, beq_eq_false_iff_ne.mpr same]

theorem bind_frame (r : RecordMapping ρ) (b : FieldBinding ρ) :
    (r.bind b.property b.type b.assign).mapping = r.mapping ∧
      (r.bind b.property b.type b.assign).blank = r.blank := by
  unfold bind
  cases r.mapping.position? b.property <;> exact ⟨rfl, rfl⟩

theorem ofBindings_frame :
    (ofBindings m blank bindings).mapping = m ∧ (ofBindings m blank bindings).blank = blank := by
  induction bindings using List.reverseRecOn with
  | nil => exact ⟨rfl, rfl⟩
  | append_singleton bindings b ih =>
    obtain ⟨mapping, start⟩ := bind_frame (ofBindings m blank bindings) b
    rw [ofBindings_concat, mapping, start]
    exact ih

theorem set_position {α : Type} (f : Column → α) (x : α) {property : String} {i : Nat}
    (found : m.position? property = some i) :
    (m.columns.map f).set i x = m.columns.map fun c => if property = c.property then x else f c := by
  apply List.ext_getElem (by simp)
  intro j inside inside'
  have within : j < m.columns.length := by simpa using inside'
  have at_j : i = j ↔ property = m.columns[j].property := by
    constructor
    · rintro rfl
      obtain ⟨c, column, same⟩ := Mapping.position?_eq_some_iff.mp found
      rw [List.getElem?_eq_getElem within] at column
      cases column
      exact same.symm
    · intro same
      have here : m.position? property = some j :=
        Mapping.position?_eq_some_iff.mpr ⟨_, List.getElem?_eq_getElem within, same.symm⟩
      exact Option.some.inj (found.symm.trans here)
  simp only [List.getElem_set, List.getElem_map, at_j]

theorem ofBindings_setters :
    (ofBindings m blank bindings).setters =
      m.columns.map fun c =>
        (lastBinding? bindings c.property).map fun b => setter b.type b.assign := by
  -- by the last binding, since it is the one that counts
  induction bindings using List.reverseRecOn with
  | nil => rfl
  | append_singleton bindings b ih =>
    rw [ofBindings_concat]
    unfold bind
    rw [ofBindings_frame.1]
    cases found : m.position? b.property with
    | some i =>
      dsimp only
      rw [ih, set_position _ _ found]
      apply List.map_congr_left
      intro c _
      rw [lastBinding?_concat]
      split <;> rfl
    | none =>
      dsimp only
      rw [ih]
      apply List.map_congr_left
      intro c member
      have other : b.property ≠ c.property := by
        intro same
        obtain ⟨i, inside⟩ := List.getElem?_of_mem member
        have mapped := Mapping.position?_eq_some_iff.mpr ⟨c, inside, same.symm⟩
        rw [found] at mapped
        cases mapped
      rw [lastBinding?_concat, if_neg other]

theorem bound_of_validate (valid : (ofBindings m blank bindings).validate = .ok ()) :
    ∀ c ∈ m.columns, ∃ b, lastBinding? bindings c.property = some b := by
  intro c member
  cases bound : lastBinding? bindings c.property with
  | some b => exact ⟨b, rfl⟩
  | none =>
    have listed : c.property ∈ (ofBindings m blank bindings).unbound := by
      unfold unbound
      rw [ofBindings_frame.1, ofBindings_setters]
      refine List.mem_map.mpr ⟨(c, none), List.mem_filter.mpr ⟨?_, rfl⟩, rfl⟩
      rw [← List.map_prod_left_eq_zip, List.mem_map]
      exact ⟨c, member, by rw [bound]; rfl⟩
    unfold validate at valid
    split at valid
    · cases valid
    · split at valid
      · rename_i empty
        rw [List.isEmpty_iff.mp empty] at listed
        cases listed
      · cases valid

end RecordMapping
end Joinery
