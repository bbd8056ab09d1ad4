import Joinery.Proofs.Sql.Dialects
import Joinery.Proofs.Value.Coercion

/-!
How emissions fail. Whether and why a part of a statement cannot be written does not depend
on what is bound before it, and a list of parts fails as the first of them that fails. The
leaves of conditions fail for a property that is not mapped, then for a literal that cannot
be converted.
-/
namespace Joinery.Sql
open Emission

/-- Whatever is bound before it, the emission ends with this failure, or with none. -/
def Fails (e : Emission) (failure : Option Error) : Prop := ∀ n, (e n).failure = failure

theorem fails_tokens (ts : List Token) : Fails (tokens ts) none := fun _ => rfl

theorem fails_param (v : Value) : Fails (param v) none := fun _ => rfl

theorem fails_append {a b : Emission} {o o' : Option Error} (first : Fails a o)
    (second : Fails b o') : Fails (a ++ b) (o.or o') := by
  intro n
  rw [append_apply, first n]
  cases o with
  | none => exact second _
  | some e => exact first n

theorem fails_lead {e : Emission} {o : Option Error} (inside : Fails e o) (ts : List Token) :
    Fails (tokens ts ++ e) o :=
  fails_append (fails_tokens ts) inside

theorem fails_tail {e : Emission} {o : Option Error} (inside : Fails e o) (ts : List Token) :
    Fails (e ++ tokens ts) o := by
  have all := fails_append inside (fails_tokens ts)
  rwa [Option.or_none] at all

theorem fails_parenthesized {e : Emission} {o : Option Error} (inside : Fails e o) :
    Fails (parenthesized e) o :=
  fails_tail (fails_lead inside _) _

theorem fails_foundAt {e : Emission} {o : Option Error} (place : Place) (inside : Fails e o) :
    Fails (foundAt place e) (o.map (Error.foundAt place)) := by
  intro n
  rw [failure_foundAt, inside n]

section Lists
variable {α : Type} {f : α → Emission} {failure : α → Option Error} {xs : List α}

theorem fails_concat (each : ∀ x ∈ xs, Fails (f x) (failure x)) :
    Fails (concat (xs.map f)) (xs.findSome? failure) := by
  induction xs with
  | nil => exact fails_tokens _
  | cons x rest ih =>
    have all := fails_append (each x List.mem_cons_self) (ih fun y member =>
      each y (List.mem_cons_of_mem x member))
    rw [List.findSome?_cons]
    cases own : failure x <;> rwa [own] at all

theorem fails_separated {sep : List Token} (each : ∀ x ∈ xs, Fails (f x) (failure x)) :
    Fails (separated sep (xs.map f)) (xs.findSome? failure) := by
  cases xs with
  | nil => exact fails_tokens _
  | cons x rest =>
    rw [List.map_cons, separated_cons, List.map_map]
    have later : ∀ y ∈ rest, Fails (tokens sep ++ f y) (failure y) := fun y member =>
      fails_lead (each y (List.mem_cons_of_mem x member)) sep
    have all := fails_append (each x List.mem_cons_self) (fails_concat later)
    rw [List.findSome?_cons]
    cases own : failure x <;> rwa [own] at all

theorem fails_combined {connective : Connective} (each : ∀ x ∈ xs, Fails (f x) (failure x)) :
    Fails (combined connective (xs.map f)) (xs.findSome? failure) := by
  cases xs with
  | nil => exact fails_tokens _
  | cons x rest => exact fails_separated each

end Lists

def fault? {α : Type} : Except Fault α → Option Error
  | .ok _ => none
  | .error fault => some (.configuration fault)

theorem fails_require {α : Type} {check : Except Fault α} {k : α → Emission} {later : Option Error}
    (rest : ∀ a, check = .ok a → Fails (k a) later) :
    Fails (require check k) ((fault? check).or later) := by
  cases check with
  | error fault => exact fun n => rfl
  | ok a => exact rest a rfl

theorem fails_checked {α : Type} {check : Except Fault α} {k : α → Emission}
    (rest : ∀ a, Fails (k a) none) : Fails (require check k) (fault? check) := by
  have all : Fails (require check k) ((fault? check).or none) := fails_require fun a _ => rest a
  rwa [Option.or_none] at all

theorem fails_params {sep : List Token} (ws : List Value) :
    Fails (separated sep (ws.map param)) none := by
  have all : Fails (separated sep (ws.map param)) (ws.findSome? fun _ => none) :=
    fails_separated fun w _ => fails_param w
  rwa [List.findSome?_eq_none_iff.mpr fun w _ => rfl] at all

namespace Seat

def unmapped (s : Seat) (property : String) : Option Error := fault? (s.column property)

def unbindable (s : Seat) (property : String) (v : Value) : Option Error :=
  match s.column property with
  | .error _ => none
  | .ok c => fault? (s.coerce c v)

theorem unbindable_eq {s : Seat} {property : String} {c : Column}
    (mapped : s.column property = .ok c) (v : Value) : s.unbindable property v = fault? (s.coerce c v) := by
  simp only [unbindable, mapped]

end Seat

def wordless (d : Dialect) (property : String) : Option Error :=
  if (within? d [] 0 none).isNone then some (.unsupported d (.containment property)) else none

theorem coerceAll_fault (s : Seat) (c : Column) (values : List Value) :
    fault? (coerceAll s c values) = values.findSome? fun v => fault? (s.coerce c v) := by
  induction values with
  | nil => rfl
  | cons v rest ih =>
    rw [coerceAll, List.findSome?_cons, ← ih]
    cases s.coerce c v with
    | error fault => rfl
    | ok w => cases coerceAll s c rest <;> rfl

theorem within?_eq_none {d : Dialect} (column : List Token) (n : Nat) (srid : Option Int64) :
    within? d column n srid = none ↔ within? d [] 0 none = none := by
  cases d <;> simp [within?]

section Leaves
variable (s : Seat) (property : String)

theorem fails_column : Fails (column s property) (s.unmapped property) :=
  fails_checked fun c => fails_tokens (s.qualified c)

theorem fails_compareLiteral (relation : Relation) (v : Value) (positive : Bool) :
    Fails (compareLiteral s property relation v positive)
      ((s.unmapped property).or (s.unbindable property v)) := by
  refine fails_require fun c mapped => ?_
  rw [Seat.unbindable_eq mapped]
  have content : Fails (if v.isNull && relation = .equal then tokens [nullTest positive]
      else require (s.coerce c v) fun w =>
        tokens [.symbol (comparison relation positive), Token.space] ++ param w)
      (fault? (s.coerce c v)) := by
    split
    · rename_i tested
      have null := Value.isNull_iff.mp (Bool.and_eq_true_iff.mp tested).1
      rw [null, Seat.coerce, Value.coerce_null]
      exact fails_tokens _
    · exact fails_checked fun w => fails_lead (fails_param w) _
  exact fails_lead content _

theorem fails_compareColumns (relation : Relation) (positive : Bool) (o : Seat) (other : String) :
    Fails (compareColumns s property relation positive o other)
      ((s.unmapped property).or (o.unmapped other)) :=
  fails_append (fails_tail (fails_column s property) _) (fails_column o other)

theorem fails_membership (values : List Value) (positive : Bool) :
    Fails (membership s property values positive)
      (if values.isEmpty then none
        else (s.unmapped property).or (values.findSome? (s.unbindable property))) := by
  unfold membership
  split
  · exact fails_tokens _
  · refine fails_require fun c mapped => ?_
    rw [funext (Seat.unbindable_eq mapped), ← coerceAll_fault]
    exact fails_checked fun ws => fails_tail (fails_lead (fails_params ws) _) _

theorem fails_containmentIn (d : Dialect) (shape : Shape) (positive : Bool) :
    Fails (containmentIn d s property shape positive)
      ((s.unmapped property).or (wordless d property)) := by
  rw [containmentIn_eq]
  refine fails_require fun c mapped => ?_
  unfold wordless
  cases template : template? d (s.qualified c) shape.srid with
  | none =>
    rw [wordless_of_template? template, if_pos Option.isNone_none]
    exact fun n => rfl
  | some t =>
    have expressible : ¬ (within? d [] 0 none).isNone = true := by
      rw [Option.isNone_iff_eq_none, ← within?_eq_none (s.qualified c) 0 shape.srid,
        within?_eq_template?, template]
      simp
    rw [if_neg expressible]
    exact fails_tail (fails_lead (fails_param _) _) _

end Leaves
end Joinery.Sql
